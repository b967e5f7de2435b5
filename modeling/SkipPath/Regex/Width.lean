import SkipPath.Regex.Problem
import SkipPath.Regex.Syntax

/-!
How much text an expression matches, at least and at most, and the checks that need it: what stands
before a place can be looked at only by an expression of one width.
-/

namespace SkipPath.Regex

/-- The least and the greatest width of a match. -/
abbrev Width := Nat × Nat

/-- Widths from here on count as infinite. -/
def Width.cap : Nat := Nat.pow 2 64

/-- A width below the cap. -/
def Width.capped (w : Width) : Width := (min w.1 Width.cap, min w.2 Width.cap)

/-- The width of an expression, given those of the groups, by number. -/
def Node.width (groups : List (Option Width)) : Node → Width
  | .empty => (0, 0)
  | .char _ | .any | .charClass _ _ => (1, 1)
  | .anchor _ => (0, 0)
  | .seq a b =>
    let v := a.width groups
    let w := b.width groups
    Width.capped (v.1 + w.1, v.2 + w.2)
  | .alt a b =>
    let v := a.width groups
    let w := b.width groups
    (min v.1 w.1, max v.2 w.2)
  | .group _ body => body.width groups
  | .flagged _ _ body => body.width groups
  | .repetition _ low high body =>
    let w := body.width groups
    Width.capped
      (w.1 * low,
        match high with
        | some high => w.2 * high
        | none => if w.2 = 0 then 0 else Width.cap)
  | .atomic body => body.width groups
  | .look _ _ _ => (0, 0)
  | .backReference index => ((groups[index]?).getD none).getD (0, 0)
  | .conditional _ yes no =>
    let v := yes.width groups
    let w := no.width groups
    (min v.1 w.1, max v.2 w.2)

/-- The name of a way to repeat, as a problem shows it. -/
def Greed.name : Greed → Text
  | .greedy => Text.ofString "MAX_REPEAT"
  | .lazy => Text.ofString "MIN_REPEAT"
  | .possessive => Text.ofString "POSSESSIVE_REPEAT"

/-- The longest look back. -/
def maxLookbehind : Nat := 0xFFFFFFFF

/-- The first problem that an expression has as a whole: a repetition where the switches forbid it, or a
look back by an expression of several widths. -/
def Node.problem? (template : Bool) (groups : List (Option Width)) : Node → Option Problem
  | .empty | .char _ | .any | .charClass _ _ | .anchor _ | .backReference _ => none
  | .seq a b | .alt a b => (a.problem? template groups).or (b.problem? template groups)
  | .conditional _ a b => (a.problem? template groups).or (b.problem? template groups)
  | .group _ body | .flagged _ _ body | .atomic body => body.problem? template groups
  | .repetition greed _ _ body =>
    if template then some (.templateRepeat greed.name) else body.problem? template groups
  | .look behind _ body =>
    let w := body.width groups
    if behind && maxLookbehind < w.1 then some .lookbehindTooLong
    else if behind && w.1 != w.2 then some .lookbehindWidth
    else body.problem? template groups

end SkipPath.Regex
