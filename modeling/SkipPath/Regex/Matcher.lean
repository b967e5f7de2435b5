import SkipPath.Regex.Syntax
import SkipPath.Text.Blank
import SkipPath.Text.Casing
import SkipPath.Text.Word

/-!
Matching an expression against a text (`re.search`).

A cursor is a place in the text together with what the groups have captured so far.  `run` gives, for a
node and a cursor, the cursors at which a match of the node may end, the preferred one first; the
repetitions end because of the rounds after the required ones only the last may take nothing.
A search looks for a match from every place of the text.
-/

namespace SkipPath.Regex

/-- A place in a text, and what the groups have captured. -/
structure Cursor where
  /-- The text before the place, last character first. -/
  before : Text
  /-- The text after the place. -/
  after : Text
  captures : List (Nat × Text) := []
deriving Repr, DecidableEq

namespace Category

/-- Whether a character is of a kind. -/
def holds (ascii : Bool) (kind : Category) (c : CodePoint) : Bool :=
  (!ascii || c.toNat < 128) &&
    match kind with
    | .digit => (Text.digitValue? c).isSome
    | .space => Text.isBlank c && !(ascii && 0x1C ≤ c.toNat && c.toNat ≤ 0x1F)
    | .word => Text.isWord c

end Category

namespace ClassItem

/-- Whether a character belongs to a member of a class. -/
def holds (ascii : Bool) (item : ClassItem) (c : CodePoint) : Bool :=
  match item with
  | .single n => c.toNat = n
  | .range low high => low ≤ c.toNat && c.toNat ≤ high
  | .category kind negated => kind.holds ascii c != negated

end ClassItem

/-- The spellings of a character that count as the same. -/
def spellings (f : Flags) (c : CodePoint) : List CodePoint :=
  if f.ignoreCase then
    [c, Text.smallChar c] ++ match Text.capitalOf c with
      | [d] => [d]
      | _ => []
  else [c]

/-- Whether a character belongs to a class. -/
def classHolds (f : Flags) (negated : Bool) (items : List ClassItem) (c : CodePoint) : Bool :=
  (spellings f c).any (fun d => items.any (·.holds f.ascii d)) != negated

/-- Whether a character is the one with a number. -/
def charHolds (f : Flags) (n : Nat) (c : CodePoint) : Bool := (spellings f c).any (·.toNat = n)

/-- A text in the one of its spellings by which it is compared with a captured text. -/
def folded (f : Flags) (t : Text) : Text := if f.ignoreCase then t.map Text.smallChar else t

/-- Whether the place of a cursor satisfies a condition. -/
def Anchor.holds (f : Flags) (place : Anchor) (k : Cursor) : Bool :=
  let isWordAt (t : Text) := t.head?.any (Category.word.holds f.ascii)
  match place with
  | .textStart => k.before.isEmpty
  | .lineStart => k.before.isEmpty || (f.multiline && k.before.head? = some (.char '\n'))
  | .textEnd => k.after.isEmpty
  | .lineEnd =>
    k.after.isEmpty || k.after = [.char '\n'] || (f.multiline && k.after.head? = some (.char '\n'))
  | .wordEdge => isWordAt k.before != isWordAt k.after
  | .noWordEdge => !(k.before.isEmpty && k.after.isEmpty) && isWordAt k.before == isWordAt k.after

/-- The cursor after the next character, if that satisfies `p`. -/
def Cursor.next (p : CodePoint → Bool) (k : Cursor) : List Cursor :=
  match k.after with
  | [] => []
  | c :: rest => if p c then [{ k with before := c :: k.before, after := rest }] else []

/-- The text between a cursor and a later one. -/
def Cursor.between (k later : Cursor) : Text :=
  (later.before.take (later.before.length - k.before.length)).reverse

/-- What a group has captured. -/
def Cursor.capture? (k : Cursor) (index : Nat) : Option Text :=
  (k.captures.find? (·.1 == index)).map (·.2)

/-- The cursor moved back by so many characters. -/
def Cursor.back : (count : Nat) → Cursor → Option Cursor
  | 0, k => some k
  | count + 1, k =>
    match k.before with
    | [] => none
    | c :: rest => Cursor.back count { k with before := rest, after := c :: k.after }

/-- The cursors after exactly so many rounds. -/
def times (round : Cursor → List Cursor) : (count : Nat) → Cursor → List Cursor
  | 0, k => [k]
  | count + 1, k => ((round k).eraseDups).flatMap (times round count)

/-- The cursors after at most so many further rounds, of which one that takes nothing is the last: with the
most rounds first, or with the fewest. -/
def rounds (lazy : Bool) (round : Cursor → List Cursor) : (limit : Nat) → Cursor → List Cursor
  | 0, k => [k]
  | limit + 1, k =>
    let more := (round k).eraseDups.flatMap fun later =>
      if later.after.length < k.after.length then rounds lazy round limit later else [later]
    if lazy then k :: more else more ++ [k]

/-- The cursor after exactly so many rounds, each of which ends where it is preferred to end. -/
def firmTimes (round : Cursor → List Cursor) : (count : Nat) → Cursor → Option Cursor
  | 0, k => some k
  | count + 1, k => (round k).head?.bind (firmTimes round count)

/-- The cursor after as many further rounds as there are, up to a limit, each of which ends where it is
preferred to end; one that takes nothing is the last. -/
def firmRounds (round : Cursor → List Cursor) : (limit : Nat) → Cursor → Cursor
  | 0, k => k
  | limit + 1, k =>
    match (round k).head? with
    | none => k
    | some later =>
      if later.after.length < k.after.length then firmRounds round limit later else later

/-- The switches inside a group that has some of its own. -/
def Flags.switched (f on off : Flags) : Flags :=
  { ignoreCase := (f.ignoreCase || on.ignoreCase) && !off.ignoreCase
    multiline := (f.multiline || on.multiline) && !off.multiline
    dotAll := (f.dotAll || on.dotAll) && !off.dotAll
    verbose := f.verbose
    ascii := (f.ascii || on.ascii) && !on.unicode
    unicode := f.unicode || on.unicode
    template := f.template }

/-- The cursors at which a match of a node may end. -/
def Node.run (f : Flags) : Node → Cursor → List Cursor
  | .empty, k => [k]
  | .char n, k => k.next (charHolds f n)
  | .any, k => k.next (fun c => f.dotAll || c != '\n')
  | .charClass negated items, k => k.next (classHolds f negated items)
  | .anchor place, k => if place.holds f k then [k] else []
  | .seq a b, k => ((a.run f k).flatMap (b.run f)).eraseDups
  | .alt a b, k => a.run f k ++ b.run f k
  | .group index body, k =>
    (body.run f k).map fun later =>
      { later with captures := (index, k.between later) :: later.captures }
  | .flagged on off body, k => body.run (f.switched on off) k
  | .repetition greed low high body, k =>
    let round := body.run f
    let limit (start : Cursor) :=
      match high with
      | some high => min (high - low) (start.after.length + 1)
      | none => start.after.length + 1
    match greed with
    | .possessive => ((firmTimes round low k).map fun start => firmRounds round (limit start) start).toList
    | _ => (times round low k).flatMap fun start => rounds (greed = .lazy) round (limit start) start
  | .atomic body, k => (body.run f k).take 1
  | .look behind negated body, k =>
    let found :=
      if behind then
        (List.range (k.before.length + 1)).findSome? fun count =>
          (Cursor.back count k).bind fun start =>
            (body.run f start).find? (·.after.length = k.after.length)
      else (body.run f k).head?
    match found with
    | some later => if negated then [] else [{ k with captures := later.captures }]
    | none => if negated then [k] else []
  | .backReference index, k =>
    match k.capture? index with
    | none => []
    | some t =>
      let found := k.after.take t.length
      if folded f found = folded f t then
        [{ k with before := found.reverse ++ k.before, after := k.after.drop t.length }]
      else []
  | .conditional index yes no, k =>
    if (k.capture? index).isSome then yes.run f k else no.run f k

/-- Whether a match starts at the place of a cursor or at a later one. -/
def Expression.searchFrom (e : Expression) (before : Text) (after : Text) : Bool :=
  !(e.tree.run e.flags { before := before, after := after }).isEmpty ||
    match after with
    | [] => false
    | c :: rest => e.searchFrom (c :: before) rest

/-- Whether a text holds a match. -/
def Expression.search (e : Expression) (t : Text) : Bool := e.searchFrom [] t

end SkipPath.Regex
