import SkipPath.Regex.Bracket
import SkipPath.Regex.Switch
import SkipPath.Regex.Width
import SkipPath.Text.Integer
import SkipPath.Text.Word

/-!
Reading a regular expression (`re.compile`).

The tokens are read from left to right in one loop.  The groups that are open form a stack of frames;
each frame holds its finished alternatives and the items of the current one, last first.  A step takes
one token and says how many more it has used, so the loop ends because the tokens do.

The first problem met is the one reported.  A lone backslash at the end is met as soon as the token
before it has been read, and so comes before any problem found from there on.
-/

namespace SkipPath.Regex

/-- What a repetition has to know of the item before it. -/
inductive ItemKind where
  /-- An item that can be repeated. -/
  | single
  /-- A condition on a place, which cannot. -/
  | anchor
  /-- A repetition, which cannot either. -/
  | repeated
deriving Repr, DecidableEq

/-- One item of an alternative. -/
structure Item where
  node : Node
  kind : ItemKind := .single
deriving Repr

/-- What an open group is. -/
inductive Opener where
  /-- The whole expression. -/
  | whole
  | capture (index : Nat)
  /-- A group that is not captured. -/
  | plain
  | flagged (on off : Flags)
  | atomic
  /-- A condition on the surroundings, and the bound on references that held outside of it. -/
  | look (behind negated : Bool) (bound : Option Nat)
  /-- A choice by a group, with the first of the two expressions once it is read. -/
  | conditional (index : Nat) (yes : Option Node)
deriving Repr

/-- An open group. -/
structure Frame where
  opener : Opener
  /-- The length of the text from the parenthesis on. -/
  extent : Nat := 0
  /-- The finished alternatives, last first. -/
  branches : List Node := []
  /-- The items of the current alternative, last first. -/
  items : List Item := []
  /-- Whether blanks and comments are passed over. -/
  verbose : Bool := false
deriving Repr

namespace Frame

/-- The current alternative. -/
def branch (f : Frame) : Node := .sequence (f.items.reverse.map (·.node))

/-- All alternatives. -/
def body (f : Frame) : Node := .choice (f.branch :: f.branches).reverse

end Frame

/-- The state of reading. -/
structure State where
  /-- The switches that hold everywhere. -/
  flags : Flags := {}
  /-- The widths of the groups by number, none as long as the group is open. -/
  widths : List (Option Width) := [none]
  names : List (Text × Nat) := []
  /-- Inside a look back: references must go to groups below this number. -/
  bound : Option Nat := none
  /-- The groups that choices ask for by number, with the place of the first one. -/
  asked : List (Nat × Trouble) := []
  frame : Frame := { opener := .whole }
  parents : List Frame := []
deriving Repr

namespace State

/-- The state with one more item. -/
def push (s : State) (node : Node) (kind : ItemKind := .single) : State :=
  { s with frame := { s.frame with items := { node := node, kind := kind } :: s.frame.items } }

/-- Whether a group exists and is closed. -/
def isClosed (s : State) (index : Nat) : Bool := ((s.widths[index]?).getD none).isSome

/-- A reference inside a look back must go to a group that was closed before. -/
def checkBound (s : State) (index : Nat) (rest : List Token) : Except Trouble Unit :=
  match s.bound with
  | none => .ok ()
  | some bound =>
    if !s.isClosed index then .error (Token.trouble .openReference rest 0)
    else if bound ≤ index then .error (Token.trouble .lookbehindReference rest 0)
    else .ok ()

/-- The state inside a new group; `used` is the number of characters from the parenthesis up to
`rest`. -/
def enter (s : State) (opener : Opener) (verbose : Bool) (used : Nat) (rest : List Token) : State :=
  { s with
    frame := { opener := opener, extent := used + Token.totalWidth rest, verbose := verbose }
    parents := s.frame :: s.parents }

/-- The state with one more group that is captured, and its number. -/
def newGroup (s : State) (name : Option Text) (rest : List Token) : Except Trouble (State × Nat) :=
  let index := s.widths.length
  let s := { s with widths := s.widths ++ [none] }
  match name with
  | none => .ok (s, index)
  | some name =>
    match s.names.find? (·.1 == name) with
    | some (_, earlier) =>
      .error (Token.trouble (.redefinedGroup name index earlier) rest (name.length + 1))
    | none => .ok ({ s with names := (name, index) :: s.names }, index)

end State

/-- The outcome of a step: the new state, and how many tokens after the first were used. -/
abbrev Step := Except Trouble (State × Nat)

/-- A name of a group: a letter or the underscore, and then word characters. -/
def isGroupName : Text → Bool
  | [] => false
  | c :: rest => (c = '_' || Text.isLetter c) && rest.all Text.isWord

/-- A problem with a name that has just been read together with its end. -/
def nameTrouble (problem : Problem) (name : Text) (rest : List Token) : Trouble :=
  Token.trouble problem rest (name.length + 1)

/-- An escape outside of classes. -/
def stepEscape (s : State) (c : CodePoint) (rest : List Token) : Step := do
  let (meaning, count) ← Escape.outside c rest
  let after := rest.drop count
  match meaning with
  | .char n => .ok (s.push (.char n), count)
  | .category kind negated => .ok (s.push (.charClass false [.category kind negated]), count)
  | .anchor place => .ok (s.push (.anchor place) .anchor, count)
  | .reference index =>
    if s.widths.length ≤ index then
      .error (Token.trouble (.invalidReference index) after (count + 1))
    else if !s.isClosed index then .error (Token.trouble .openReference after (count + 2))
    else do
      s.checkBound index after
      .ok (s.push (.backReference index), count)

/-- A bar: the current alternative is finished. -/
def stepBar (s : State) (rest : List Token) : Step :=
  match s.frame.opener with
  | .conditional index none =>
    .ok ({ s with
      frame := { s.frame with opener := .conditional index (some s.frame.branch), items := [] } }, 0)
  | .conditional _ (some _) => .error (Token.trouble .manyBranches (.plain '|' :: rest) 0)
  | opener =>
    let verbose := match opener with
      | .whole => s.flags.verbose
      | _ => s.frame.verbose
    .ok ({ s with
      frame := { s.frame with
        branches := s.frame.branch :: s.frame.branches, items := [], verbose := verbose } }, 0)

/-- A closing parenthesis: the group becomes an item of the one around it. -/
def stepClose (s : State) (rest : List Token) : Step :=
  match s.parents with
  | [] =>
    let problem := if s.flags.ascii && s.flags.unicode then .asciiAndUnicode else .unbalanced
    .error (Token.trouble problem (.plain ')' :: rest) 0)
  | parent :: parents =>
    let body := s.frame.body
    let outer := { s with frame := parent, parents := parents }
    match s.frame.opener with
    | .whole | .plain => .ok (outer.push body, 0)
    | .capture index =>
      let widths := outer.widths.set index (some (body.width outer.widths))
      .ok ({ outer with widths := widths }.push (.group index body), 0)
    | .flagged on off => .ok (outer.push (.flagged on off body), 0)
    | .atomic => .ok (outer.push (.atomic body), 0)
    | .look behind negated bound =>
      .ok ({ outer with bound := bound }.push (.look behind negated body), 0)
    | .conditional index none => .ok (outer.push (.conditional index s.frame.branch .empty), 0)
    | .conditional index (some yes) =>
      .ok (outer.push (.conditional index yes s.frame.branch), 0)

/-- The largest number of repetitions that can be asked for, and one more. -/
def maxRepeat : Nat := 0xFFFFFFFF

/-- How often an item is repeated, and how many tokens say so after the first. -/
structure Quantifier where
  min : Nat
  max : Option Nat
  count : Nat
deriving Repr

/-- The numbers between braces, after the opening one.  Without them, or without the closing brace, the
opening one is a plain character. -/
def bounds (rest : List Token) : Except Trouble (Option Quantifier) :=
  if rest.head? = some (.plain '\x7d') then .ok none
  else
    let low := Token.takePlain Text.isAsciiDigit rest.length rest
    let after := rest.drop low.length
    let comma := after.head? = some (.plain ',')
    let more := if comma then after.drop 1 else after
    let high := if comma then Token.takePlain Text.isAsciiDigit more.length more else low
    let tail := if comma then more.drop high.length else more
    match tail with
    | .plain '\x7d' :: final =>
      let min := Token.number 10 low
      let max := if high.isEmpty then none else some (Token.number 10 high)
      let used := rest.length - final.length
      if maxRepeat ≤ min then .error (Token.trouble .repetitionTooLarge final 0)
      else match max with
        | none => .ok (some { min := min, max := none, count := used })
        | some high =>
          if maxRepeat ≤ high then .error (Token.trouble .repetitionTooLarge final 0)
          else if high < min then .error (Token.trouble .repeatOrder final used)
          else .ok (some { min := min, max := some high, count := used })
    | _ => .ok none

/-- How a repetition chooses, by the character after it. -/
def greedOf (rest : List Token) : Greed × Nat :=
  match rest with
  | .plain '?' :: _ => (.lazy, 1)
  | .plain '+' :: _ => (.possessive, 1)
  | _ => (.greedy, 0)

/-- A repetition of the item before it. -/
def stepRepeat (s : State) (q : Quantifier) (rest : List Token) : Step :=
  let after := rest.drop q.count
  match s.frame.items with
  | [] => .error (Token.trouble .nothingToRepeat after (q.count + 1))
  | item :: items =>
    match item.kind with
    | .anchor => .error (Token.trouble .nothingToRepeat after (q.count + 1))
    | .repeated => .error (Token.trouble .multipleRepeat after (q.count + 1))
    | .single =>
      let (greed, more) := greedOf after
      let s := { s with frame := { s.frame with items := items } }
      .ok (s.push (.repetition greed q.min q.max item.node) .repeated, q.count + more)

/-- A group with a name, or a reference to one; `rest` follows the letter that announces it. -/
def stepNamed (s : State) (rest : List Token) : Step :=
  let what := Text.ofString "group name"
  match rest with
  | .plain '<' :: rest => do
    let (name, count) ← Token.untilTerminator '>' what [] rest
    let after := rest.drop count
    if !isGroupName name then .error (nameTrouble (.badGroupName name) name after)
    else
      let (s, index) ← s.newGroup (some name) after
      .ok (s.enter (.capture index) s.frame.verbose (name.length + 5) after, count + 3)
  | .plain '=' :: rest => do
    let (name, count) ← Token.untilTerminator ')' what [] rest
    let after := rest.drop count
    if !isGroupName name then .error (nameTrouble (.badGroupName name) name after)
    else match s.names.find? (·.1 == name) with
      | none => .error (nameTrouble (.unknownGroupName name) name after)
      | some (_, index) =>
        if !s.isClosed index then .error (nameTrouble .openReference name after)
        else do
          s.checkBound index after
          .ok (s.push (.backReference index), count + 3)
  | [] => .error (Token.trouble .unexpectedEnd [] 0)
  | t :: rest => .error (Token.trouble (.unknownExtension ('P' :: t.text)) rest (t.width + 2))

/-- Groups that choices can ask for have numbers below this one. -/
def maxGroups : Nat := 0x7FFFFFFF

/-- The group that a choice asks for, by its name or its number. -/
def askedGroup (s : State) (name : Text) (after : List Token) : Except Trouble (State × Nat) :=
  if isGroupName name then
    match s.names.find? (·.1 == name) with
    | some (_, index) => .ok (s, index)
    | none => .error (nameTrouble (.unknownGroupName name) name after)
  else
    match Text.Integer.read name with
    | .error _ => .error (nameTrouble (.badGroupName name) name after)
    | .ok n =>
      if n < 0 then .error (nameTrouble (.badGroupName name) name after)
      else if n = 0 then .error (nameTrouble .badGroupNumber name after)
      else if (maxGroups : Int) ≤ n then
        .error (nameTrouble (.invalidReference n.toNat) name after)
      else
        let index := n.toNat
        let asked := if s.asked.any (·.1 == index) then s.asked
          else s.asked ++ [(index, nameTrouble (.invalidReference index) name after)]
        .ok ({ s with asked := asked }, index)

/-- A choice by a group; `rest` follows its second parenthesis. -/
def stepConditional (s : State) (rest : List Token) : Step := do
  let (name, count) ← Token.untilTerminator ')' (Text.ofString "group name") [] rest
  let after := rest.drop count
  let (s, index) ← askedGroup s name after
  s.checkBound index after
  .ok (s.enter (.conditional index none) s.frame.verbose (name.length + 4) after, count + 2)

/-- A condition on the surroundings; `used` tokens stand between the parenthesis and `rest`. -/
def enterLook (s : State) (behind negated : Bool) (used : Nat) (rest : List Token) : State × Nat :=
  let bound := if behind then s.bound.or (some s.widths.length) else s.bound
  let inner := { s with bound := bound }
  (inner.enter (.look behind negated s.bound) s.frame.verbose (used + 1) rest, used)

/-- Switches at the start of a group; `rest` follows the first of them. -/
def stepSwitch (s : State) (c : CodePoint) (rest : List Token) : Step := do
  match ← Switch.read c rest with
  | .everywhere on count =>
    let atStart := match s.frame.opener with
      | .whole => s.frame.branches.isEmpty && s.frame.items.isEmpty
      | _ => false
    if !atStart then .error (Token.trouble .lateFlags (rest.drop count) (count + 3))
    else
      let flags := Switch.union s.flags (Switch.ofLetters on)
      .ok ({ s with flags := flags, frame := { s.frame with verbose := flags.verbose } }, count + 2)
  | .inside on off count =>
    let verbose := (s.frame.verbose || on.contains 'x') && !off.contains 'x'
    let opener := if on.isEmpty && off.isEmpty then .plain
      else .flagged (Switch.ofLetters on) (Switch.ofLetters off)
    .ok (s.enter opener verbose (count + 3) (rest.drop count), count + 2)

/-- A comment: all tokens up to the next closing parenthesis. -/
def stepComment (s : State) (rest : List Token) : Step :=
  let text := rest.takeWhile (· != .plain ')')
  if text.length = rest.length then
    .error (Token.trouble .unterminatedComment [] (Token.totalWidth rest + 3))
  else .ok (s, text.length + 3)

/-- An opening parenthesis. -/
def stepOpen (s : State) (rest : List Token) : Step :=
  match rest with
  | .plain '?' :: rest =>
    match rest with
    | [] => .error (Token.trouble .unexpectedEnd [] 0)
    | .plain 'P' :: rest => stepNamed s rest
    | .plain ':' :: rest => .ok (s.enter .plain s.frame.verbose 3 rest, 2)
    | .plain '#' :: rest => stepComment s rest
    | .plain '=' :: rest => .ok (enterLook s false false 2 rest)
    | .plain '!' :: rest => .ok (enterLook s false true 2 rest)
    | .plain '<' :: rest =>
      match rest with
      | [] => .error (Token.trouble .unexpectedEnd [] 0)
      | .plain '=' :: rest => .ok (enterLook s true false 3 rest)
      | .plain '!' :: rest => .ok (enterLook s true true 3 rest)
      | t :: rest => .error (Token.trouble (.unknownExtension ('<' :: t.text)) rest (t.width + 2))
    | .plain '(' :: rest => stepConditional s rest
    | .plain '>' :: rest => .ok (s.enter .atomic s.frame.verbose 3 rest, 2)
    | .plain c :: rest =>
      if c = '-' || Switch.letters.contains c then stepSwitch s c rest
      else .error (Token.trouble (.unknownExtension [c]) rest 2)
    | .escape c :: rest =>
      .error (Token.trouble (.unknownExtension ['\\', c]) rest 3)
  | _ => do
    let (s, index) ← s.newGroup none rest
    .ok (s.enter (.capture index) s.frame.verbose 1 rest, 0)

/-- A blank between the items of an expression that may be spread out. -/
def isPatternBlank (c : CodePoint) : Bool :=
  c = ' ' || c = '\t' || c = '\n' || c = '\r' || c = '\x0b' || c = '\x0c'

/-- One step: the token `t` is taken, and `rest` is what follows it. -/
def step (s : State) (t : Token) (rest : List Token) : Step :=
  match t with
  | .escape c => stepEscape s c rest
  | .plain c =>
    if s.frame.verbose && isPatternBlank c then .ok (s, 0)
    else if s.frame.verbose && c = '#' then
      .ok (s, (rest.takeWhile (· != .plain '\n')).length + 1)
    else match c with
      | '|' => stepBar s rest
      | ')' => stepClose s rest
      | '[' => do
        let reading ← Bracket.read rest
        .ok (s.push (.charClass reading.negated reading.items), reading.count)
      | '?' => stepRepeat s { min := 0, max := some 1, count := 0 } rest
      | '*' => stepRepeat s { min := 0, max := none, count := 0 } rest
      | '+' => stepRepeat s { min := 1, max := none, count := 0 } rest
      | '\x7b' =>
        match bounds rest with
        | .error trouble => .error trouble
        | .ok none => .ok (s.push (.char c.toNat), 0)
        | .ok (some quantifier) => stepRepeat s quantifier rest
      | '.' => .ok (s.push .any, 0)
      | '(' => stepOpen s rest
      | '^' => .ok (s.push (.anchor .lineStart) .anchor, 0)
      | '$' => .ok (s.push (.anchor .lineEnd) .anchor, 0)
      | c => .ok (s.push (.char c.toNat), 0)

/-- The trouble as it is when it is met at the end of the text only. -/
def Trouble.late (t : Trouble) : Trouble :=
  { t with place := t.place.map fun (left, back) => (0, left + back) }

/-- The end of the tokens: no group may be open, and every group that a choice asks for has to exist. -/
def finish (s : State) : Except Trouble Expression :=
  if !s.parents.isEmpty then
    .error { problem := .unterminatedGroup, place := some (0, s.frame.extent) }
  else if s.flags.ascii && s.flags.unicode then .error { problem := .asciiAndUnicode }
  else
    match s.asked.find? (fun a => s.widths.length ≤ a.1) with
    | some (_, trouble) => .error trouble.late
    | none =>
      let tree := s.frame.body
      match tree.problem? s.flags.template s.widths with
      | some problem => .error { problem := problem }
      | none => .ok { flags := s.flags, tree := tree }

/-- All steps. -/
def readTokens (s : State) : List Token → Except Trouble Expression
  | [] => finish s
  | t :: rest =>
    match step s t rest with
    | .error trouble => .error trouble
    | .ok (s, count) => readTokens s (rest.drop count)
termination_by tokens => tokens.length
decreasing_by simp only [List.length_drop, List.length_cons]; omega

/-- The trouble as it concerns the whole text, which has `total` characters. -/
def Trouble.refusal (total : Nat) (t : Trouble) : Refusal :=
  { problem := t.problem, position := t.place.map fun (left, back) => total - left - back }

/-- Whether a trouble was met before all tokens had been taken. -/
def Trouble.isEarly (t : Trouble) : Bool :=
  match t.place with
  | some (left, _) => 0 < left
  | none => false

/-- The expression that a text stands for. -/
def parse (text : Text) : Except Refusal Expression :=
  let (tokens, dangling) := Token.scan text
  let total := Token.totalWidth tokens
  match readTokens {} tokens with
  | .ok expression =>
    if dangling then .error { problem := .escapeAtEnd, position := some total }
    else .ok expression
  | .error trouble =>
    if dangling && !trouble.isEarly then .error { problem := .escapeAtEnd, position := some total }
    else .error (trouble.refusal total)

end SkipPath.Regex
