import SkipPath.Json.Shown
import SkipPath.Log.Template.Style
import SkipPath.Text.Ascii

/-!
Templates of messages: texts with holes for values, filled as the operator `%` does it.

A hole is a percent sign that no second one follows, perhaps the name of a member in parentheses, flags, a
width, a precision, and a letter that says how the value is written.  Holes take the values in order, or, with
names, the members of the one object that is given.  A template is filled from left to right, so the first
hole that cannot be filled decides what the problem is; values that no hole takes are a problem too.
-/

namespace SkipPath.Log

namespace Template

/-- Why a template cannot be filled. -/
inductive Problem where
  /-- There are more holes than values. -/
  | tooFew
  /-- There are more values than holes. -/
  | tooMany
  /-- A hole asks for a member, but no object is given. -/
  | noMembers
  /-- The name of a member does not end. -/
  | openName
  /-- The object has no member of the name. -/
  | noMember (name : Text)
  /-- The template ends inside a hole. -/
  | openHole
  /-- The letter says nothing, at the given position. -/
  | letter (c : CodePoint) (position : Nat)
  /-- The value is no number, where one with a fraction is written. -/
  | notReal (value : Json)
  /-- The value is no number. -/
  | notNumber (letter : CodePoint) (value : Json)
  /-- The value is no whole number. -/
  | notWhole (letter : CodePoint) (value : Json)
  /-- The width or the precision is to be a value that is no whole number. -/
  | size
  /-- The width or the precision is to be a value that is too large. -/
  | sizeRange (word : Text)
  /-- The value is neither a character nor its number. -/
  | notCharacter
  /-- There is no character of the number. -/
  | characterRange
deriving Repr

/-- What is said about a problem, after the word for its kind. -/
def Problem.account (p : Problem) : Text :=
  let say := Text.ofString
  match p with
  | .tooFew => say "TypeError: not enough arguments for format string"
  | .tooMany => say "TypeError: not all arguments converted during string formatting"
  | .noMembers => say "TypeError: format requires a mapping"
  | .openName => say "ValueError: incomplete format key"
  | .noMember name => say "KeyError: " ++ Text.quoted name
  | .openHole => say "ValueError: incomplete format"
  | .letter c position =>
    let shown := if 31 < c.toNat && c.toNat < 127 then c else '?'
    let digits := digitsOf 16 c.toNat
    say "ValueError: unsupported format character '" ++ shown :: say "' (0x" ++ digits
      ++ say s!") at index {position}"
  | .notReal value => say "TypeError: must be real number, not " ++ value.kindName
  | .notNumber form value =>
    say "TypeError: %" ++ form :: say " format: a real number is required, not " ++ value.kindName
  | .notWhole form value =>
    say "TypeError: %" ++ form :: say " format: an integer is required, not " ++ value.kindName
  | .size => say "TypeError: * wants int"
  | .sizeRange word => say "OverflowError: Python int too large to convert to C " ++ word
  | .notCharacter => say "TypeError: %c requires int or char"
  | .characterRange => say "OverflowError: %c arg not in range(0x110000)"

/-- The values that are left. -/
inductive Values where
  /-- Values in order. -/
  | row (values : List Json)
  /-- The members of one object, and the value for the next hole: the whole object at first, then the member
  that the hole names. -/
  | members (object : List (Text × Json)) (value : Option Json)

namespace Values

/-- The values of a list; one object that is not empty gives its members. -/
def ofList : List Json → Values
  | [.object named] => if named.isEmpty then .row [.object []] else .members named (some (.object named))
  | values => .row values

/-- The next value. -/
def next : Values → Except Problem (Json × Values)
  | .row (value :: values) => .ok (value, .row values)
  | .members object (some value) => .ok (value, .members object none)
  | _ => .error .tooFew

/-- Whether values are left that a hole should have taken. -/
def areLeft : Values → Bool
  | .row values => !values.isEmpty
  | .members _ _ => false

end Values

/-- A text with every character that is not ASCII written by its number. -/
def asciiOnly (t : Text) : Text :=
  t.flatMap fun c =>
    if c.toNat < 0x80 then [c]
    else if c.toNat < 0x100 then '\\' :: 'x' :: Text.hexDigits 2 c.toNat
    else if c.toNat < 0x10000 then '\\' :: 'u' :: Text.hexDigits 4 c.toNat
    else '\\' :: 'U' :: Text.hexDigits 8 c.toNat

/-- A whole number: yes and no count as one and zero. -/
def whole? : Json → Option Int
  | .int n => some n
  | .bool b => some (if b then 1 else 0)
  | _ => none

/-- A number without its fraction. -/
def truncated? : Json → Option Int
  | .decimal units places => some (units.tdiv (Nat.pow 10 places))
  | value => whole? value

/-- A number as it is kept, with its sign. -/
def real? : Json → Option (Bool × Rat)
  | .decimal units places => some (units < 0, Rounding.kept (mkRat units (Nat.pow 10 places)))
  | value => (whole? value).map fun n => (n < 0, Rounding.kept n)

/-- A value as a letter says. -/
def write (s : Style) (letter : CodePoint) (position : Nat) (value : Json) : Except Problem Text :=
  let inBase (base : Nat) (mark : Text) : Except Problem Text :=
    match whole? value with
    | some n => .ok (s.whole n base mark)
    | none => .error (.notWhole letter value)
  let withFraction (form : CodePoint) : Except Problem Text :=
    match real? value with
    | some (negative, q) => .ok (s.signed negative [] (s.real form q))
    | none => .error (.notReal value)
  match letter with
  | 's' => .ok (s.text value.shown)
  | 'r' => .ok (s.text value.inner)
  | 'a' => .ok (s.text (asciiOnly value.inner))
  | 'd' | 'i' | 'u' =>
    match truncated? value with
    | some n => .ok (s.whole n 10 [])
    | none => .error (.notNumber letter value)
  | 'o' => inBase 8 ['0', 'o']
  | 'x' => inBase 16 ['0', 'x']
  | 'X' => (inBase 16 ['0', 'x']).map (·.map Text.capitalAscii)
  | 'f' | 'F' => withFraction 'f'
  | 'e' => withFraction 'e'
  | 'E' => (withFraction 'e').map (·.map Text.capitalAscii)
  | 'g' => withFraction 'g'
  | 'G' => (withFraction 'g').map (·.map Text.capitalAscii)
  | 'c' =>
    match value, whole? value with
    | .text [c], _ => .ok (s.aligned [c])
    | _, some n =>
      if 0 ≤ n && n < 0x110000 then .ok (s.aligned [CodePoint.ofNat n.toNat]) else .error .characterRange
    | _, none => .error .notCharacter
  | _ => .error (.letter letter position)

/-- The kind of a size: how many binary digits it may have, and the word for it. -/
structure SizeKind where
  bits : Nat
  word : Text

/-- The kind of a width. -/
def widthKind : SizeKind := { bits := 63, word := Text.ofString "ssize_t" }

/-- The kind of a precision. -/
def precisionKind : SizeKind := { bits := 31, word := Text.ofString "int" }

/-- A size in front of a text: digits, or a star for the next value. -/
def size (kind : SizeKind) (values : Values) : Text → Except Problem (Option Int × Values × Text)
  | '*' :: rest => do
    let (value, values) ← values.next
    match whole? value with
    | some n =>
      let bound : Int := Nat.pow 2 kind.bits
      if -bound ≤ n && n < bound then .ok (some n, values, rest)
      else .error (.sizeRange kind.word)
    | none => .error .size
  | t =>
    let digits := t.takeWhile Text.isAsciiDigit
    let n : Nat := digits.foldl (fun n c => 10 * n + (c.toNat - 48)) 0
    .ok (if digits.isEmpty then none else some n, values, t.drop digits.length)

/-- The length of a name in front of its closing parenthesis; parentheses inside it are paired. -/
def nameLength : (depth : Nat) → Text → Option Nat
  | _, [] => none
  | depth, c :: rest =>
    if c = ')' then
      match depth with
      | 0 => some 0
      | depth + 1 => (nameLength depth rest).map (· + 1)
    else (nameLength (if c = '(' then depth + 1 else depth) rest).map (· + 1)

/-- The values after a name in front of a text has chosen one, if there is a name, and the text after it. -/
def chosen (values : Values) : Text → Except Problem (Values × Text)
  | '(' :: rest =>
    match values with
    | .row _ => .error .noMembers
    | .members object _ =>
      match nameLength 0 rest with
      | none => .error .openName
      | some n =>
        match object.find? (·.1 == rest.take n) with
        | some (_, value) => .ok (.members object (some value), rest.drop (n + 1))
        | none => .error (.noMember (rest.take n))
  | t => .ok (values, t)

/-- A hole after its percent sign: what is put there, the values that are left, and the text after it.
`position` is that of the end of the whole template. -/
def hole (position : Nat) (values : Values) (t : Text) : Except Problem (Text × Values × Text) := do
  let (values, t) ← chosen values t
  let (style, t) := Style.flags {} t
  let (width, values, t) ← size widthKind values t
  let style := { style with
    width := (width.getD 0).natAbs
    leftAligned := style.leftAligned || width.getD 0 < 0 }
  let (style, values, t) ← match t with
    | '.' :: rest => do
      let (n, values, t) ← size precisionKind values rest
      .ok ({ style with precision := some (n.getD 0).toNat }, values, t)
    | t => .ok (style, values, t)
  let t := match t with
    | 'h' :: rest | 'l' :: rest | 'L' :: rest => rest
    | t => t
  match t with
  | [] => .error .openHole
  | letter :: rest => do
    let (value, values) ← values.next
    .ok (← write style letter (position - t.length) value, values, rest)

/-- A template with its holes filled; `position` is that of its end. -/
def fillFrom (position : Nat) (values : Values) : (fuel : Nat) → Text → Except Problem Text
  | 0, _ => .ok []
  | _ + 1, [] => if values.areLeft then .error .tooMany else .ok []
  | fuel + 1, '%' :: '%' :: rest => ('%' :: ·) <$> fillFrom position values fuel rest
  | fuel + 1, '%' :: rest => do
    let (filled, values, rest) ← hole position values rest
    .ok (filled ++ (← fillFrom position values fuel rest))
  | fuel + 1, c :: rest => (c :: ·) <$> fillFrom position values fuel rest

/-- A template with its holes filled.  Without any values it has no holes.  Each step takes a character, so
as many steps as there are characters, and one for the end, are enough. -/
def fill (template : Text) (values : List Json) : Except Problem Text :=
  if values.isEmpty then .ok template
  else fillFrom template.length (.ofList values) (template.length + 1) template

/-- Values as a complaint shows them. -/
def valuesText (values : List Json) : Text :=
  match values with
  | [.object (member :: members)] => Json.inner (.object (member :: members))
  | [value] => .char '(' :: value.inner ++ [.char ',', .char ')']
  | values => .char '(' :: Text.join [.char ',', .char ' '] (values.map Json.inner) ++ [.char ')']

/-- What is said instead of a message whose template cannot be filled. -/
def complaint (template : Text) (values : List Json) (p : Problem) : List Text :=
  [Text.ofString "--- Logging error ---", p.account, Text.ofString "Call stack:",
    Text.ofString "Message: " ++ Text.quoted template,
    Text.ofString "Arguments: " ++ valuesText values]

end Template

end SkipPath.Log
