import SkipPath.Regex.Problem
import SkipPath.Text.Ascii

/-!
The tokens of a regular expression: single characters, and a backslash with the character after it.
-/

namespace SkipPath.Regex

/-- A token. -/
inductive Token where
  | plain (c : CodePoint)
  | escape (c : CodePoint)
deriving Repr, DecidableEq

namespace Token

/-- The text of a token. -/
def text : Token → Text
  | .plain c => [c]
  | .escape c => ['\\', c]

/-- The length of a token. -/
def width : Token → Nat
  | .plain _ => 1
  | .escape _ => 2

/-- The length of the text of tokens. -/
def totalWidth (tokens : List Token) : Nat := tokens.foldl (fun n t => n + t.width) 0

/-- The text of tokens. -/
def texts (tokens : List Token) : Text := tokens.flatMap text

/-- The tokens of a text, and whether a lone backslash is left at the end. -/
def scan : Text → List Token × Bool
  | [] => ([], false)
  | ['\\'] => ([], true)
  | '\\' :: c :: rest =>
    let (tokens, dangling) := scan rest
    (.escape c :: tokens, dangling)
  | c :: rest =>
    let (tokens, dangling) := scan rest
    (.plain c :: tokens, dangling)

/-- A trouble at the place where `rest` is still to be read, `back` characters before it. -/
def trouble (problem : Problem) (rest : List Token) (back : Nat) : Trouble :=
  { problem := problem, place := some (totalWidth rest, back) }

/-- The plain characters in front that satisfy `p`, at most `limit` of them. -/
def takePlain (p : CodePoint → Bool) : (limit : Nat) → List Token → Text
  | 0, _ => []
  | limit + 1, .plain c :: rest => if p c then c :: takePlain p limit rest else []
  | _, _ => []

/-- An octal digit. -/
def isOctal (c : CodePoint) : Bool := '0' ≤ c && c ≤ '7'

/-- A hexadecimal digit. -/
def isHex (c : CodePoint) : Bool := Text.isAsciiDigit c || ('a' ≤ c && c ≤ 'f') || ('A' ≤ c && c ≤ 'F')

/-- The value of a hexadecimal digit. -/
def hexValue (c : CodePoint) : Nat :=
  if Text.isAsciiDigit c then c.toNat - 48 else if 'a' ≤ c then c.toNat - 87 else c.toNat - 55

/-- The number that digits of a base stand for. -/
def number (base : Nat) (digits : Text) : Nat := digits.foldl (fun n c => base * n + hexValue c) 0

/-- The text of the tokens up to a terminator, and how many tokens that are, the terminator included.
`what` names the text for the case that it is missing. -/
def untilTerminator (terminator : CodePoint) (what : Text) :
    (found : List Token) → List Token → Except Trouble (Text × Nat)
  | found, [] =>
    if found.isEmpty then .error (trouble (.missingName what) [] 0)
    else .error (trouble (.unterminatedName terminator) [] (totalWidth found))
  | found, t :: rest =>
    if t = .plain terminator then
      if found.isEmpty then .error (trouble (.missingName what) rest 1)
      else .ok (texts found.reverse, found.length + 1)
    else untilTerminator terminator what (t :: found) rest

end Token

end SkipPath.Regex
