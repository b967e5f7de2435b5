import SkipPath.Text.Blank
import SkipPath.Text.Numeral
import SkipPath.Text.Quoted

/-!
Integers in a text, as `int` reads them: an optional sign and decimal digits of any script, with blanks
around them and single underscores between digits.  Of the blanks only those count that are no
information separators.
A number of more than `maxDigits` digits is refused for its length before the rest is looked at.
-/

namespace SkipPath.Text.Integer

/-- The longest number that is read, in digits. -/
def maxDigits : Nat := 4300

/-- Why a text is no integer. -/
inductive Error where
  /-- The text has another form. -/
  | malformed (text : Text)
  /-- The number has too many digits. -/
  | tooLong (digits : Nat)
deriving Repr, DecidableEq

/-- What is said about a text that is no integer; a long text is cut after two hundred characters. -/
def Error.message : Error → Text
  | .malformed text => ofString "invalid literal for int() with base 10: " ++ (quoted text).take 200
  | .tooLong digits =>
    ofString s!"Exceeds the limit ({maxDigits} digits) for integer string conversion: "
      ++ ofString s!"value has {digits} digits; "
      ++ ofString "use sys.set_int_max_str_digits() to increase the limit"

/-- A blank that may stand around a number. -/
def isPadding (c : CodePoint) : Bool := isBlank c && !(0x1C ≤ c.toNat && c.toNat ≤ 0x1F)

/-- The digits at the start of a text, last first, with single underscores between them dropped, and
what follows.  `none` if an underscore is not followed by a digit. -/
def digitRun (found : List Nat) : Text → Option (List Nat × Text)
  | [] => some (found, [])
  | '_' :: rest =>
    match rest with
    | [] => none
    | c :: more =>
      match digitValue? c with
      | some d => digitRun (d :: found) more
      | none => none
  | c :: rest =>
    match digitValue? c with
    | some d => digitRun (d :: found) rest
    | none => some (found, c :: rest)

/-- The number with the given digits, last digit first. -/
def ofDigits (digits : List Nat) : Nat := digits.foldr (fun d n => 10 * n + d) 0

/-- The sign at the start of a text, as a factor, and what follows. -/
def sign : Text → Int × Text
  | '-' :: rest => (-1, rest)
  | '+' :: rest => (1, rest)
  | rest => (1, rest)

/-- The integer a text stands for. -/
def read (text : Text) : Except Error Int :=
  let (factor, body) := sign (text.dropWhile isPadding)
  match body with
  | '_' :: _ => .error (.malformed text)
  | _ =>
    match digitRun [] body with
    | none => .error (.malformed text)
    | some (digits, rest) =>
      if maxDigits < digits.length then .error (.tooLong digits.length)
      else if digits.isEmpty || !rest.all isPadding then .error (.malformed text)
      else .ok (factor * (ofDigits digits : Int))

end SkipPath.Text.Integer
