import SkipPath.Json.Basic
import SkipPath.Text.Decimal
import SkipPath.Text.Quoted

/-!
JSON as text, on one line or indented (`json.dumps`).

The text is ASCII: every other character, and every control, is written by its number in UTF-16, so a
character beyond the first plane takes two escapes.
-/

namespace SkipPath.Json

/-- One escape of four hexadecimal digits. -/
def escapeUnit (n : Nat) : Text := '\\' :: 'u' :: Text.hexDigits 4 n

/-- One character inside a JSON string. -/
def escapeChar (c : CodePoint) : Text :=
  if c = '"' then ['\\', '"']
  else if c = '\\' then ['\\', '\\']
  else if c = '\n' then ['\\', 'n']
  else if c = '\r' then ['\\', 'r']
  else if c = '\t' then ['\\', 't']
  else if c = '\x08' then ['\\', 'b']
  else if c = '\x0c' then ['\\', 'f']
  else if ' ' ≤ c && c ≤ '~' then [c]
  else if c.toNat < 0x10000 then escapeUnit c.toNat
  else
    let n := c.toNat - 0x10000
    escapeUnit (0xD800 + n / 0x400) ++ escapeUnit (0xDC00 + n % 0x400)

/-- A JSON string. -/
def string (t : Text) : Text := .char '"' :: t.flatMap escapeChar ++ [.char '"']

mutual
/-- A value on one line. -/
def line : Json → Text
  | .null => Text.ofString "null"
  | .bool b => Text.ofString (if b then "true" else "false")
  | .int n => Text.ofString (toString n)
  | .decimal units places => Text.decimal units places
  | .text t => string t
  | .list items => .char '[' :: Text.join [.char ',', .char ' '] (lineItems items) ++ [.char ']']
  | .object members => .char '\x7b' :: Text.join [.char ',', .char ' '] (lineMembers members) ++ [.char '\x7d']

/-- The items of a list, each on one line. -/
def lineItems : List Json → List Text
  | [] => []
  | item :: items => line item :: lineItems items

/-- The members of an object, each on one line. -/
def lineMembers : List (Text × Json) → List Text
  | [] => []
  | (name, value) :: members =>
    (string name ++ [.char ':', .char ' '] ++ line value) :: lineMembers members
end

/-- The start of a line that is indented by `depth` steps of two blanks. -/
def newline (depth : Nat) : Text := '\n' :: List.replicate (2 * depth) ' '

/-- The parts between two brackets, one a line, one step deeper than the brackets. -/
def block (depth : Nat) (first last : CodePoint) (parts : List Text) : Text :=
  if parts.isEmpty then [first, last]
  else
    first :: newline (depth + 1) ++ Text.join (',' :: newline (depth + 1)) parts
      ++ newline depth ++ [last]

mutual
/-- A value over several lines, at the given depth. -/
def indentedAt (depth : Nat) : Json → Text
  | .list items => block depth '[' ']' (indentedItems (depth + 1) items)
  | .object members => block depth '\x7b' '\x7d' (indentedMembers (depth + 1) members)
  | .null => line .null
  | .bool b => line (.bool b)
  | .int n => line (.int n)
  | .decimal units places => line (.decimal units places)
  | .text t => line (.text t)

/-- The items of a list, each over several lines. -/
def indentedItems (depth : Nat) : List Json → List Text
  | [] => []
  | item :: items => indentedAt depth item :: indentedItems depth items

/-- The members of an object, each over several lines. -/
def indentedMembers (depth : Nat) : List (Text × Json) → List Text
  | [] => []
  | (name, value) :: members =>
    (string name ++ [.char ':', .char ' '] ++ indentedAt depth value) :: indentedMembers depth members
end

/-- A value over several lines. -/
def indented (value : Json) : Text := indentedAt 0 value

end SkipPath.Json
