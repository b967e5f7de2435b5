import SkipPath.Json.Basic
import SkipPath.Text.Decimal
import SkipPath.Text.Quoted

/-!
Values as messages show them (`str`).

A text by itself is shown as it is, and in quotes inside a list or an object.  The three words for nothing,
yes and no are `None`, `True` and `False`.
-/

namespace SkipPath.Json

mutual
/-- A value inside another one. -/
def inner : Json → Text
  | .null => Text.ofString "None"
  | .bool b => Text.ofString (if b then "True" else "False")
  | .int n => Text.ofString (toString n)
  | .decimal units places => Text.decimal units places
  | .text t => Text.quoted t
  | .list items => .char '[' :: Text.join [.char ',', .char ' '] (innerItems items) ++ [.char ']']
  | .object members => .char '\x7b' :: Text.join [.char ',', .char ' '] (innerMembers members) ++ [.char '\x7d']

/-- The items of a list. -/
def innerItems : List Json → List Text
  | [] => []
  | item :: items => inner item :: innerItems items

/-- The members of an object. -/
def innerMembers : List (Text × Json) → List Text
  | [] => []
  | (name, value) :: members => (Text.quoted name ++ [.char ':', .char ' '] ++ inner value) :: innerMembers members
end

/-- A value by itself. -/
def shown : Json → Text
  | .text t => t
  | value => value.inner

/-- The word for the kind of a value. -/
def kindName : Json → Text
  | .null => Text.ofString "NoneType"
  | .bool _ => Text.ofString "bool"
  | .int _ => Text.ofString "int"
  | .decimal _ _ => Text.ofString "float"
  | .text _ => Text.ofString "str"
  | .list _ => Text.ofString "list"
  | .object _ => Text.ofString "dict"

end SkipPath.Json
