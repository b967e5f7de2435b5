import SkipPath.Text.Ranges

/-!
JSON values, with the members of an object in order.  Whole numbers and those with a fraction are kept apart.
-/

namespace SkipPath

/-- A JSON value. -/
inductive Json where
  | null
  | bool (b : Bool)
  | int (n : Int)
  /-- A number of so many units of the last of so many places. -/
  | decimal (units : Int) (places : Nat)
  | text (t : Text)
  | list (items : List Json)
  | object (members : List (Text × Json))
deriving Repr, Inhabited

namespace Json

/-- The members with one more put in: a member of the same name gives way and keeps its place. -/
def putMember (name : Text) (value : Json) : List (Text × Json) → List (Text × Json)
  | [] => [(name, value)]
  | (n, v) :: rest => if n = name then (n, value) :: rest else (n, v) :: putMember name value rest

/-- The members with all of `more` put in. -/
def putAll (members more : List (Text × Json)) : List (Text × Json) :=
  more.foldl (fun all member => putMember member.1 member.2 all) members

end Json

end SkipPath
