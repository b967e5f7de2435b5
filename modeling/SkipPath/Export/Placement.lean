import SkipPath.Export.Variable
import SkipPath.Path

/-!
Where a pattern is placed: written into each command, or carried by the variable
(`decide_placement`).
-/

namespace SkipPath.Export

/-- The place of a pattern. -/
inductive Placement where
  /-- The pattern is written into each command. -/
  | inlined (pattern : Text)
  /-- The pattern is the value of a variable, which a script sets. -/
  | externalized (name : Text) (script : Path)
deriving Repr, DecidableEq

/-- The place of a pattern: the variable carries those that are longer than the threshold. -/
def place (pattern : Text) (threshold : Int) (script : Path) : Placement :=
  if (pattern.length : Int) ≤ threshold then .inlined pattern
  else .externalized variableName script

end SkipPath.Export
