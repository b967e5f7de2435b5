import SkipPath.Config
import SkipPath.Path
import SkipPath.Profile.Diagnostic

/-!
The profile of a project (`IgnoreProfile`): what its ignore file has been compiled to.
-/

namespace SkipPath

/-- A compiled ignore file. -/
structure Profile where
  root : Path
  config : Config
  /-- The ignore file. -/
  source : Option Path := none
  pattern : Option Text := none
  /-- The fragments that make up the pattern, in order. -/
  fragments : List Text := []
  valid : Bool := false
  /-- The lines that exempt paths. -/
  exemptions : Nat := 0
  /-- The lines whose fragment is no regular expression. -/
  errors : Nat := 0
  /-- The lines that are neither blank nor comments. -/
  total : Nat := 0
  /-- The lines with a fragment in the pattern. -/
  parsed : Nat := 0
  diagnostics : List Diagnostic := []
deriving Repr, DecidableEq

namespace Profile

/-- The pattern of a profile that callers should use. -/
def usable? (p : Profile) : Option Text :=
  if p.valid then p.pattern.filter (fun t => !t.isEmpty) else none

/-- Whether callers should use the pattern. -/
def isUsable (p : Profile) : Bool := p.usable?.isSome

/-- The first diagnostic on account of which the file is unusable. -/
def fatal? (p : Profile) : Option Diagnostic := p.diagnostics.find? (·.kind.isFatal)

/-- The word for a truth value in a summary. -/
def truthWord (b : Bool) : String := if b then "True" else "False"

/-- The profile in one line. -/
def summary (p : Profile) : Text :=
  let validity := truthWord p.valid
  let length := (p.pattern.getD []).length
  p.root.render
    ++ Text.ofString s!": valid={validity}, patterns={p.parsed}/{p.total}, "
    ++ Text.ofString s!"exemptions={p.exemptions}, errors={p.errors}, pattern length={length}"

end Profile

end SkipPath
