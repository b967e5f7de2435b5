import SkipPath.Profile.Verdict

/-!
What `compile_ignore_text` keeps of an ignore file while its loop reads the pattern lines.

Each fragment is kept once, where it came first; every line is counted, and those without a fragment in
the pattern are counted again; diagnostics are noted as long as there are not too many.
-/

namespace SkipPath

/-- What is kept while lines are read. -/
structure Tally where
  /-- The fragments in the order in which they came first. -/
  fragments : List Text := []
  /-- The lines that were read. -/
  total : Nat := 0
  /-- The lines without a fragment in the pattern. -/
  dropped : Nat := 0
  exemptions : Nat := 0
  errors : Nat := 0
  diagnostics : List Diagnostic := []
deriving Repr, DecidableEq

namespace Tally

/-- Fragments with one more, unless it is one of them. -/
def addNew (fragments : List Text) (fragment : Text) : List Text :=
  if fragments.contains fragment then fragments else fragments ++ [fragment]

/-- A line has a fragment in the pattern. -/
def keep (t : Tally) (fragment : Text) : Tally := { t with fragments := addNew t.fragments fragment }

/-- A line has none. -/
def drop (t : Tally) : Tally := { t with dropped := t.dropped + 1 }

/-- A diagnostic, if there is one, is noted unless there are enough. -/
def note (t : Tally) (d : Option Diagnostic) : Tally :=
  { t with diagnostics :=
      if t.diagnostics.length < Diagnostic.limit then t.diagnostics ++ d.toList else t.diagnostics }

/-- One more line with its verdict. -/
def step (t : Tally) (v : Verdict) : Tally :=
  let t := { t with total := t.total + 1 }
  match v.judgement with
  | .kept fragment => t.keep fragment
  | .dropped _ => t.drop.note v.issue?
  | .passedOver | .conflict => { t.drop with exemptions := t.exemptions + 1 }
  | .refused _ _ => { t.drop.note v.issue? with errors := t.errors + 1 }
  | .fatal _ => t

end Tally

end SkipPath
