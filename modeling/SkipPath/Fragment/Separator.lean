import SkipPath.Glob.Settled

/-!
Fragments in the form that a shell needs (`to_shell_separators`): every slash gives way to the separator of
the shell.
-/

namespace SkipPath.Fragment

/-- A character of a fragment with the slash written as `separator`. -/
def separate (separator : Text) (c : CodePoint) : Text := if c = '/' then separator else [c]

/-- A fragment with the separators of a shell. -/
def forShell (shell : Shell) (forwardSlash : Bool) (fragment : Text) : Text :=
  fragment.flatMap (separate (shell.separator forwardSlash))

/-- Translate a line to a fragment with the separators of a shell. -/
def translateFor (shell : Shell) (forwardSlash : Bool) (line : Text) (skipDotFolders : Bool) :
    Glob.Settled :=
  let settled := Glob.translate line skipDotFolders
  { settled with
    outcome := match settled.outcome with
      | .kept fragment => .kept (forShell shell forwardSlash fragment)
      | .dropped reason => .dropped reason }

end SkipPath.Fragment
