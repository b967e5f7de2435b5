import SkipPath.Fragment.Separator
import SkipPath.Text.Lines

/-!
Fragments joined into one pattern (`merge_fragments`).

Each fragment comes once, in the order of first occurrence.  The command prompt of Windows reads a run of
backslashes before a double quote as half as many, so there a run at the end is doubled.
-/

namespace SkipPath.Fragment

/-- The pattern with the run of backslashes at its end doubled. -/
def protectEnd (pattern : Text) : Text := pattern ++ Text.takeEndWhile (· == '\\') pattern

/-- The pattern that matches what any of the fragments matches. -/
def merge (shell : Shell) (forwardSlash : Bool) (fragments : List Text) : Text :=
  let pattern := Text.join ['|']
    ((fragments.filter (!·.isEmpty)).map (forShell shell forwardSlash)).eraseDups
  if shell.isCmd && !forwardSlash then protectEnd pattern else pattern

end SkipPath.Fragment
