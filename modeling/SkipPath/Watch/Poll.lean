import SkipPath.Files.Tree
import SkipPath.Watch.Handler

/-!
Seeing changes of a file by looking at it twice, in place of the observer of `watchdog`.
-/

namespace SkipPath.Watch

/-- What happened to a file between two looks, given its bytes at each, if it was there. -/
def Change.between (before after : Option (List UInt8)) : Option Change :=
  match before, after with
  | none, some _ => some .created
  | some _, none => some .deleted
  | some old, some new => if old = new then none else some .modified
  | none, none => none

/-- What happened between two looks to the file of a name in each of some folders. -/
def eventsBetween (fileName : Text) (folders : List Path) (before after : Files.Tree) :
    List Event :=
  folders.filterMap fun folder =>
    let path := folder.child fileName
    (Change.between (before.read path).toOption (after.read path).toOption).map fun change =>
      { change := change, source := path.render }

end SkipPath.Watch
