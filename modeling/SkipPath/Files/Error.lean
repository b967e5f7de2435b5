import SkipPath.Path
import SkipPath.Text.Quoted

/-!
What can go wrong with a file (`OSError`), and what is said about it.
-/

namespace SkipPath.Files

/-- The causes, with the numbers by which the system calls them. -/
inductive Cause where
  | noSuchFile
  | fileExists
  | notADirectory
  | isADirectory
  | nameTooLong
deriving Repr, DecidableEq

/-- The number of a cause. -/
def Cause.number : Cause → Nat
  | .noSuchFile => 2
  | .fileExists => 17
  | .notADirectory => 20
  | .isADirectory => 21
  | .nameTooLong => 36

/-- What is said about a cause. -/
def Cause.message : Cause → Text
  | .noSuchFile => Text.ofString "No such file or directory"
  | .fileExists => Text.ofString "File exists"
  | .notADirectory => Text.ofString "Not a directory"
  | .isADirectory => Text.ofString "Is a directory"
  | .nameTooLong => Text.ofString "File name too long"

/-- A cause and the path it concerns. -/
structure Error where
  cause : Cause
  path : Path
deriving Repr, DecidableEq

/-- What is said about an error. -/
def Error.message (e : Error) : Text :=
  Text.ofString s!"[Errno {e.cause.number}] " ++ e.cause.message ++ Text.ofString ": "
    ++ Text.quoted e.path.render

end SkipPath.Files
