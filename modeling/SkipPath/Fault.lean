import SkipPath.Config
import SkipPath.Files.Error
import SkipPath.Gitignore.Pathspec
import SkipPath.Text.Utf8

/-!
What can keep an operation from ending normally: the exceptions that may leave it, `GitskipError`,
`ValueError`, `re.error`, `OSError` and some others.
-/

namespace SkipPath

/-- A cause for which an operation ends without a result. -/
inductive Fault where
  /-- Settings that cannot be. -/
  | config (e : Config.Error)
  /-- A text that is refused as a regular expression. -/
  | expression (text : Text) (refusal : Regex.Refusal)
  /-- Lines that are no patterns of an ignore file. -/
  | gitignore (e : Gitignore.Error)
  /-- A file or folder that is not as it should be. -/
  | file (e : Files.Error)
  /-- A name that stands for no level of a log. -/
  | level (name : Text)
  /-- A thing that is neither a level of a log nor the name of one. -/
  | levelKind (thing : Text)
  /-- A project that is no folder. -/
  | notAFolder (text : Text)
  /-- A path that holds the character NUL. -/
  | nulInPath
  /-- A text that cannot be encoded. -/
  | encoding (r : Text.Utf8.Refusal)
  /-- A path at which links go in a circle. -/
  | linkCircle (p : Path)
deriving Repr, DecidableEq

namespace Fault

/-- What is said about a fault. -/
def message : Fault → Text
  | .config e => e.message
  | .expression text refusal => refusal.message text
  | .gitignore e => e.message
  | .file e => e.message
  | .level name => Text.ofString "Unknown level: " ++ Text.quoted name
  | .levelKind thing => Text.ofString "Level not an integer or a valid string: " ++ thing
  | .notAFolder text => Text.ofString "Not a directory: " ++ text
  | .nulInPath => Text.ofString "embedded null byte"
  | .encoding r => r.message
  | .linkCircle p => Text.ofString "Symlink loop from " ++ Text.quoted p.render

/-- Whether a fault is about what the user asked for, and so is reported as such. -/
def isUsers : Fault → Bool
  | .config _ | .level _ | .notAFolder _ | .nulInPath | .encoding _ => true
  | .expression _ refusal => refusal.problem.kind = .contradiction
  | .gitignore e => match e with
    | .invalidPattern _ => true
    | .badExpression _ refusal => refusal.problem.kind = .contradiction
  | .file _ | .levelKind _ | .linkCircle _ => false

/-- The fault of a path that no system can take: its text is encoded first. -/
def ofPath? (p : Path) : Option Fault :=
  match Text.Utf8.nameRefusal? p.render with
  | some r => some (.encoding r)
  | none => if p.render.contains '\x00' then some .nulInPath else none

end Fault

end SkipPath
