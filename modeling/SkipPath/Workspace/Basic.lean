import SkipPath.Fault
import SkipPath.Files.Links
import SkipPath.Loader
import SkipPath.Log.Setup
import SkipPath.Log.Template
import SkipPath.Registry.Basic

/-!
The workspace: all that operations on projects read and change.

An operation is a function on the workspace that may end in a fault; what it has changed and reported
before the fault stays.
-/

namespace SkipPath

/-- One thing that was put out. -/
inductive Output where
  /-- A line of results. -/
  | result (line : Text)
  /-- A line for the user. -/
  | note (line : Text)
  /-- A record of the log. -/
  | record (r : Log.Record)

/-- All that operations read and change. -/
structure Workspace where
  files : Files.Tree
  links : Links := Links.absent
  /-- How scripts are written.  A system may refuse that at any time. -/
  writer : Files.Tree.Writer := Files.Tree.ensureFile
  environment : Environment := Table.empty
  loader : Loader := {}
  /-- The folder for scripts. -/
  scripts : Path
  registry : Registry := {}
  ledger : Export.Ledger := {}
  logging : Log.Setup := { level := Log.warning }
  stamp : Log.Stamp := {}
  /-- What was put out, last first. -/
  output : List Output := []

/-- The workspace after a record: if its level is reported, it is put out and stored. -/
def Workspace.reported (w : Workspace) (r : Log.Record) : Workspace :=
  if w.logging.reports r then
    { w with output := .record r :: w.output, files := w.logging.store w.stamp r w.files }
  else w

/-- The resolved path of a path. -/
def Workspace.resolve (w : Workspace) (p : Path) : Except Fault Path := w.links.resolve w.files.here p

/-- An operation on the workspace. -/
abbrev Work := ExceptT Fault (StateM Workspace)

namespace Work

/-- Run an operation. -/
def on {α : Type} (work : Work α) (w : Workspace) : Except Fault α × Workspace := work.run.run w

/-- Report a record, if its level is reported. -/
def report (r : Log.Record) : Work Unit := modify (·.reported r)

/-- Report records in order. -/
def reportAll (rs : List Log.Record) : Work Unit := rs.forM report

/-- Report a message. -/
def say (level : Log.Level) (source : String) (message : Text) : Work Unit :=
  report (Log.record level source message)

/-- Put out a line for the user. -/
def printNote (line : Text) : Work Unit :=
  modify fun w => { w with output := .note line :: w.output }

/-- Report a message that is made from a template.  If that fails, each of the places where the record would
have gone complains, and there is no record. -/
def reportFilled (r : Log.Record) (template : Text) (values : List Json) : Work Unit := do
  match Log.Template.fill template values with
  | .ok message => report { r with message := message }
  | .error problem =>
    let setup := (← get).logging
    if setup.reports r then
      let places := if setup.file.isSome then 2 else 1
      (List.replicate places (Log.Template.complaint template values problem)).flatten.forM printNote

/-- Put out a line of results. -/
def printResult (line : Text) : Work Unit :=
  modify fun w => { w with output := .result line :: w.output }

/-- What comes of an operation, be it a fault. -/
def outcome {α : Type} (work : Work α) : Work (Except Fault α) :=
  tryCatch (return .ok (← work)) (fun fault => return .error fault)

/-- Take a result that may be a fault. -/
def ofExcept {ε α : Type} (fault : ε → Fault) : Except ε α → Work α
  | .ok a => pure a
  | .error e => throw (fault e)

/-- The resolved path of a path. -/
def fullPath (p : Path) : Work Path := do ofExcept id ((← get).resolve p)

/-- A path that no system can take is a fault. -/
def checkPath (p : Path) : Work Unit :=
  match Fault.ofPath? p with
  | some fault => throw fault
  | none => pure ()

end Work

namespace Environment

/-- The folder for temporary files. -/
def temporaryFolder (env : Environment) : Path :=
  Path.ofText ((["TMPDIR", "TEMP", "TMP"].findSome? env.nonempty?).getD (Text.ofString "/tmp"))

/-- The folder for scripts that an environment names, or the standard one inside the folder for
temporary files. -/
def scriptFolder (env : Environment) (temporary : Path) : Path :=
  match env.nonempty? "GITSKIP_SCRIPT_DIR" with
  | some t => Path.ofText t
  | none => temporary.child (Text.ofString "gitskip")

/-- The folder for scripts that is asked for, or else that of the environment. -/
def chosenFolder (env : Environment) (temporary : Path) (asked : Option Text) : Path :=
  (Path.named? asked).getD (env.scriptFolder temporary)

end Environment

end SkipPath
