import SkipPath.Command.Run

/-!
What a command line has to do with: the variables of the environment that count, and the files and
folders that are looked at or written.

A command runs on a tree that shows no more than these, so that whoever runs one does not have to look at
all files there are.
-/

namespace SkipPath

/-- A path and all folders that lead to it, from the root, each as the lexical walk sees it. -/
def Path.steps (p folder : Path) : List Path :=
  let names := (folder.join p).names
  (List.range (names.length + 1)).map fun n =>
    Path.resolve { anchor := .root, names := names.take n } folder

namespace Command

/-- The variables that count. -/
def variableNames : List String := [
  "GITSKIP_SHELL", "GITSKIP_EXPORT_THRESHOLD", "GITSKIP_MAX_COMMAND_LENGTH",
  "GITSKIP_USE_IGNORE_FILE", "GITSKIP_OMIT_EXEMPTIONS", "GITSKIP_SKIP_DOT_FOLDERS",
  "GITSKIP_FORWARD_SLASH", "GITSKIP_SCRIPT_DIR", "GITSKIP_LOG_LEVEL", "GITSKIP_LOG_JSON",
  "GITSKIP_LOG_FILE", "LOG_LEVEL", "TMPDIR", "TEMP", "TMP", "COLUMNS"]

/-- The project of an action that has one. -/
def Action.project? : Action → Option Project
  | .translate _ => none
  | .compile project _ | .exportScript project _ | .check project _ | .watch project => some project

/-- The log file and the older ones. -/
def logPaths (w : Workspace) (request : Log.Request) : List Path :=
  match Log.fileAsked request w.environment with
  | none => []
  | some path =>
    path :: (List.range request.backups.toNat).map fun n => Log.backupPath path (n + 1)

/-- The files of a project: its ignore file, and the script for each shell. -/
def projectPaths (w : Workspace) (project : Project) : List Path :=
  let scripts := ((nonempty project.scripts).map Path.ofText).getD w.scripts
  match w.resolve (Path.ofText project.root) with
  | .error _ => []
  | .ok root =>
    w.loader.pathIn root ::
      [Shell.posix, .cmd, .mingw].filterMap fun shell =>
        (Export.scriptPath scripts root shell).toOption

/-- The files and folders that a command line has to do with. -/
def Line.reach (line : Line) (w : Workspace) : List Path :=
  let files := logPaths w { level := line.common.logLevel }
    ++ (line.action.project?.elim [] (projectPaths w))
  (files.flatMap fun path => path.steps w.files.here).eraseDups

end Command

end SkipPath
