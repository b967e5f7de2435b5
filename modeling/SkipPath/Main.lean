import SkipPath.Command.Reach
import SkipPath.Watch.Poll
import Std.Time.Format

/-!
The program: it looks at the files that its command line has to do with, runs the command on them, shows
what was put out, and writes what has changed.  Watching repeats this every second for the changes of the
ignore file.
-/

namespace SkipPath.Program

/-- The path of a text as the system takes it. -/
def systemPath (p : Path) : String := p.render.display

/-- What lies at a path, if anything does. -/
def look (p : Path) : IO (Option Files.Entry) := do
  let place := (← IO.currentDir) / systemPath p
  if ← place.isDir then return some .folder
  else if ← place.pathExists then return some (.file (← IO.FS.readBinFile place).toList)
  else return none

/-- The tree of what lies at some paths. -/
def lookAround (here : Path) (paths : List Path) : IO Files.Tree :=
  paths.foldlM
    (fun tree path => do
      match ← look path with
      | some entry => return tree.put path.names entry
      | none => return tree)
    { here := here }

/-- Write what differs between two trees. -/
def store (before after : Files.Tree) : IO Unit := do
  for (place, _) in before.entries.rows do
    if (after.entries.get? place).isNone then
      IO.FS.removeFile (Files.Tree.placeText place).display
  for (place, entry) in after.entries.rows do
    if before.entries.get? place != some entry then
      let path := (Files.Tree.placeText place).display
      match entry with
      | .folder => IO.FS.createDirAll path
      | .file content => IO.FS.writeBinFile path ⟨content.toArray⟩

/-- Show a line of results. -/
def showResult (line : Text) : IO Unit := IO.println line.display

/-- Show a line for the user. -/
def showNote (line : Text) : IO Unit := IO.eprintln line.display

/-- Show what was put out, and clear it. -/
def showOutput (w : Workspace) : IO Workspace := do
  for output in w.output.reverse do
    match output with
    | .result line => showResult line
    | .note line => showNote line
    | .record r => showNote (w.logging.line w.stamp r)
  return { w with output := [] }

/-- What is written on records now. -/
def stamp : IO Log.Stamp := do
  let now := Std.Time.DateTime.ofTimestamp (← Std.Time.Timestamp.now) Std.Time.TimeZone.ZoneRules.UTC
  let process ← IO.FS.readFile "/proc/self/stat"
  return {
    date := Text.ofString (now.format "uuuu-MM-dd HH:mm:ss,SSS")
    instant := Text.ofString (now.format "uuuu-MM-dd'T'HH:mm:ss.SSSSSS'+00:00'")
    process := (process.takeWhile Char.isDigit).toNat?.getD 0 }

/-- The variables of the environment that count. -/
def environment : IO Environment :=
  Command.variableNames.foldlM
    (fun env name => do
      match ← IO.getEnv name with
      | some value => return env.put (Text.ofString name) (Text.ofString value)
      | none => return env)
    Table.empty

/-- The time on a clock that only goes forward. -/
def clock : IO Watch.Time := return mkRat (← IO.monoMsNow) 1000

/-- Do work on the files as they are now, show what was put out, and write what has changed. -/
def perform {α : Type} (paths : List Path) (work : Work α) (w : Workspace) :
    IO (Except Fault α × Workspace) := do
  let before ← lookAround w.files.here paths
  let (result, w) := work.on { w with files := before, stamp := ← stamp }
  store before w.files
  return (result, ← showOutput w)

/-- The exit code of work.  A fault that is not the user's is shown, and the code is one. -/
def exitCode (result : Except Fault Nat) : IO Nat :=
  match result with
  | .ok code => return code
  | .error fault => do
    showNote fault.message
    return 1

/-- Let the handler see what has changed since the last look, every second. -/
partial def follow (paths : List Path) (monitor : Watch.Monitor) (running : Watch.Running)
    (w : Workspace) : IO Nat := do
  IO.sleep 1000
  let now ← clock
  let work : Work Watch.Handler := do
    let events := Watch.eventsBetween w.loader.fileName running.scheduled w.files (← get).files
    events.foldlM
      (fun handler event => Command.letHappen handler { time := now, event := some event }) running.handler
  let (result, w) ← perform paths work w
  match result with
  | .ok handler => follow paths monitor { running with handler := handler } w
  | .error fault =>
    let (_, w) ← perform paths (Command.endWatch monitor) w
    let _ ← showOutput w
    exitCode (.error fault)

/-- Begin to watch a project, and go on. -/
def watch (paths : List Path) (common : Command.Common) (project : Command.Project)
    (w : Workspace) : IO Nat := do
  let work : Work (Except Nat Watch.Monitor) := tryCatch
    (return .ok (← Command.beginWatch common project))
    (fun fault => return .error (← Command.guarded (throw fault)))
  let (result, w) ← perform paths work w
  match result with
  | .error fault => exitCode (.error fault)
  | .ok (.error code) => return code
  | .ok (.ok monitor) =>
    match monitor.running with
    | none => return 0
    | some running => follow paths monitor running w

/-- Run a command line. -/
def run (line : Command.Line) (w : Workspace) : IO Nat := do
  let paths := line.reach w
  match line.action with
  | .watch project =>
    let (result, w) ← perform paths (Command.setUpLog { level := line.common.logLevel }) w
    match result with
    | .error fault => exitCode (.error fault)
    | .ok () => watch paths line.common project w
  | _ =>
    let (result, _) ← perform paths (line.run []) w
    exitCode result

end SkipPath.Program

open SkipPath in
/-- Run the command that the arguments name. -/
def main (args : List String) : IO UInt32 := do
  let env ← Program.environment
  match Command.Line.parse env (args.map Text.ofString) with
  | .error exit =>
    exit.shown.forM Program.showResult
    return exit.code.toUInt32
  | .ok line =>
    let here := Path.ofString s!"{← IO.currentDir}"
    let w : Workspace :=
      { files := { here := here }, environment := env
        scripts := env.chosenFolder env.temporaryFolder none }
    return (← Program.run line w).toUInt32
