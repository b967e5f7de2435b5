import SkipPath.Watch.Handler
import SkipPath.Workspace.Request

/-!
Keeping watch over the folders of projects (`WatchdogMonitor`).

A monitor that was started has a handler and the list of folders it asked to watch; one that was not, or was
stopped, has neither.  A start that a fault ends leaves a monitor that has both, but does not run: it has to
be stopped before it can be started again.  Telling the registry of a change goes through the workspace.
-/

namespace SkipPath.Watch

/-- What a monitor has from start to stop. -/
structure Running where
  /-- The folders that are watched, in the order in which they were asked for. -/
  scheduled : List Path
  handler : Handler
  /-- Whether the start came to its end. -/
  isAlive : Bool := true

/-- The debounce of a monitor for which none is named: half a second. -/
def defaultDebounce : Time := mkRat 1 2

/-- A monitor. -/
structure Monitor where
  debounce : Time := defaultDebounce
  running : Option Running := none

/-- The full path of a folder that is to be watched, if it is a folder. -/
def folderAt (path : Text) : Work (Option Path) := do
  let full ← Work.fullPath (Path.ofText path)
  return if ← Work.ofExcept .file ((← get).files.holdsFolder full) then some full else none

/-- Look at the folders that are to be watched, up to the first one that leads to a fault.  `found` holds
those that were found before, last first. -/
def schedule (found : List Path) : List Text → Work (List Path × Option Fault)
  | [] => return (found.reverse, none)
  | path :: rest => do
    match ← Work.outcome (folderAt path) with
    | .error fault => return (found.reverse, some fault)
    | .ok (some full) =>
      Work.say Log.info Handler.source (Text.ofString "Watching directory: " ++ full.render)
      schedule (full :: found) rest
    | .ok none =>
      Work.say Log.warning Handler.source
        (Text.ofString "Path does not exist or is not a directory: " ++ path)
      schedule found rest

/-- Start a monitor on folders, or on all projects if none are named.  With the monitor comes the fault that
ended the start, if one did. -/
def start (m : Monitor) (paths : Option (List Text)) : Work (Monitor × Option Fault) := do
  if m.running.isSome then
    Work.say Log.warning Handler.source (Text.ofString "Monitor already running")
    return (m, none)
  else
    let w ← get
    let (scheduled, fault) ← schedule [] (paths.getD (w.registry.roots.map (·.render)))
    if fault.isNone then
      Work.say Log.info Handler.source (Text.ofString "Watchdog monitor started")
    let handler : Handler := { fileName := w.loader.fileName, debounce := m.debounce }
    let running : Running :=
      { scheduled := scheduled, handler := handler, isAlive := fault.isNone }
    return ({ m with running := some running }, fault)

/-- Stop a monitor. -/
def stop (m : Monitor) : Work Monitor := do
  if m.running.isNone then
    Work.say Log.warning Handler.source (Text.ofString "Monitor not running")
    return m
  else
    Work.say Log.info Handler.source (Text.ofString "Watchdog monitor stopped")
    return { m with running := none }

/-- Tell the registry of the changes in a reaction, and hand each profile that comes of it on. -/
def carryOut (reaction : Reaction) (handOn : Text → Option Held → Work Unit) : Work Unit := do
  Work.reportAll reaction.records
  reaction.notices.forM fun path => do
    handOn path (← Work.notify (Path.ofText path))

end SkipPath.Watch
