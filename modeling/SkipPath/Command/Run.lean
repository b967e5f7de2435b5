import SkipPath.Command.Line
import SkipPath.Json.Printer
import SkipPath.Watch.Monitor

/-!
Running a command in the workspace: `main` with `build_config`, and `cmd_translate`, `cmd_compile`,
`cmd_export`, `cmd_check` and `cmd_watch`.
-/

namespace SkipPath.Command

/-- The source of what commands report. -/
def source : String := "gitskip-cli"

/-- A text unless it is empty. -/
def nonempty (t : Option Text) : Option Text := t.filter fun t => !t.isEmpty

/-- The settings that a command line names.  A threshold of zero counts as none. -/
def draft (common : Common) (project : Option Project) : Config.Draft :=
  { shell := nonempty common.shell
    forwardSlash := if common.forwardSlash then some true else none
    skipDotFolders := if common.keepDotFolders then some false else none
    omitExemptions := if project.any (·.omitExemptions) then some true else none
    exportThreshold := (project.bind (·.exportThreshold)).filter (· != 0) }

/-- The settings for a command: its own over those of the environment.  The shell that the command names
is looked at first. -/
def config (common : Common) (project : Option Project) : Work Config := do
  if let some name := nonempty common.shell then
    let _ ← Work.ofExcept .config (Config.shellOf name)
  let (warnings, result) := (← get).environment.config (draft common project)
  Work.reportAll warnings
  Work.ofExcept .config result

/-- The folder of a project. -/
def rootFolder (text : Text) : Work Path := do
  let root ← Work.fullPath (Path.ofText text)
  if ← Work.ofExcept .file ((← get).files.holdsFolder root) then return root
  else throw (.notAFolder text)

/-- The folder for scripts that a command names takes the place of the standard one. -/
def useScripts (project : Project) : Work Unit :=
  match Path.named? project.scripts with
  | none => pure ()
  | some folder => modify fun w => { w with scripts := folder }

/-- Load the project of a command. -/
def loadProject (common : Common) (project : Project) : Work Held := do
  useScripts project
  let root ← rootFolder project.root
  Work.load root (some (← config common (some project)))

/-- Show what is wrong with a project, and its summary. -/
def showDiagnostics (p : Profile) : Work Unit := do
  p.diagnostics.forM fun d => Work.printNote (Text.ofString "# " ++ d.render)
  Work.printNote (Text.ofString "# " ++ p.summary)

/-- A diagnostic as JSON. -/
def diagnosticJson (d : Diagnostic) : Json :=
  .object [(Text.ofString "kind", .text d.kind.name), (Text.ofString "line", .int d.line),
    (Text.ofString "text", .text d.text), (Text.ofString "message", .text d.message)]

/-- A profile as JSON. -/
def profileJson (p : Profile) : Json :=
  .object [(Text.ofString "root", .text p.root.render), (Text.ofString "valid", .bool p.valid),
    (Text.ofString "pattern", p.pattern.elim .null .text),
    (Text.ofString "shell", .text p.config.shell.name), (Text.ofString "exemptions", .int p.exemptions),
    (Text.ofString "errors", .int p.errors), (Text.ofString "total_patterns", .int p.total),
    (Text.ofString "parsed_patterns", .int p.parsed),
    (Text.ofString "diagnostics", .list (p.diagnostics.map diagnosticJson))]

/-- The line that shows what a line is translated to. -/
def fragmentLine (line : Text) (s : Glob.Settled) : Text :=
  line ++ .char '\t' :: match s.outcome with
    | .kept fragment => fragment
    | .dropped reason => Text.ofString "(dropped: " ++ reason.name ++ [.char ')']

/-- Show the fragment of each line. -/
def runTranslate (common : Common) (lines : List Text) : Work Nat := do
  let c ← config common none
  lines.forM fun line => do
    Work.reportAll (Glob.translate line c.skipDotFolders).records
    Work.printResult (fragmentLine line
      (Fragment.translateFor c.shell c.forwardSlash line c.skipDotFolders))
  return 0

/-- Show the pattern of a project. -/
def runCompile (common : Common) (project : Project) (json : Bool) : Work Nat := do
  let p := (← loadProject common project).profile
  if json then Work.printResult (profileJson p).indented
  else
    showDiagnostics p
    match nonempty p.pattern with
    | some pattern => Work.printResult pattern
    | none => pure ()
  return if p.valid then 0 else 1

/-- Write the script of a project, and show how the pattern is used. -/
def runExport (common : Common) (project : Project) (force : Bool) : Work Nat := do
  let held ← loadProject common project
  showDiagnostics held.profile
  if !held.profile.isUsable then return 1
  let placement ← Work.exportProfile held force
  let record ← Work.exportRecord held
  let isExternal := match placement with
    | some (.externalized _ _) => true
    | _ => false
  if isExternal && !record.succeeded then
    Work.printNote (Text.ofString "# Export failed: " ++ record.error.getD [])
    return 1
  if isExternal then Work.printResult (← Work.sourceCommand held.profile)
  Work.printResult (← Work.optionFor held true)
  return 0

/-- The word for a decision about a path. -/
def decision (skips : Bool) : Text := Text.ofString (if skips then "skip" else "keep")

/-- The line that compares two decisions about a path. -/
def comparisonLine (path : Text) (bySearch byGitignore : Bool) : Text :=
  path ++ Text.ofString ": regex=" ++ decision bySearch ++ Text.ofString " gitignore="
    ++ decision byGitignore
    ++ (if bySearch = byGitignore then [] else Text.ofString "  <-- differs")

/-- A path as the two decisions see it: without slashes in front. -/
def relativeText (path : Text) : Text := (Path.ofText path).render.dropWhile (· == '/')

/-- Compare, for each path, the decision of the pattern with that of the ignore file itself. -/
def runCheck (common : Common) (project : Project) (paths : List Text) : Work Nat := do
  useScripts project
  let root ← rootFolder project.root
  let c ← config common (some project)
  let c ← Work.ofExcept .config (c.change { shell := some Shell.posix.name })
  let p := (← Work.load root (some c)).profile
  if !p.isUsable then
    showDiagnostics p
    return 1
  let joined := Text.join ['|'] p.fragments
  let expression ← Work.ofExcept (.expression joined) (Regex.parse joined)
  Work.say Log.debug source
    (Text.ofString s!"Checking {paths.length} paths against " ++ p.root.render)
  let w ← get
  let content ← Work.ofExcept id (w.loader.read w.files root)
  let ignores ← Work.ofExcept .gitignore
    (w.loader.pathspec.fromLines (Text.splitAtBreaks (content.text?.getD [])))
  let differences ← paths.mapM fun path => do
    let relative := relativeText path
    let bySearch := expression.search ('/' :: relative)
    let byGitignore := ignores relative
    Work.printResult (comparisonLine relative bySearch byGitignore)
    return bySearch != byGitignore
  return if differences.any id then 2 else 0

/-- What happens at a time while a project is watched: files are written and removed, and a change is
seen. -/
structure Happening where
  time : Watch.Time
  written : List (Path × List UInt8) := []
  removed : List Path := []
  event : Option Watch.Event := none

/-- The files after a happening. -/
def Happening.apply (h : Happening) (files : Files.Tree) : Files.Tree :=
  h.removed.foldl (fun files path => files.remove path)
    (h.written.foldl (fun files (path, content) => (files.ensureFile path content).1) files)

/-- Begin to watch a project. -/
def beginWatch (common : Common) (project : Project) : Work Watch.Monitor := do
  let p := (← loadProject common project).profile
  showDiagnostics p
  let (monitor, fault) ← Watch.start {} none
  if let some fault := fault then throw fault
  Work.printNote (Text.ofString "# Watching " ++ p.root.render
    ++ Text.ofString " - press Ctrl+C to stop")
  return monitor

/-- Show what came of a change. -/
def showChange (_path : Text) (held : Option Held) : Work Unit :=
  match held with
  | none => pure ()
  | some held => showDiagnostics held.profile

/-- Let something happen; the handler sees it. -/
def letHappen (handler : Watch.Handler) (h : Happening) : Work Watch.Handler := do
  modify fun w => { w with files := h.apply w.files }
  match h.event with
  | none => return handler
  | some event => do
    let (handler, reaction) := handler.react h.time event
    Watch.carryOut reaction showChange
    return handler

/-- Let all happen, one after the other. -/
def letAllHappen (handler : Watch.Handler) (happenings : List Happening) : Work Unit := do
  let _ ← happenings.foldlM letHappen handler

/-- End the watch. -/
def endWatch (monitor : Watch.Monitor) : Work Unit := do
  let _ ← Watch.stop monitor

/-- Show that the watch ends. -/
def announceEnd : Work Unit := do
  Work.printNote []
  Work.printNote (Text.ofString "# Stopping monitor...")

/-- Watch a project while things happen.  The watch is ended in any case. -/
def runWatch (common : Common) (project : Project) (happenings : List Happening) : Work Nat := do
  let monitor ← beginWatch common project
  match monitor.running with
  | none => return 0
  | some running =>
    tryCatch
      (do
        letAllHappen running.handler happenings
        announceEnd)
      (fun fault => do
        endWatch monitor
        throw fault)
    endWatch monitor
    return 0

/-- What is done, with what happens in the meantime. -/
def Action.run (common : Common) (happenings : List Happening) : Action → Work Nat
  | .translate lines => runTranslate common lines
  | .compile project json => runCompile common project json
  | .exportScript project force => runExport common project force
  | .check project paths => runCheck common project paths
  | .watch project => runWatch common project happenings

/-- The exit code of work: a fault of the user's is shown and makes it two. -/
def guarded (work : Work Nat) : Work Nat :=
  tryCatch work fun fault =>
    if fault.isUsers then do
      Work.printNote (Text.ofString "Error: " ++ fault.message)
      return 2
    else throw fault

/-- Set the log up as the command line and the environment ask. -/
def setUpLog (request : Log.Request) : Work Unit := do
  let w ← get
  let (files, result) := Log.configure request w.environment w.files
  modify fun w => { w with files := files }
  let setup ← Work.ofExcept id result
  modify fun w => { w with logging := setup }
  Work.report (Log.configured request w.environment setup)

/-- Run a command line, with what happens in the meantime. -/
def Line.run (line : Line) (happenings : List Happening) : Work Nat := do
  setUpLog { level := line.common.logLevel }
  guarded (line.action.run line.common happenings)

end SkipPath.Command
