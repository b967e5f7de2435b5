import SkipPath.Profile.Compile
import SkipPath.Workspace.Export

/-!
Requests to compile a project (`load`, `recompile` and `notify_file_changed`, which all end in
`_compile_and_publish`), and what the registry knows of the projects (`get_usage`,
`get_skip_path_option`, `remove` and `clear`).

A request begins by taking a ticket, and what it compiles is fixed by then: loading reads the file before
that.  It finishes by compiling and by publishing the profile, unless it was overtaken or its project was
removed; a profile that is published is exported as well.
-/

namespace SkipPath

/-- What a request makes its profile of. -/
inductive Making where
  /-- The text of an ignore file is compiled. -/
  | compiling (task : Task)
  /-- The profile is there already, because the file could not be read. -/
  | ready (profile : Profile)

/-- A request that has begun. -/
structure Request where
  root : Path
  config : Config
  ticket : Nat
  making : Making

namespace Work

/-- The source of what the registry reports. -/
def registrySource : String := "gitskip.ignore.registry"

/-- Compile, and report what compiling reports. -/
def compile (task : Task) : Work Profile := do
  let compilation := task.compile
  reportAll compilation.records
  ofExcept (.expression []) compilation.outcome

/-- A number for a new record of exports. -/
def freshRecord : Work Export.RecordId :=
  modifyGet fun w =>
    let (id, ledger) := w.ledger.fresh
    (id, { w with ledger := ledger })

/-- Begin a request. -/
def begin (root : Path) (config : Config) (making : Making) : Work Request :=
  modifyGet fun w =>
    let (ticket, registry) := w.registry.begin root
    ({ root := root, config := config, ticket := ticket, making := making },
      { w with registry := registry })

/-- The settings of a request: those that are given, or those of the project. -/
def settings (root : Path) (config : Option Config) : Work Config :=
  return config.getD ((← get).registry.configFor root)

/-- Begin to compile a text for a project. -/
def beginText (root : Path) (text : Option Text) (config : Option Config) (source : Option Path) :
    Work Request := do
  let root ← fullPath root
  let config ← settings root config
  begin root config
    (.compiling { text := text, config := config, root := root, source := source })

/-- Begin to compile the ignore file of a project, which is read now.  A file that cannot be read makes a
profile that says so. -/
def beginLoad (root : Path) (config : Option Config) : Work Request := do
  let root ← fullPath root
  let config ← settings root config
  if !config.useIgnoreFile then beginText root none (some config) none
  else
    let w ← get
    let path := w.loader.pathIn root
    let content ← ofExcept id (w.loader.read w.files root)
    reportAll (content.warnings.map fun warning =>
      Log.record Log.warning registrySource (path.render
        ++ Text.ofString s!":{warning.line}: " ++ warning.message))
    match content with
    | .text text _ => beginText root (some text) (some config) (some path)
    | .problem message => do
      say Log.warning registrySource message
      begin root config (.ready
        { root := root, config := config, source := some path
          diagnostics := [{ kind := .ioError, line := 0, text := [], message := message }] })

/-- The profile of a request. -/
def make (request : Request) : Work Profile :=
  match request.making with
  | .compiling task => compile task
  | .ready profile => pure profile

/-- Finish a request.  The result is the profile of the request, or the one that was published before
it by a later request. -/
def finish (request : Request) : Work Held := do
  let root := request.root
  let profile ← make request
  let record ← freshRecord
  let ending := (← get).registry.ending root request.ticket profile record
  modify fun w => { w with registry := w.registry.apply root request.config ending }
  match ending with
  | .discarded => do
    say Log.debug registrySource
      (Text.ofString "Discarding compilation of removed root " ++ root.render)
    return { profile := profile, record := record, ticket := request.ticket }
  | .superseded current => do
    say Log.debug registrySource
      (Text.ofString "Discarding superseded compilation of " ++ root.render)
    return current
  | .published held => do
    if profile.isUsable then
      let _ ← exportProfile held false
    say Log.info registrySource profile.summary
    return held

/-- Load a project. -/
def load (root : Path) (config : Option Config) : Work Held := do finish (← beginLoad root config)

/-- Begin to load the project of a file that has changed, if the file is the ignore file of a known
project. -/
def beginNotice (file : Path) : Work (Option Request) := do
  let file ← fullPath file
  let w ← get
  if file.name != w.loader.fileName then
    say Log.debug registrySource (Text.ofString "Not an ignore file: " ++ file.render)
    return none
  else if !w.registry.isKnown file.parent then
    say Log.debug registrySource
      (Text.ofString "Ignore file of unregistered root changed: " ++ file.render)
    return none
  else
    say Log.info registrySource (Text.ofString "Reloading ignore file: " ++ file.render)
    return some (← beginLoad file.parent none)

/-- A change of a file: if it is the ignore file of a known project, the project is loaded again. -/
def notify (file : Path) : Work (Option Held) := do
  match ← beginNotice file with
  | none => return none
  | some request => return some (← finish request)

/-- The published profile of a project. -/
def published (root : Path) : Work (Option Held) := do
  let root ← fullPath root
  return (← get).registry.get? root

/-- What a builder of commands needs of a project. -/
structure Usage where
  usable : Bool
  exemptions : Nat
  /-- The pattern, or a reference to the variable that carries it. -/
  text : Text
deriving Repr, DecidableEq

/-- What a builder of commands needs of a project.  The variable is referred to only if the pattern is
carried by it and its script was written. -/
def usage (root : Path) (canUseVariable : Bool) : Work Usage := do
  match ← published root with
  | none => return { usable := false, exemptions := 0, text := [] }
  | some held =>
    let p := held.profile
    match p.usable? with
    | none => return { usable := false, exemptions := p.exemptions, text := [] }
    | some pattern =>
      let placement ← placementOf p
      let record ← exportRecord held
      let text := match placement with
        | some (.externalized _ _) =>
          if canUseVariable && record.succeeded then Export.reference p.config.shell else pattern
        | _ => pattern
      return { usable := true, exemptions := p.exemptions, text := text }

/-- The option of the search command for a project; nothing for a project that is not known. -/
def projectOption (root : Path) (byReference : Bool) : Work Text := do
  match ← published root with
  | none => return []
  | some held => optionFor held byReference

/-- Forget a project. -/
def remove (root : Path) : Work Unit := do
  let root ← fullPath root
  modify fun w => { w with registry := w.registry.remove root }
  say Log.debug registrySource (Text.ofString "Removed ignore profile: " ++ root.render)

/-- Forget all projects. -/
def clear : Work Unit := modify fun w => { w with registry := w.registry.clear }

end Work

end SkipPath
