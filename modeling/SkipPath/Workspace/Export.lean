import SkipPath.Workspace.Basic

/-!
Exporting the pattern of a profile in the workspace: the methods of `SkipPathExporter`.
-/

namespace SkipPath.Work

/-- The source of what exports report. -/
def exportSource : String := "gitskip.ignore.externalizer"

/-- The script of a profile. -/
def scriptOf (p : Profile) : Work Path := do
  let full ← fullPath p.root
  ofExcept .encoding (Export.scriptPath (← get).scripts full p.config.shell)

/-- The record of a profile's exports. -/
def exportRecord (held : Held) : Work Export.Record := return (← get).ledger.get held.record

/-- The place of a profile's pattern. -/
def placementOf (p : Profile) : Work (Option Export.Placement) := do
  if p.isUsable then return Export.placement? p (← scriptOf p) else return none

/-- Remember how an attempt to write a script ended, and report it. -/
def settle (a : Export.Attempt) (id : Export.RecordId) (trouble : Option Files.Error) : Work Unit := do
  modify fun w => { w with ledger := w.ledger.set id (Export.settle a trouble (w.ledger.get id)) }
  match trouble with
  | some e =>
    say Log.error exportSource (Text.ofString "Failed to write skip path script "
      ++ a.script.render ++ Text.ofString ": " ++ e.message)
  | none =>
    say Log.info exportSource (Text.ofString "Exported " ++ Export.variableName
      ++ Text.ofString s!" ({a.pattern.length} chars) to " ++ a.script.render)

/-- Write bytes to a path, and say what the trouble was. -/
def put (path : Path) (content : List UInt8) : Work (Option Files.Error) :=
  modifyGet fun w =>
    let (files, trouble) := w.writer w.files path content
    (trouble, { w with files := files })

/-- Write a script, and remember how that ended.  The file is emptied before its content is encoded: content
that cannot be encoded leaves an empty script, and nothing of that is remembered. -/
def attempt (a : Export.Attempt) (id : Export.RecordId) : Work Unit := do
  checkPath a.script
  match Text.Utf8.encode a.content with
  | .ok bytes => settle a id (← put a.script bytes)
  | .error refusal =>
    match ← put a.script [] with
    | some e => settle a id (some e)
    | none => throw (.encoding refusal)

/-- Export the pattern of a profile: its script is written if that is necessary, or by force. -/
def exportProfile (held : Held) (force : Bool) : Work (Option Export.Placement) := do
  if !held.profile.isUsable then return none
  let script ← scriptOf held.profile
  match Export.plan held.profile script (← exportRecord held) force with
  | .nothing => return none
  | .inlined pattern => return some (.inlined pattern)
  | .done script => do
    say Log.debug exportSource
      (Text.ofString "Skip path variable already exported to " ++ script.render)
    return some (.externalized Export.variableName script)
  | .write a => do
    attempt a held.record
    return some a.placement

/-- The option of the search command for a profile, which is exported first. -/
def optionFor (held : Held) (byReference : Bool) : Work Text := do
  let placement ← exportProfile held false
  return Export.optionText held.profile placement (← exportRecord held) byReference

/-- A command with the pattern of a profile replaced by a reference, where there is one.  The profile is
exported first. -/
def withReference (held : Held) (command : Text) : Work Text := do
  let placement ← exportProfile held false
  return Export.withReference held.profile placement (← exportRecord held) command

/-- The command by which a terminal reads the script of a profile. -/
def sourceCommand (p : Profile) : Work Text :=
  return Export.sourceCommand p.config.shell (← scriptOf p)

end SkipPath.Work
