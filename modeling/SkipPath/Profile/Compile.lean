import SkipPath.Export.Variable
import SkipPath.Fragment.Merge
import SkipPath.Profile.Basic
import SkipPath.Profile.Tally

/-!
Compiling the text of an ignore file to a profile (`compile_ignore_text`).

The verdicts on the lines are reached first; the profile and the report are both read off them.  Three
things make a profile invalid: an empty text, an exemption that is not to be passed over, and a pattern
too long for a command.
-/

namespace SkipPath

/-- What is compiled, for whom, and how. -/
structure Task where
  /-- The text of the ignore file, if there is one. -/
  text : Option Text
  config : Config
  root : Path
  source : Option Path := none

namespace Task

/-- The task that texts name.  Without a root the project is the folder of the source, or else the folder one
is in. -/
def ofTexts (text : Option Text) (config : Config) (root source : Option Text) : Task :=
  let source := Path.named? source
  { text := text, config := config, source := source
    root := match root with
      | some root => Path.ofText root
      | none => source.elim (Path.ofText []) Path.parent }

/-- The file as messages name it. -/
def place (task : Task) : Text := (task.source.getD task.root).render

/-- The fragment for folders that start with a dot or a dollar sign. -/
def dotFolderFragment (skipDotFolders : Bool) : Text :=
  if skipDotFolders then Text.ofString "/[\\$\\.]" else Text.ofString "/\\$"

/-- The line that is added where not every folder with a dot is skipped. -/
def repositoryLine : Text := Text.ofString ".git/"

/-- The lines that are added to every file. -/
def addedLines (config : Config) : List Glob.Settled :=
  if config.skipDotFolders then [] else [Glob.translate repositoryLine false]

/-- The fragments that are part of every pattern. -/
def builtinFragments (config : Config) : List Text :=
  dotFolderFragment config.skipDotFolders :: (addedLines config).filterMap (·.fragment?)

/-- The profile of the task before anything is known of the file. -/
def blank (task : Task) : Profile :=
  { root := task.root, config := task.config, source := task.source }

/-- What is said about a file without content. -/
def emptyMessage (place : Text) : Text := Text.ofString "Read empty content from file: " ++ place

/-- What is said about a pattern that is too long. -/
def overflowMessage (config : Config) (pattern : Text) : Text :=
  Text.ofString s!"Skip path pattern of {pattern.length} chars exceeds the max command length "
    ++ Text.ofString s!"{config.maxCommandLength} of " ++ config.shell.name ++ Text.ofString " shell"

/-- What is kept before the first line: the fragments of every pattern. -/
def opening (config : Config) : Tally :=
  ((builtinFragments config).map (Fragment.forShell config.shell config.forwardSlash)).foldl Tally.keep {}

/-- What is kept of a file whose lines got these verdicts. -/
def tally (config : Config) (verdicts : List Verdict) : Tally := verdicts.foldl Tally.step (opening config)

/-- The counts and the diagnostics of the lines that were read. -/
def counted (task : Task) (verdicts : List Verdict) : Profile :=
  let tally := tally task.config verdicts
  { task.blank with
    exemptions := tally.exemptions
    errors := tally.errors
    total := tally.total
    parsed := tally.total - tally.dropped
    diagnostics := tally.diagnostics }

/-- The profile of a file that was read to its end. -/
def merged (task : Task) (verdicts : List Verdict) : Profile :=
  let config := task.config
  let fragments := (tally config verdicts).fragments
  let pattern := Fragment.merge config.shell config.forwardSlash fragments
  let fits := Export.fits config.shell config.maxCommandLength pattern
  let profile := task.counted verdicts
  { profile with
    pattern := if pattern.isEmpty then none else some pattern
    fragments := fragments
    valid := !fragments.isEmpty && !pattern.isEmpty && fits
    diagnostics := profile.diagnostics ++
      if !fragments.isEmpty && !pattern.isEmpty && !fits then
        [{ kind := .commandLengthOverflow, line := 0, text := []
           message := overflowMessage config pattern }]
      else [] }

/-- The profile that follows from the verdicts. -/
def conclude (task : Task) (verdicts : List Verdict) : Except Regex.Refusal Profile :=
  match verdicts.getLast? with
  | some { row, judgement := .conflict, .. } =>
    let profile := task.counted verdicts
    .ok { profile with
      diagnostics := profile.diagnostics ++
        [{ kind := .exemptionConflict, line := row.number, text := row.line
           message := Verdict.conflictMessage task.place row }] }
  | some { judgement := .fatal refusal, .. } => .error refusal
  | _ => .ok (task.merged verdicts)

/-- A record of the compiler. -/
def report (level : Log.Level) (message : Text) : Log.Record :=
  Log.record level "gitskip.ignore.compiler" message

/-- The record that closes the reading of a file.  The time that it took is left open. -/
def closing (task : Task) (p : Profile) : Log.Record :=
  let length := (p.pattern.getD []).length
  { report Log.info
      (Text.ofString s!"Cost # s to parse {p.fragments.length} ignore-path patterns and "
        ++ Text.ofString s!"{p.exemptions} exemptions from: " ++ task.place
        ++ Text.ofString s!" , SkipPathPattern.length = {length}") with
    context :=
      [(Text.ofString "root", .text task.root.render), (Text.ofString "valid", .bool p.valid),
        (Text.ofString "errors", .int p.errors)] }

/-- What is reported once all verdicts are reached. -/
def conclusion (task : Task) (verdicts : List Verdict) : List Log.Record :=
  if verdicts.getLast?.any (·.judgement.stops) then []
  else
    let p := task.merged verdicts
    (p.diagnostics.filter (·.kind = .commandLengthOverflow)).map
        (fun d => report Log.error (task.place ++ Text.ofString ": " ++ d.message))
      ++ [task.closing p]

/-- The verdicts on the lines of a text. -/
def verdicts (task : Task) (text : Text) : List Verdict :=
  Verdict.survey task.config [] (Row.patterns text)

end Task

/-- The outcome of compiling, and what was reported on the way. -/
structure Compilation where
  outcome : Except Regex.Refusal Profile
  records : List Log.Record

/-- Compile an ignore file. -/
def Task.compile (task : Task) : Compilation :=
  if !task.config.useIgnoreFile then
    { outcome := .ok task.blank
      records := [report Log.debug (Text.ofString "Ignore file disabled for " ++ task.root.render)] }
  else
    match task.text.filter (fun text => !Text.isAllBlank text) with
    | none =>
      let message := emptyMessage task.place
      { outcome := .ok { task.blank with
          diagnostics := [{ kind := .ioError, line := 0, text := [], message := message }] }
        records := [report Log.error message] }
    | some text =>
      let verdicts := task.verdicts text
      { outcome := task.conclude verdicts
        records := (addedLines task.config).flatMap (·.records)
          ++ verdicts.flatMap (·.records task.place) ++ task.conclusion verdicts }

end SkipPath
