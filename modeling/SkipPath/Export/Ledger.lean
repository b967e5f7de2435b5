import SkipPath.Export.Placement
import SkipPath.Export.Script
import SkipPath.Files.Error
import SkipPath.Profile.Basic

/-!
Exporting a pattern (`SkipPathExporter.export` with its `ExportState`): what is remembered of it, when a
script has to be written, and what is remembered after that.

Successive profiles of a project share one record, so a pattern that has not changed is not written
again.  Deciding (`plan`) and remembering (`settle`) are apart: between them the script is written, which
may fail.
-/

namespace SkipPath.Export

/-- What is remembered of the exports of a project. -/
structure Record where
  /-- The script that was written last. -/
  script : Option Path := none
  /-- The pattern in it. -/
  pattern : Option Text := none
  /-- Whether the last attempt to write a script succeeded. -/
  succeeded : Bool := false
  /-- Why it did not. -/
  error : Option Text := none
deriving Repr, DecidableEq

/-- The record of a project of which nothing was exported. -/
def Record.blank : Record := { succeeded := false }

/-- The number of a record. -/
abbrev RecordId := Nat

/-- All records, by number. -/
structure Ledger where
  records : List Record := []
deriving Repr, DecidableEq

namespace Ledger

/-- A new record, with nothing in it. -/
def fresh (l : Ledger) : RecordId × Ledger := (l.records.length, ⟨l.records ++ [Record.blank]⟩)

/-- The record of a number. -/
def get (l : Ledger) (id : RecordId) : Record := (l.records[id]?).getD Record.blank

/-- The ledger with the record of a number replaced. -/
def set (l : Ledger) (id : RecordId) (r : Record) : Ledger := ⟨l.records.set id r⟩

end Ledger

/-- A script that has to be written. -/
structure Attempt where
  pattern : Text
  shell : Shell
  script : Path
deriving Repr, DecidableEq

/-- What the script holds. -/
def Attempt.content (a : Attempt) : Text := assignment a.shell a.pattern

/-- The place of the pattern after the attempt. -/
def Attempt.placement (a : Attempt) : Placement := .externalized variableName a.script

/-- What has to be done to export a profile. -/
inductive Plan where
  /-- The profile has no pattern to use. -/
  | nothing
  /-- The pattern is written into the commands. -/
  | inlined (pattern : Text)
  /-- The script is already there. -/
  | done (script : Path)
  /-- The script has to be written. -/
  | write (attempt : Attempt)
deriving Repr, DecidableEq

/-- The place of a profile's pattern, given its script. -/
def placement? (p : Profile) (script : Path) : Option Placement :=
  p.usable?.map fun pattern => place pattern p.config.exportThreshold script

/-- What has to be done, given the script of a profile and the record of its project.  A script that was
written with the same pattern is written again only by force. -/
def plan (p : Profile) (script : Path) (r : Record) (force : Bool) : Plan :=
  match p.usable? with
  | none => .nothing
  | some pattern =>
    match place pattern p.config.exportThreshold script with
    | .inlined pattern => .inlined pattern
    | .externalized _ script =>
      if !force && r.succeeded && r.script = some script && r.pattern = some pattern then
        .done script
      else .write { pattern := pattern, shell := p.config.shell, script := script }

/-- What is remembered after an attempt that ended with the given trouble, or without any. -/
def settle (a : Attempt) (trouble : Option Files.Error) (r : Record) : Record :=
  match trouble with
  | none => { script := some a.script, pattern := some a.pattern, succeeded := true, error := none }
  | some e => { r with succeeded := false, error := some e.message }

/-- The option of the search command that names the paths to skip. -/
def optionName : Text := Text.ofString "--np"

/-- A text in double quotes, with nothing done to what it holds. -/
def doubleQuoted (t : Text) : Text := .char '"' :: t ++ [.char '"']

/-- The option for a profile whose pattern has the given place.  `byReference` says that the command may
refer to the variable. -/
def optionText (p : Profile) (placement : Option Placement) (r : Record) (byReference : Bool) : Text :=
  match placement with
  | none => []
  | some (.externalized _ _) =>
    optionName ++ .char ' ' :: (if byReference && r.succeeded then reference p.config.shell
      else doubleQuoted (p.pattern.getD []))
  | some (.inlined _) => optionName ++ .char ' ' :: doubleQuoted (p.pattern.getD [])

/-- The text with each occurrence of a part replaced; occurrences are taken from left to right and do
not overlap. -/
def replaceAll (part value : Text) : Text → Text
  | [] => []
  | c :: rest =>
    if part.isPrefixOf (c :: rest) && !part.isEmpty then
      value ++ replaceAll part value (rest.drop (part.length - 1))
    else c :: replaceAll part value rest
termination_by t => t.length
decreasing_by all_goals simp only [List.length_drop, List.length_cons]; omega

/-- A command with the pattern in double quotes replaced by a reference to the variable, where there is
one. -/
def withReference (p : Profile) (placement : Option Placement) (r : Record) (command : Text) : Text :=
  match placement with
  | some (.externalized _ _) =>
    if r.succeeded then
      replaceAll (doubleQuoted (p.pattern.getD [])) (reference p.config.shell) command
    else command
  | _ => command

/-- A character that needs no quotes in a Bourne shell. -/
def isSafeChar (c : CodePoint) : Bool :=
  ('a' ≤ c && c ≤ 'z') || ('A' ≤ c && c ≤ 'Z') || ('0' ≤ c && c ≤ '9') ||
    (Text.ofString "_@%+=:,./-").contains c

/-- A word of a Bourne shell. -/
def shellWord (t : Text) : Text :=
  if t.isEmpty then ['\'', '\'']
  else if t.all isSafeChar then t
  else
    .char '\'' :: t.flatMap (fun c => if c = .char '\'' then Text.ofString "'\"'\"'" else [c]) ++ [.char '\'']

/-- The command by which a terminal reads a script. -/
def sourceCommand (shell : Shell) (script : Path) : Text :=
  let text := script.render
  if shell.isCmd then
    Text.ofString "call " ++ (if text.contains ' ' then doubleQuoted text else text)
  else Text.ofString "source " ++ shellWord text

end SkipPath.Export
