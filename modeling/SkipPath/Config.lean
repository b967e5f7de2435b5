import SkipPath.Log.Record
import SkipPath.Shell
import SkipPath.Table
import SkipPath.Text.Integer

/-!
The settings an ignore file is compiled with (`IgnoreConfig`).

A `Draft` names some of the settings, as an environment (`from_env`) or a caller does; drafts are laid over each
other, the upper one winning, and a draft is made final once.  A final `Config` carries the proofs that
its two lengths are positive, so there is no config that was not checked.
-/

namespace SkipPath

/-- Final settings. -/
structure Config where
  /-- Whether the ignore file counts at all. -/
  useIgnoreFile : Bool := true
  /-- Whether exemptions are left out; if not, they make the whole file unusable. -/
  omitExemptions : Bool := false
  /-- Whether every folder that starts with a dot is skipped. -/
  skipDotFolders : Bool := true
  shell : Shell := .posix
  /-- Whether the search tool takes the slash as a separator on Windows. -/
  forwardSlash : Bool := false
  /-- The longest pattern that is written into each command. -/
  exportThreshold : Int := 200
  /-- The longest assignment of the pattern to its variable. -/
  maxCommandLength : Int := 131072
  exportThreshold_pos : 0 < exportThreshold := by decide
  maxCommandLength_pos : 0 < maxCommandLength := by decide
deriving Repr, DecidableEq

namespace Config

/-- The settings of those who ask for nothing in particular. -/
def standard : Config := {}

/-- Why there is no config. -/
inductive Error where
  /-- No shell has this name. -/
  | unknownShell (key : Text)
  /-- The text of a number is no number. -/
  | malformedNumber (e : Text.Integer.Error)
  /-- The threshold is zero or less. -/
  | thresholdNotPositive (n : Int)
  /-- The length of a command is zero or less. -/
  | lengthNotPositive (n : Int)
deriving Repr, DecidableEq

/-- What is said about each error. -/
def Error.message : Error → Text
  | .unknownShell key => Shell.unknownMessage key
  | .malformedNumber e => e.message
  | .thresholdNotPositive n =>
    Text.ofString s!"export_threshold must be positive, got {n}"
  | .lengthNotPositive n =>
    Text.ofString s!"max_command_length must be positive, got {n}"

/-- Some settings.  The shell is still a name, and the length of a command may be named as the one that
the shell allows, which is `some none`. -/
structure Draft where
  useIgnoreFile : Option Bool := none
  omitExemptions : Option Bool := none
  skipDotFolders : Option Bool := none
  shell : Option Text := none
  forwardSlash : Option Bool := none
  exportThreshold : Option Int := none
  maxCommandLength : Option (Option Int) := none
deriving Repr, DecidableEq

/-- One draft laid over another. -/
def Draft.over (upper lower : Draft) : Draft :=
  { useIgnoreFile := upper.useIgnoreFile.or lower.useIgnoreFile
    omitExemptions := upper.omitExemptions.or lower.omitExemptions
    skipDotFolders := upper.skipDotFolders.or lower.skipDotFolders
    shell := upper.shell.or lower.shell
    forwardSlash := upper.forwardSlash.or lower.forwardSlash
    exportThreshold := upper.exportThreshold.or lower.exportThreshold
    maxCommandLength := upper.maxCommandLength.or lower.maxCommandLength }

/-- The shell a name stands for. -/
def shellOf (name : Text) : Except Error Shell :=
  match Shell.parse name with
  | .ok shell => .ok shell
  | .error key => .error (.unknownShell key)

/-- The final settings of a draft: what it does not name takes its default, and the length of a command
is what the shell allows.  The shell is checked first, then the threshold, then the length. -/
def Draft.final (d : Draft) : Except Error Config := do
  let shell ← match d.shell with
    | none => .ok .posix
    | some name => shellOf name
  let threshold := d.exportThreshold.getD 200
  if hThreshold : 0 < threshold then
    let length := (d.maxCommandLength.getD none).getD shell.maxCommandLength
    if hLength : 0 < length then
      .ok
        { useIgnoreFile := d.useIgnoreFile.getD true
          omitExemptions := d.omitExemptions.getD false
          skipDotFolders := d.skipDotFolders.getD true
          shell := shell
          forwardSlash := d.forwardSlash.getD false
          exportThreshold := threshold
          maxCommandLength := length
          exportThreshold_pos := hThreshold
          maxCommandLength_pos := hLength }
    else .error (.lengthNotPositive length)
  else .error (.thresholdNotPositive threshold)

/-- The draft that names every setting of a config. -/
def draft (c : Config) : Draft :=
  { useIgnoreFile := some c.useIgnoreFile
    omitExemptions := some c.omitExemptions
    skipDotFolders := some c.skipDotFolders
    shell := some c.shell.name
    forwardSlash := some c.forwardSlash
    exportThreshold := some c.exportThreshold
    maxCommandLength := some (some c.maxCommandLength) }

/-- The config with some settings changed.  The length of a command follows the shell unless it is
named as well. -/
def change (c : Config) (changes : Draft) : Except Error Config :=
  let length :=
    if changes.shell.isSome && changes.maxCommandLength.isNone then some none
    else changes.maxCommandLength
  Draft.final ({ changes with maxCommandLength := length }.over c.draft)

/-- Whether separators are written as backslashes. -/
def usesBackslash (c : Config) : Bool := c.shell.separator c.forwardSlash != [.char '/']

end Config

/-- The variables of an environment. -/
abbrev Environment := Table Text Text

namespace Environment

/-- The value of a variable. -/
def value? (env : Environment) (name : String) : Option Text := env.get? (Text.ofString name)

/-- The value of a variable unless it is empty. -/
def nonempty? (env : Environment) (name : String) : Option Text :=
  (env.value? name).filter (fun value => !value.isEmpty)

/-- The words for yes. -/
def yesWords : List Text := ["1", "true", "yes", "on"].map Text.ofString

/-- The words for no. -/
def noWords : List Text := ["0", "false", "no", "off"].map Text.ofString

/-- The answer a variable gives to a question of yes or no, and a warning about any other word.  A
variable of blanks gives no answer. -/
def answer (env : Environment) (name : String) (default : Bool) : Option Bool × List Log.Record :=
  match env.value? name with
  | none => (none, [])
  | some raw =>
    if Text.isAllBlank raw then (none, [])
    else
      let word := Text.lowercase (Text.trim raw)
      if yesWords.contains word then (some true, [])
      else if noWords.contains word then (some false, [])
      else
        (none, [Log.record Log.warning "gitskip.config"
          (Text.ofString s!"Ignoring invalid boolean {name}=" ++ Text.quoted raw
            ++ Text.ofString (if default then ", using True" else ", using False"))])

/-- The integer a text stands for. -/
def number (text : Text) : Except Config.Error Int :=
  match Text.Integer.read text with
  | .ok n => .ok n
  | .error e => .error (.malformedNumber e)

/-- The shell and the numbers an environment names.  A name of a shell and a threshold count even when
they are empty, a length does not. -/
def namedValues (env : Environment) : Except Config.Error Config.Draft := do
  let shell ← match env.value? "GITSKIP_SHELL" with
    | none => .ok none
    | some name => (some ·.name) <$> Config.shellOf name
  let threshold ← (env.value? "GITSKIP_EXPORT_THRESHOLD").mapM number
  let length ← (env.nonempty? "GITSKIP_MAX_COMMAND_LENGTH").mapM number
  .ok { shell := shell, exportThreshold := threshold, maxCommandLength := length.map some }

/-- The settings an environment names, and the warnings about words it should not hold. -/
def draft (env : Environment) : List Log.Record × Except Config.Error Config.Draft :=
  let (useIgnoreFile, w₁) := env.answer "GITSKIP_USE_IGNORE_FILE" true
  let (omitExemptions, w₂) := env.answer "GITSKIP_OMIT_EXEMPTIONS" false
  let (skipDotFolders, w₃) := env.answer "GITSKIP_SKIP_DOT_FOLDERS" true
  let (forwardSlash, w₄) := env.answer "GITSKIP_FORWARD_SLASH" false
  let answers : Config.Draft :=
    { useIgnoreFile := useIgnoreFile, omitExemptions := omitExemptions
      skipDotFolders := skipDotFolders, forwardSlash := forwardSlash }
  (w₁ ++ w₂ ++ w₃ ++ w₄, answers.over <$> env.namedValues)

/-- The config of an environment with some settings laid over it.  The environment is read as a whole
first, so a value that cannot be read counts even if it is covered. -/
def config (env : Environment) (upper : Config.Draft) :
    List Log.Record × Except Config.Error Config :=
  let (warnings, lower) := env.draft
  (warnings, lower >>= fun d => (upper.over d).final)

end Environment

end SkipPath
