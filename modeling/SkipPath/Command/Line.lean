import SkipPath.Command.Help

/-!
The commands of the program and what each is told (`parse_args`).
-/

namespace SkipPath.Command

/-- What every command is told. -/
structure Common where
  shell : Option Text := none
  forwardSlash : Bool := false
  keepDotFolders : Bool := false
  logLevel : Option Text := none
deriving Repr, DecidableEq

/-- What the commands on a project are told. -/
structure Project where
  root : Text
  omitExemptions : Bool := false
  exportThreshold : Option Int := none
  scripts : Option Text := none
deriving Repr, DecidableEq

/-- What is done. -/
inductive Action where
  /-- Show the fragment of each line. -/
  | translate (lines : List Text)
  /-- Show the pattern of a project. -/
  | compile (project : Project) (json : Bool)
  /-- Write the script of a project, and show how the pattern is used. -/
  | exportScript (project : Project) (force : Bool)
  /-- Compare two opinions on paths. -/
  | check (project : Project) (paths : List Text)
  /-- Compile again whenever the ignore file changes. -/
  | watch (project : Project)
deriving Repr, DecidableEq

/-- A whole command line. -/
structure Line where
  common : Common
  action : Action
deriving Repr, DecidableEq

/-- An option. -/
def flag (name : String) (kind : FlagKind) (about : String) : Flag :=
  { name := Text.ofString name, kind := kind, about := Text.ofString about }

/-- The option that shows the help. -/
def helpFlag : Flag :=
  { name := Text.ofString "--help", kind := .help, about := Text.ofString "show this help message and exit"
    short := some ['-', 'h'] }

/-- The options of every command. -/
def commonFlags : List Flag := [
  flag "--shell" .text "Target shell: posix, cmd or mingw (default: GITSKIP_SHELL or posix)",
  flag "--forward-slash" .toggle "Search binary accepts / in path regexes on Windows",
  flag "--keep-dot-folders" .toggle "Do not skip every dot folder, only .git",
  flag "--log-level" .text "Log level (TRACE, DEBUG, INFO, WARNING, ERROR)"]

/-- The options of the commands on a project. -/
def projectFlags : List Flag := [
  flag "--omit-exemptions" .toggle "Drop !pattern lines instead of refusing the file",
  flag "--export-threshold" .number "Longest pattern embedded literally (default: 200)",
  flag "--script-dir" .text "Folder for skip-path variable scripts"]

/-- An operand. -/
def operand (name : String) (arity : Arity) (about : String) : Operand :=
  { name := Text.ofString name, arity := arity, about := Text.ofString about }

/-- The operand that names the project. -/
def rootOperand : Operand := operand "root" .one "Project root holding the ignore file"

/-- The names of the commands. -/
inductive Verb where
  | translate
  | compile
  | exportScript
  | check
  | watch
deriving Repr, DecidableEq

namespace Verb

/-- All commands. -/
def all : List Verb := [.translate, .compile, .exportScript, .check, .watch]

/-- The name of a command. -/
def name : Verb → Text
  | .translate => Text.ofString "translate"
  | .compile => Text.ofString "compile"
  | .exportScript => Text.ofString "export"
  | .check => Text.ofString "check"
  | .watch => Text.ofString "watch"

/-- What a command does. -/
def about : Verb → Text
  | .translate => Text.ofString "Translate ignore lines to regex fragments"
  | .compile => Text.ofString "Print the merged skip-path regex"
  | .exportScript => Text.ofString "Write the skip-path variable script when needed"
  | .check => Text.ofString "Compare regex and gitignore decisions for paths"
  | .watch => Text.ofString "Recompile when the ignore file changes"

/-- The options of a command. -/
def flags : Verb → List Flag
  | .translate => helpFlag :: commonFlags
  | .compile =>
    helpFlag :: commonFlags ++ projectFlags ++ [flag "--json" .toggle "Output profile as JSON"]
  | .exportScript =>
    helpFlag :: commonFlags ++ projectFlags ++
      [flag "--force" .toggle "Rewrite an unchanged script"]
  | .check | .watch => helpFlag :: commonFlags ++ projectFlags

/-- The operands of a command. -/
def operands : Verb → List Operand
  | .translate => [operand "lines" .many "Ignore lines"]
  | .compile | .exportScript | .watch => [rootOperand]
  | .check => [rootOperand, operand "paths" .many "Paths relative to the root"]

/-- The words that a command takes. -/
def grammar (v : Verb) : Grammar :=
  { program := Text.ofString "gitskip " ++ v.name, flags := v.flags, operands := v.operands }

/-- The help of a command. -/
def help (v : Verb) (width : Nat) : List Text := v.grammar.help width [] []

end Verb

/-- The version. -/
def versionText : Text := Text.ofString "gitskip 0.3.0"

/-- The words that the program takes. -/
def program : Grammar :=
  { program := Text.ofString "gitskip"
    flags := [helpFlag, flag "--version" .version "show program's version number and exit"]
    operands := [operand "command" .rest ""] }

/-- The help of the program. -/
def programHelp (width : Nat) : List Text :=
  program.help width (Text.ofString "Compile .gitignore files into skip-path regexes for search tools")
    (Verb.all.map fun v => (v.name, v.about))

/-- Whether something was turned on. -/
def isOn (given : List Given) (name : String) : Bool := given.contains (.toggled (Text.ofString name))

/-- The last text that was given for an option. -/
def textOf (given : List Given) (name : String) : Option Text :=
  given.reverse.findSome? fun
    | .text n value => if n = Text.ofString name then some value else none
    | _ => none

/-- The last number that was given for an option. -/
def numberOf (given : List Given) (name : String) : Option Int :=
  given.reverse.findSome? fun
    | .number n value => if n = Text.ofString name then some value else none
    | _ => none

/-- The words that were given for an operand. -/
def wordsOf (given : List Given) (name : String) : List Text :=
  (given.findSome? fun
    | .operand n values => if n = Text.ofString name then some values else none
    | _ => none).getD []

/-- What every command is told, as it was given. -/
def Common.ofGiven (given : List Given) : Common :=
  { shell := textOf given "--shell"
    forwardSlash := isOn given "--forward-slash"
    keepDotFolders := isOn given "--keep-dot-folders"
    logLevel := textOf given "--log-level" }

/-- What a command on a project is told, as it was given. -/
def Project.ofGiven (given : List Given) : Project :=
  { root := ((wordsOf given "root").head?).getD []
    omitExemptions := isOn given "--omit-exemptions"
    exportThreshold := numberOf given "--export-threshold"
    scripts := textOf given "--script-dir" }

/-- What a command does, as it was given. -/
def Verb.action (v : Verb) (given : List Given) : Action :=
  let project := Project.ofGiven given
  match v with
  | .translate => .translate (wordsOf given "lines")
  | .compile => .compile project (isOn given "--json")
  | .exportScript => .exportScript project (isOn given "--force")
  | .check => .check project (wordsOf given "paths")
  | .watch => .watch project

/-- An end before anything is done: the exit code, and what is shown. -/
structure Exit where
  code : Nat
  shown : List Text
deriving Repr, DecidableEq

/-- The end that a stop means, given the help for a width. -/
def Stop.exit (width : Nat) (help : Nat → List Text) : Stop → Exit
  | .help => { code := 0, shown := help width }
  | .version => { code := 0, shown := Text.fill (max width leastWidth) versionText }
  | .refused => { code := 2, shown := [] }

/-- The command line that words are.  The environment says how wide a help may be. -/
def Line.parse (env : Environment) (words : List Text) : Except Exit Line :=
  let refused : Exit := { code := 2, shown := [] }
  let width := helpWidth env
  match program.read words with
  | .error stop => .error (stop.exit width programHelp)
  | .ok reading =>
    match wordsOf reading.given "command" with
    | [] => .error refused
    | name :: rest =>
      match Verb.all.find? (·.name == name) with
      | none => .error refused
      | some verb =>
        match verb.grammar.read rest with
        | .error stop => .error (stop.exit width verb.help)
        | .ok inner =>
          if reading.leftover || inner.leftover then .error refused
          else .ok { common := Common.ofGiven inner.given, action := verb.action inner.given }

end SkipPath.Command
