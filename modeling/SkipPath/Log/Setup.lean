import SkipPath.Config
import SkipPath.Fault
import SkipPath.Files.Tree
import SkipPath.Log.Format

/-!
Where records go (`configure_logging`): to the error output in one of two forms, and to a file if one is
named.

A file may be rotated.  Before a record would bring it to its largest size, the file gets the number one,
older files move up by one number, and the oldest is dropped.
-/

namespace SkipPath.Log

/-- How a log file is rotated: the size in bytes that it does not reach, zero for none, and the number
of older files that are kept. -/
structure Rotation where
  maxSize : Int
  backups : Int
deriving Repr, DecidableEq

/-- A log file. -/
structure FileSink where
  path : Path
  rotation : Option Rotation
deriving Repr, DecidableEq

/-- Where records go. -/
structure Setup where
  /-- The lowest level that is reported. -/
  level : Level
  json : Bool := false
  file : Option FileSink := none
deriving Repr, DecidableEq

/-- What is asked of a setup. -/
structure Request where
  level : Option Text := none
  file : Option Text := none
  rotates : Bool := true
  maxSize : Int := 5 * 1024 * 1024
  backups : Int := 3
  json : Option Bool := none

/-- The lowest level that is reported about the folders under watch. -/
def watchLevel : Level := warning

/-- Whether records of a source are about the folders under watch. -/
def isWatchSource (source : Text) : Bool :=
  source = Text.ofString "watchdog" || (Text.ofString "watchdog.").isPrefixOf source

/-- Whether a record is reported.  Levels of zero and less never are. -/
def Setup.reports (setup : Setup) (r : Record) : Bool :=
  0 < r.level && (if isWatchSource r.source then watchLevel else setup.level) ≤ r.level

/-- Other names of levels. -/
def otherLevelNames : List (Level × Text) :=
  [(warning, Text.ofString "WARN"), (critical, Text.ofString "FATAL")]

/-- The names that stand for something else than a level, and what follows from asking for one. -/
def falseLevelNames : List (Text × Fault) :=
  [(Text.ofString "BASIC_FORMAT", .level (Text.ofString "%(levelname)s:%(name)s:%(message)s")),
    (Text.ofString "_STYLES", .levelKind (Text.ofString ("\x7b'%': (<class 'logging.PercentStyle'>, "
      ++ "'%(levelname)s:%(name)s:%(message)s'), '\x7b': (<class 'logging.StrFormatStyle'>, "
      ++ "'\x7blevelname\x7d:\x7bname\x7d:\x7bmessage\x7d'), "
      ++ "'$': (<class 'logging.StringTemplateStyle'>, "
      ++ "'$\x7blevelname\x7d:$\x7bname\x7d:$\x7bmessage\x7d')\x7d")))]

/-- The level that a name stands for; any unknown name stands for warnings. -/
def named (name : Text) : Except Fault Level :=
  match (levelNames ++ otherLevelNames).find? (·.2 == name) with
  | some (level, _) => .ok level
  | none =>
    match falseLevelNames.find? (·.1 == name) with
    | some (_, fault) => .error fault
    | none => .ok warning

/-- The name of the level that is asked for, in capitals: the request counts first, then two variables of
the environment. -/
def levelAsked (request : Request) (env : Environment) : Text :=
  let asked := (request.level.filter (fun t => !t.isEmpty)).or (env.nonempty? "GITSKIP_LOG_LEVEL")
  Text.uppercase (asked.getD ((env.value? "LOG_LEVEL").getD (Text.ofString "WARNING")))

/-- Whether JSON is asked for. -/
def jsonAsked (request : Request) (env : Environment) : Bool :=
  request.json.getD
    (Environment.yesWords.contains (Text.lowercase ((env.value? "GITSKIP_LOG_JSON").getD [])))

/-- The log file that is asked for. -/
def fileAsked (request : Request) (env : Environment) : Option Path :=
  ((request.file.filter (fun t => !t.isEmpty)).or (env.nonempty? "GITSKIP_LOG_FILE")).map Path.ofText

/-- A log file is there before anything is written to it; what it holds stays. -/
def openFile (tree : Files.Tree) (path : Path) : Files.Tree × Option Fault :=
  if let some fault := Fault.ofPath? path.parent then (tree, some fault)
  else
    match tree.ensureFolder path.parent with
    | (tree, some e) => (tree, some (.file e))
    | (tree, none) =>
      let path := path.resolve tree.here
      if let some fault := Fault.ofPath? path then (tree, some fault)
      else
        match tree.read path with
        | .ok _ => (tree, none)
        | .error e =>
          if e.cause = .noSuchFile then
            match tree.write path [] with
            | .ok tree => (tree, none)
            | .error e => (tree, some (.file e))
          else (tree, some (.file e))

/-- The setup that is asked for.  Its file is opened before the name of the level is looked at. -/
def configure (request : Request) (env : Environment) (tree : Files.Tree) :
    Files.Tree × Except Fault Setup :=
  let path := fileAsked request env
  let (tree, trouble) := match path with
    | none => (tree, none)
    | some path => openFile tree path
  let rotation : Rotation := { maxSize := request.maxSize, backups := request.backups }
  match trouble, named (levelAsked request env) with
  | some fault, _ | none, .error fault => (tree, .error fault)
  | none, .ok level =>
    (tree, .ok
      { level := level
        json := jsonAsked request env
        file := path.map fun path =>
          { path := path.resolve tree.here
            rotation := if request.rotates then some rotation else none } })

/-- The record that closes the setup. -/
def configured (request : Request) (env : Environment) (setup : Setup) : Record :=
  record debug "gitskip"
    (Text.ofString "Logging configured - Level: " ++ levelAsked request env
      ++ Text.ofString (if setup.json then ", JSON: True" else ", JSON: False"))

/-- The path of an older log file. -/
def backupPath (path : Path) (n : Nat) : Path :=
  path.parent.child (path.name ++ Text.ofString s!".{n}")

/-- A file moved to another path, if it is there. -/
def move (tree : Files.Tree) (source target : Path) : Files.Tree :=
  match tree.read source with
  | .error _ => tree
  | .ok content =>
    match (tree.remove source).write target content with
    | .ok tree => tree
    | .error _ => tree

/-- The older files moved up by one number: those with the numbers from `n` down. -/
def shift (tree : Files.Tree) (path : Path) : (n : Nat) → Files.Tree
  | 0 => move tree path (backupPath path 1)
  | n + 1 => shift (move tree (backupPath path (n + 1)) (backupPath path (n + 2))) path n

/-- The files after one rotation. -/
def rotate (tree : Files.Tree) (path : Path) (backups : Int) : Files.Tree :=
  if backups ≤ 0 then tree else shift tree path (backups.toNat - 1)

/-- The files with one more line in a log file; a line that cannot be encoded is left out. -/
def appendTo (sink : FileSink) (line : Text) (tree : Files.Tree) : Files.Tree :=
  let tree := match sink.rotation with
    | none => tree
    | some rotation =>
      let size := ((tree.read sink.path).toOption.getD []).length
      if 0 < rotation.maxSize && rotation.maxSize ≤ (size + line.length : Nat) then
        rotate tree sink.path rotation.backups
      else tree
  let content := (tree.read sink.path).toOption.getD []
  match Text.Utf8.encode line with
  | .error _ => tree
  | .ok bytes =>
    match tree.write sink.path (content ++ bytes) with
    | .ok tree => tree
    | .error _ => tree

/-- The files after a record that is reported. -/
def Setup.store (setup : Setup) (stamp : Stamp) (r : Record) (tree : Files.Tree) : Files.Tree :=
  match setup.file with
  | none => tree
  | some sink => appendTo sink (dated stamp r ++ [.char '\n']) tree

/-- A reported record as it appears on the error output, without the line end. -/
def Setup.line (setup : Setup) (stamp : Stamp) (r : Record) : Text :=
  if setup.json then (object stamp r).line else plain r

end SkipPath.Log
