import SkipPath.Json.Basic

/-!
Records of a log: how grave the matter is, who reports it, what is said, and what else belongs to it.
-/

namespace SkipPath.Log

/-- The level of a record; the higher, the graver. -/
abbrev Level := Int

/-- The level of what is said about single lines. -/
def trace : Level := 5

/-- The level of what helps to find a mistake. -/
def debug : Level := 10

/-- The level of the normal course of things. -/
def info : Level := 20

/-- The level of what may be a mistake. -/
def warning : Level := 30

/-- The level of what went wrong. -/
def error : Level := 40

/-- The level of what ends the program. -/
def critical : Level := 50

/-- The names of the levels that have one. -/
def levelNames : List (Level × Text) := [
  (0, Text.ofString "NOTSET"), (trace, Text.ofString "TRACE"), (debug, Text.ofString "DEBUG"),
  (info, Text.ofString "INFO"), (warning, Text.ofString "WARNING"), (error, Text.ofString "ERROR"),
  (critical, Text.ofString "CRITICAL")]

/-- The name of a level. -/
def levelName (level : Level) : Text :=
  match levelNames.find? (·.1 == level) with
  | some (_, name) => name
  | none => Text.ofString s!"Level {level}"

/-- A record. -/
structure Record where
  level : Level
  /-- Who reports. -/
  source : Text
  message : Text
  /-- What else belongs to the matter, for readers that are programs. -/
  context : List (Text × Json) := []
  /-- The account of an error that is reported. -/
  exception : Option Text := none
deriving Repr

/-- The record of a message from a source. -/
def record (level : Level) (source : String) (message : Text) : Record :=
  { level := level, source := Text.ofString source, message := message }

end SkipPath.Log
