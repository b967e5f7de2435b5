import SkipPath.Json.Printer
import SkipPath.Log.Record

/-!
Records as text: a plain line for people, a JSON object for programs (`JsonFormatter`), and a line with
date and source for files.
-/

namespace SkipPath.Log

/-- What is added to records from outside: when, and by which process. -/
structure Stamp where
  /-- The date and time in a log file, in 23 characters. -/
  date : Text := Text.ofString "1970-01-01 00:00:00,000"
  /-- The date and time in a JSON object. -/
  instant : Text := Text.ofString "1970-01-01T00:00:00+00:00"
  process : Nat := 0

/-- A text with the account of an error on lines of its own. -/
def withException (text : Text) (r : Record) : Text :=
  match r.exception with
  | none => text
  | some account => (if text.getLast? = some (.char '\n') then text else text ++ [.char '\n']) ++ account

/-- A record for people. -/
def plain (r : Record) : Text :=
  withException (levelName r.level ++ Text.ofString ": " ++ r.message) r

/-- A record for programs.  What belongs to the record may take the place of a member. -/
def object (stamp : Stamp) (r : Record) : Json :=
  let members := Json.putAll
    [(Text.ofString "timestamp", .text stamp.instant),
      (Text.ofString "level", .text (levelName r.level)),
      (Text.ofString "component", .text r.source), (Text.ofString "message", .text r.message),
      (Text.ofString "pid", .int stamp.process)]
    r.context
  .object (match r.exception with
    | none => members
    | some account => Json.putMember (Text.ofString "exception") (.text account) members)

/-- A record for a file. -/
def dated (stamp : Stamp) (r : Record) : Text :=
  let dash := Text.ofString " - "
  withException
    (stamp.date ++ dash ++ r.source ++ dash ++ levelName r.level ++ dash ++ r.message) r

end SkipPath.Log
