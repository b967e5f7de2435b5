import SkipPath.Glob.Rule
import SkipPath.Log.Record
import SkipPath.Shell

/-!
Lines of an ignore file that the rules have settled: kept with a fragment, or dropped for a reason
(`TranslationResult`).
-/

namespace SkipPath.Glob

/-- A line without the blanks that do not count, and what becomes of it. -/
structure Settled where
  line : Text
  outcome : Outcome
deriving Repr, DecidableEq

namespace Settled

/-- The fragment of a line that is kept. -/
def fragment? (s : Settled) : Option Text :=
  match s.outcome with
  | .kept fragment => some fragment
  | .dropped _ => none

/-- The reason for which a line is dropped. -/
def reason? (s : Settled) : Option DropReason :=
  match s.outcome with
  | .kept _ => none
  | .dropped reason => some reason

/-- What is reported of a line. -/
def records (s : Settled) : List Log.Record :=
  let report := Log.record Log.trace "gitskip.ignore.translator"
  [report (Text.ofString "Input_Git_Ignore = " ++ s.line),
    match s.outcome with
    | .kept fragment => report (Text.ofString "Skip_Paths_Regex = " ++ fragment)
    | .dropped reason =>
      report (Text.ofString "Dropped (" ++ reason.name ++ Text.ofString "): " ++ s.line)]

end Settled

/-- What the rules make of a state: the last of them settles every line that the others leave open. -/
def outcomeOf (w : Working) : Outcome :=
  match (Rule.run Rule.all w).getLast? with
  | some (_, final) => final.outcome.getD (settle final)
  | none => settle w

/-- Translate a line to a fragment, if it has one. -/
def translate (line : Text) (skipDotFolders : Bool) : Settled :=
  { line := stripLine line, outcome := outcomeOf (Working.start line skipDotFolders) }

end SkipPath.Glob
