import SkipPath.Config
import SkipPath.Fragment.Separator
import SkipPath.Profile.Diagnostic
import SkipPath.Regex.Parser
import SkipPath.Text.Lines

/-!
Verdicts on the lines of an ignore file, one for each round of the loop of `compile_ignore_text`.

Only pattern lines get one, that is those which are neither blank nor comments.  A line may contribute a
fragment, be left out for one reason or another, or end the reading of the file: an exemption does where
exemptions are not to be passed over, and so does a fragment that cannot even be refused in the normal
way.
-/

namespace SkipPath

/-- A line of a file, with its number. -/
structure Row where
  number : Nat
  raw : Text
deriving Repr, DecidableEq

namespace Row

/-- The line without blanks at its ends. -/
def line (r : Row) : Text := Text.trim r.raw

/-- Whether a line is neither blank nor a comment. -/
def isPattern (r : Row) : Bool := !r.line.isEmpty && r.line.head? != some (.char '#')

/-- The lines with their numbers, counted from `number`, last first after those in `found`. -/
def numberFrom (number : Nat) (found : List Row) : List Text → List Row
  | [] => found.reverse
  | raw :: rest => numberFrom (number + 1) ({ number := number, raw := raw } :: found) rest

/-- The lines of a text, counted from one. -/
def ofText (text : Text) : List Row := numberFrom 1 [] (Text.splitLines text)

/-- The pattern lines of a text. -/
def patterns (text : Text) : List Row := (ofText text).filter isPattern

end Row

/-- What becomes of a pattern line. -/
inductive Judgement where
  /-- The fragment goes into the pattern. -/
  | kept (fragment : Text)
  /-- The line is left out. -/
  | dropped (reason : Glob.DropReason)
  /-- The line exempts paths and is passed over. -/
  | passedOver
  /-- The line exempts paths and makes the file unusable. -/
  | conflict
  /-- The fragment is no regular expression. -/
  | refused (fragment : Text) (refusal : Regex.Refusal)
  /-- The fragment is refused in a way that ends everything. -/
  | fatal (refusal : Regex.Refusal)
deriving Repr, DecidableEq

/-- The verdict on a pattern line. -/
structure Verdict where
  row : Row
  settled : Glob.Settled
  judgement : Judgement
deriving Repr, DecidableEq

namespace Judgement

/-- What becomes of a line with the given outcome by the rules. -/
def ofOutcome (config : Config) : Glob.Outcome → Judgement
  | .dropped .exemption => if config.omitExemptions then .passedOver else .conflict
  | .dropped reason => .dropped reason
  | .kept fragment =>
    let fragment := Fragment.forShell config.shell config.forwardSlash fragment
    match Regex.parse fragment with
    | .ok _ => .kept fragment
    | .error refusal =>
      match refusal.problem.kind with
      | .malformed => .refused fragment refusal
      | .overflow | .contradiction => .fatal refusal

/-- Whether no line after this one is read. -/
def stops : Judgement → Bool
  | .conflict | .fatal _ => true
  | _ => false

/-- The fragment that a line contributes. -/
def fragment? : Judgement → Option Text
  | .kept fragment => some fragment
  | _ => none

/-- Whether the line exempts paths. -/
def isExemption : Judgement → Bool
  | .passedOver | .conflict => true
  | _ => false

/-- Whether the fragment of the line was refused. -/
def isRefused : Judgement → Bool
  | .refused _ _ => true
  | _ => false

end Judgement

namespace Verdict

/-- The verdict on a row. -/
def ofRow (config : Config) (row : Row) : Verdict :=
  let settled := Glob.translate row.raw config.skipDotFolders
  { row := row, settled := settled
    judgement := Judgement.ofOutcome config settled.outcome }

/-- The verdicts on rows, up to the one that ends the reading, after those in `found`, last first. -/
def survey (config : Config) (found : List Verdict) : List Row → List Verdict
  | [] => found.reverse
  | row :: rows =>
    let verdict := ofRow config row
    if verdict.judgement.stops then (verdict :: found).reverse
    else survey config (verdict :: found) rows

/-- What is said about a refused fragment. -/
def refusedMessage (first : String) (fragment line : Text) (refusal : Regex.Refusal) : Text :=
  Text.ofString first ++ fragment ++ Text.ofString "' from '" ++ line ++ Text.ofString "': "
    ++ refusal.message fragment

/-- What is said about an exemption that makes the file `place` unusable. -/
def conflictMessage (place : Text) (row : Row) : Text :=
  Text.ofString "Skip using git-ignore due to found exemption: \"" ++ row.line
    ++ Text.ofString "\" at " ++ place ++ Text.ofString s!":{row.number}"
    ++ Text.ofString " while omit_exemptions = false."

/-- The diagnostic of a verdict that does not end the reading. -/
def issue? (v : Verdict) : Option Diagnostic :=
  match v.judgement with
  | .refused fragment refusal =>
    some { kind := .regexCompileError, line := v.row.number, text := v.row.line
           message := refusedMessage "Invalid regex '" fragment v.row.line refusal }
  | .dropped .redundantDot => none
  | .dropped reason =>
    some { kind := .degenerateLine, line := v.row.number, text := v.row.line
           message := Text.ofString "Dropped " ++ reason.name ++ Text.ofString " line: "
             ++ v.row.line }
  | _ => none

/-- What is reported while a verdict is reached; `place` is the file. -/
def records (place : Text) (v : Verdict) : List Log.Record :=
  let report (level : Log.Level) := Log.record level "gitskip.ignore.compiler"
  v.settled.records ++
    match v.judgement with
    | .passedOver =>
      [report Log.warning (Text.ofString "Ignore exemption: \"" ++ v.row.line
        ++ Text.ofString "\" at " ++ place ++ Text.ofString s!":{v.row.number}"
        ++ Text.ofString " while omit_exemptions = true.")]
    | .conflict => [report Log.error (conflictMessage place v.row)]
    | .refused fragment refusal =>
      [report Log.warning (place ++ Text.ofString s!":{v.row.number}: "
        ++ refusedMessage "invalid regex '" fragment v.row.line refusal)]
    | .kept _ | .dropped _ | .fatal _ => []

end Verdict

end SkipPath
