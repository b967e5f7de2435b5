import SkipPath.Proofs.Profile.Compiled
import Mathlib.Data.List.TakeWhile

/-!
How far a file is read.

The pattern lines of a file are gone through in order, up to the first one that ends the reading.  There are
two kinds of such lines (`Verdict.stops_ofRow`): those that exempt paths where that is not passed over, and
those whose fragment is refused in another way than as no regular expression.  What comes of a file rests
on the lines up to there: on all of them if none ends the reading (`Verdict.survey_of_goes`), and on none
after the first one that does (`Verdict.survey_of_stops`).
-/

namespace SkipPath

/-! ## 1. Rows and their numbers -/

namespace Text

/-- The lines of a text hold nothing that is not in the text. -/
theorem mem_of_mem_splitLines {t line : Text} {c : CodePoint} (hline : line ∈ splitLines t) (hc : c ∈ line) :
    c ∈ t := by
  induction t generalizing line with
  | nil =>
    rw [List.mem_singleton.mp hline] at hc
    cases hc
  | cons d t ih =>
    rw [splitLines, List.foldr_cons, splitStep] at hline
    split at hline
    · rcases List.mem_cons.mp hline with rfl | hline
      · cases hc
      · exact List.mem_cons_of_mem d (ih hline hc)
    split at hline
    · exact List.mem_cons_of_mem d (ih hline hc)
    · change line ∈ consFirst d (splitLines t) at hline
      cases hlines : splitLines t with
      | nil =>
        rw [hlines, consFirst, List.mem_singleton] at hline
        rw [hline, List.mem_singleton] at hc
        exact hc ▸ List.mem_cons_self
      | cons first rest =>
        rw [hlines] at hline ih
        rcases List.mem_cons.mp hline with rfl | hrest
        · rcases List.mem_cons.mp hc with rfl | hc
          · exact List.mem_cons_self
          · exact List.mem_cons_of_mem d (ih List.mem_cons_self hc)
        · exact List.mem_cons_of_mem d (ih (List.mem_cons_of_mem first hrest) hc)

theorem trim_of_isAllBlank {t : Text} (h : isAllBlank t = true) : trim t = [] := by
  have hstart : trimStart t = [] :=
    List.dropWhile_eq_nil_iff.mpr (List.all_eq_true.mp h)
  rw [trim, hstart]
  rfl

end Text

namespace Row

/-- A blank text has no pattern lines. -/
theorem patternLines_of_isAllBlank {text : Text} (h : Text.isAllBlank text = true) :
    patternLines text = [] := by
  refine List.filter_eq_nil_iff.mpr fun line hline hpattern => ?_
  have hblank : Text.isAllBlank line = true :=
    List.all_eq_true.mpr fun c hc => List.all_eq_true.mp h c (Text.mem_of_mem_splitLines hline hc)
  rw [isPatternLine, Text.trim_of_isAllBlank hblank] at hpattern
  cases hpattern

theorem numberFrom_eq (number : Nat) (found : List Row) (lines : List Text) :
    numberFrom number found lines = found.reverse ++ numberFrom number [] lines := by
  induction lines generalizing number found with
  | nil => rw [numberFrom, numberFrom, List.reverse_nil, List.append_nil]
  | cons raw lines ih =>
    rw [numberFrom, numberFrom, ih, ih _ [_], List.reverse_cons, List.append_assoc]
    rfl

theorem numberFrom_cons (number : Nat) (raw : Text) (lines : List Text) :
    numberFrom number [] (raw :: lines) =
      { number := number, raw := raw } :: numberFrom (number + 1) [] lines := by
  rw [numberFrom, numberFrom_eq]
  rfl

/-- Lines after others are counted on from there. -/
theorem numberFrom_append (number : Nat) (before after : List Text) :
    numberFrom number [] (before ++ after) =
      numberFrom number [] before ++ numberFrom (number + before.length) [] after := by
  induction before generalizing number with
  | nil => rfl
  | cons raw before ih =>
    rw [List.cons_append, numberFrom_cons, numberFrom_cons, ih, List.length_cons, List.cons_append,
      Nat.add_assoc, Nat.add_comm 1]

/-- The rows of some lines from the start that get a verdict. -/
def patternsOf (lines : List Text) : List Row := (numberFrom 1 [] lines).filter isPattern

theorem raw_patternsOf (lines : List Text) :
    (patternsOf lines).map (·.raw) = lines.filter isPatternLine := by
  have hraw : (numberFrom 1 [] lines).map (·.raw) = lines := raw_numberFrom 1 [] lines
  conv_rhs => rw [← hraw]
  rw [patternsOf, List.filter_map]
  rfl

/-- A pattern line has its place among the rows, and the number of its line. -/
theorem patterns_split {text : Text} {before after : List Text} {raw : Text}
    (hlines : Text.splitLines text = before ++ raw :: after) (hpattern : isPatternLine raw = true) :
    ∃ rest, patterns text =
      patternsOf before ++ { number := before.length + 1, raw := raw } :: rest := by
  refine ⟨(numberFrom (before.length + 2) [] after).filter isPattern, ?_⟩
  rw [patterns, ofText, hlines, numberFrom_append, numberFrom_cons, List.filter_append, patternsOf,
    List.filter_cons_of_pos, Nat.add_comm 1]
  exact hpattern

end Row

/-! ## 2. Rows that end the reading -/

namespace Config

variable (config : Config)

/-- A line that makes the file unusable because it exempts paths. -/
def conflicts (line : Text) : Bool := !config.omitExemptions && config.isExempting line

/-- A line with a fragment that is refused in another way than as no regular expression. -/
def raises (line : Text) : Bool :=
  (config.translated line).any fun fragment =>
    match Regex.parse (config.shellForm fragment) with
    | .ok _ => false
    | .error refusal => refusal.problem.kind ≠ .malformed

variable {config} {line : Text}

/-- A line exempts paths if it starts with an exclamation mark, blanks not counted. -/
theorem isExempting_iff : config.isExempting line = true ↔ (Text.trim line).head? = some (.char '!') := by
  rw [isExempting, decide_eq_true_eq, Glob.outcome_eq_exemption_iff]

theorem conflicts_iff :
    config.conflicts line = true ↔
      config.omitExemptions = false ∧ (Text.trim line).head? = some (.char '!') := by
  rw [conflicts, Bool.and_eq_true, Bool.not_eq_true', isExempting_iff]

theorem raises_of_kept {fragment : Text}
    (h : (Glob.translate line config.skipDotFolders).outcome = .kept fragment) :
    config.raises line =
      match Regex.parse (config.shellForm fragment) with
      | .ok _ => false
      | .error refusal => decide (refusal.problem.kind ≠ .malformed) := by
  rw [raises, translated, Glob.Settled.fragment?, h]
  rfl

end Config

theorem Judgement.ofOutcome_kept (config : Config) (fragment : Text) :
    Judgement.ofOutcome config (.kept fragment) =
      match Regex.parse (config.shellForm fragment) with
      | .ok _ => .kept (config.shellForm fragment)
      | .error refusal =>
        match refusal.problem.kind with
        | .malformed => .refused (config.shellForm fragment) refusal
        | .overflow | .contradiction => .fatal refusal := rfl

namespace Verdict

variable {config : Config}

theorem judgement_of_conflicts {row : Row} (h : config.conflicts row.raw = true) :
    (ofRow config row).judgement = .conflict := by
  obtain ⟨homit, hexempts⟩ := Config.conflicts_iff.mp h
  have hjudgement : (ofRow config row).judgement =
      .ofOutcome config (Glob.translate row.raw config.skipDotFolders).outcome := rfl
  rw [hjudgement, Glob.outcome_eq_exemption_iff.mpr hexempts, Judgement.ofOutcome, homit]
  rfl

/-- The judgement on a row, by whether it ends the reading. -/
theorem judgement_ofRow (config : Config) (row : Row) :
    config.conflicts row.raw = true ∧ (ofRow config row).judgement = .conflict ∨
    (∃ refusal, config.raises row.raw = true ∧ (ofRow config row).judgement = .fatal refusal ∧
      refusal.problem.kind ≠ .malformed) ∨
    config.conflicts row.raw = false ∧ config.raises row.raw = false ∧
      (ofRow config row).judgement.stops = false := by
  cases hconflicts : config.conflicts row.raw with
  | true => exact .inl ⟨rfl, judgement_of_conflicts hconflicts⟩
  | false =>
    have hjudgement : (ofRow config row).judgement =
        .ofOutcome config (Glob.translate row.raw config.skipDotFolders).outcome := rfl
    rw [hjudgement]
    refine .inr ?_
    cases houtcome : (Glob.translate row.raw config.skipDotFolders).outcome with
    | dropped reason =>
      have hraises : config.raises row.raw = false := by
        rw [Config.raises, Config.translated, Glob.Settled.fragment?, houtcome]
        rfl
      refine .inr ⟨rfl, hraises, ?_⟩
      cases reason with
      | exemption =>
        have homit : config.omitExemptions = true := by
          rw [Config.conflicts, Config.isExempting, houtcome, decide_eq_true rfl, Bool.and_true] at hconflicts
          exact Bool.not_eq_eq_eq_not.mp hconflicts
        rw [Judgement.ofOutcome, homit]
        rfl
      | comment | redundantDot | tooShort => rfl
    | kept fragment =>
      rw [Config.raises_of_kept houtcome, Judgement.ofOutcome_kept]
      cases Regex.parse (config.shellForm fragment) with
      | ok e => exact .inr ⟨rfl, rfl, rfl⟩
      | error refusal =>
        cases hkind : refusal.problem.kind with
        | malformed => exact .inr ⟨rfl, by simp only [hkind]; rfl, by simp only [hkind]; rfl⟩
        | overflow | contradiction =>
          exact .inl ⟨refusal, by simp only [hkind]; rfl, by simp only [hkind], by rw [hkind]; decide⟩

/-- The reading ends at a line that exempts paths where that is not passed over, and at a line that raises. -/
theorem stops_ofRow (config : Config) (row : Row) :
    (ofRow config row).judgement.stops = true ↔
      config.conflicts row.raw = true ∨ config.raises row.raw = true := by
  rcases judgement_ofRow config row with ⟨hconflicts, hjudgement⟩ | ⟨refusal, hraises, hjudgement, -⟩ |
    ⟨hconflicts, hraises, hgoes⟩
  · rw [hjudgement]
    exact iff_of_true rfl (.inl hconflicts)
  · rw [hjudgement]
    exact iff_of_true rfl (.inr hraises)
  · rw [hconflicts, hraises, hgoes]
    exact iff_of_false Bool.false_ne_true fun h => h.elim Bool.false_ne_true Bool.false_ne_true

/-! ## 3. The rows up to there -/

variable {before after : List Row}

/-- Rows that do not end the reading get their verdicts, and the reading goes on after them. -/
theorem survey_append (hgoes : ∀ row ∈ before, (ofRow config row).judgement.stops = false)
    (found : List Verdict) (after : List Row) :
    survey config found (before ++ after) =
      survey config ((before.map (ofRow config)).reverse ++ found) after := by
  induction before generalizing found with
  | nil => rfl
  | cons row before ih =>
    obtain ⟨hrow, hbefore⟩ := List.forall_mem_cons.mp hgoes
    rw [List.cons_append, survey, if_neg (by rw [hrow]; exact Bool.false_ne_true), ih hbefore,
      List.map_cons, List.reverse_cons, List.append_assoc]
    rfl

/-- If no row ends the reading, all of them get their verdicts. -/
theorem survey_of_goes (hgoes : ∀ row ∈ before, (ofRow config row).judgement.stops = false) :
    survey config [] before = before.map (ofRow config) := by
  have h := survey_append hgoes [] []
  rwa [List.append_nil, List.append_nil, survey, List.reverse_reverse] at h

/-- The row that ends the reading is the last one to get a verdict, whatever comes after it. -/
theorem survey_of_stops (hgoes : ∀ row ∈ before, (ofRow config row).judgement.stops = false) {row : Row}
    (hstops : (ofRow config row).judgement.stops = true) (after : List Row) :
    survey config [] (before ++ row :: after) = before.map (ofRow config) ++ [ofRow config row] := by
  rw [survey_append hgoes, survey, if_pos hstops, List.append_nil, List.reverse_cons,
    List.reverse_reverse]

end Verdict

/-! ## 4. A file that is given up -/

namespace Task

/-- A line that ends the reading because it exempts paths is counted, and nothing is noted of it yet. -/
theorem tally_concat_of_conflict {config : Config} {vs : List Verdict} {last : Verdict}
    (hconflict : last.judgement = .conflict) :
    tally config (vs ++ [last]) =
      { tally config vs with
        total := (tally config vs).total + 1
        dropped := (tally config vs).dropped + 1
        exemptions := (tally config vs).exemptions + 1 } := by
  rw [tally, List.foldl_append, List.foldl_cons, List.foldl_nil, ← tally, Tally.step, hconflict]
  rfl

/-- An exemption that ends the reading is told of after all that was noted before it. -/
theorem conclude_of_conflict {task : Task} {vs : List Verdict} {last : Verdict}
    (hconflict : last.judgement = .conflict) :
    task.conclude (vs ++ [last]) =
      .ok { task.counted (vs ++ [last]) with
        diagnostics := (task.counted (vs ++ [last])).diagnostics ++
          [{ kind := .exemptionConflict, line := last.row.number, text := last.row.line
             message := Verdict.conflictMessage task.place last.row }] } := by
  obtain ⟨row, settled, judgement⟩ := last
  cases hconflict
  rw [conclude, List.getLast?_concat]

end Task

end SkipPath
