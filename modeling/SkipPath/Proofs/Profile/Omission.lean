import SkipPath.Proofs.Profile.Breaks
import SkipPath.Proofs.Profile.Refusal

/-!
Exemptions that are passed over leave no trace but their number.

Where exemptions are to be passed over, a line that exempts paths could as well be a comment
(`omitted_exemptions_neutral`).  Two runs are compared, one with such lines and one with comments in their
places.  The rows that get a verdict are the same but for the exemptions, with the numbers that they had
(`Row.patterns_withoutExemptions`), since a comment still takes a line.  An exemption ends nothing
(`Verdict.survey_filter`) and is kept in no other part of the tally than its counters
(`Tally.foldl_step_filter`), so the fragments, the pattern and the diagnostics do not see it, however many
diagnostics there are already.
-/

namespace SkipPath

/-! ## 1. Comments for exemptions -/

namespace Text

/-- A line that exempts paths as a comment; any other line as it is. -/
def commentExemption (line : Text) : Text := if (trim line).head? = some (.char '!') then [.char '#'] else line

/-- A text with comments for the lines that exempt paths. -/
def withoutExemptions (t : Text) : Text := mapLines commentExemption t

theorem splitLines_withoutExemptions (t : Text) :
    splitLines (withoutExemptions t) = (splitLines t).map commentExemption := by
  refine splitLines_mapLines (fun line hline => ?_) (fun line hend => ?_) t
  · unfold commentExemption
    split
    · decide
    · exact hline
  · unfold commentExemption at hend
    split at hend
    · exact absurd hend (by decide)
    · exact hend

theorem isAllBlank_withoutExemptions (t : Text) : isAllBlank (withoutExemptions t) = isAllBlank t := by
  have hline : ∀ line, isAllBlank (commentExemption line) = isAllBlank line := by
    intro line
    unfold commentExemption
    split
    · next hexempts =>
      have hnot : isAllBlank line = false := by
        refine Bool.eq_false_iff.mpr fun hblank => ?_
        rw [trim_of_isAllBlank hblank] at hexempts
        cases hexempts
      exact hnot.symm
    · rfl
  rw [isAllBlank_eq_all_lines, splitLines_withoutExemptions, List.all_map, isAllBlank_eq_all_lines t]
  exact congrArg (splitLines t).all (funext hline)

end Text

namespace Row

/-- A row of a line that exempts paths. -/
def exempts (row : Row) : Bool := row.line.head? = some (.char '!')

theorem numberFrom_filter (number : Nat) (lines : List Text) :
    (numberFrom number [] (lines.map Text.commentExemption)).filter isPattern =
      ((numberFrom number [] lines).filter isPattern).filter (!·.exempts) := by
  induction lines generalizing number with
  | nil => rfl
  | cons raw lines ih =>
    rw [List.map_cons, numberFrom_cons, numberFrom_cons, List.filter_cons, List.filter_cons, ih]
    by_cases hexempts : (Text.trim raw).head? = some (.char '!')
    · -- the exemption is a pattern line, and the comment is none
      have hpattern : isPattern { number := number, raw := raw } = true := by
        cases htrim : Text.trim raw with
        | nil => simp [htrim] at hexempts
        | cons c rest => simp_all [isPattern, line]
      have hcomment : isPattern { number := number, raw := ['#'] } = false := rfl
      simp [Text.commentExemption, hexempts, hpattern, hcomment, exempts, line]
    · have hraw : Text.commentExemption raw = raw := if_neg hexempts
      have hkept : exempts { number := number, raw := raw } = false := decide_eq_false hexempts
      rw [hraw]
      cases hpattern : isPattern { number := number, raw := raw } with
      | true => simp [hkept]
      | false => simp

/-- Without the exemptions the other pattern lines stay, with their numbers. -/
theorem patterns_withoutExemptions (text : Text) :
    patterns (Text.withoutExemptions text) = (patterns text).filter (!·.exempts) := by
  rw [patterns, ofText, Text.splitLines_withoutExemptions, numberFrom_filter]
  rfl

end Row

/-! ## 2. Verdicts and the tally -/

namespace Verdict

variable {config : Config}

/-- The verdict on a row says whether the row exempts paths. -/
theorem isExemption_ofRow (row : Row) : (ofRow config row).judgement.isExemption = row.exempts := by
  rw [(exit_ofRow config row).isExemption, Bool.eq_iff_iff, Config.isExempting_iff, Row.exempts,
    decide_eq_true_eq, Row.line]

/-- Where exemptions are passed over, the reading goes on after them. -/
theorem stops_of_exempts (homit : config.omitExemptions = true) {row : Row} (h : row.exempts = true) :
    (ofRow config row).judgement.stops = false := by
  refine Bool.eq_false_iff.mpr fun hstops => ?_
  rcases (exit_ofRow config row).of_stops hstops with ⟨hnot, -⟩ | ⟨refusal, hfatal⟩
  · rw [homit] at hnot
    cases hnot
  · have hexemption : (ofRow config row).judgement.isExemption = row.exempts := isExemption_ofRow row
    rw [hfatal, h] at hexemption
    cases hexemption

/-- Without the exemptions the other rows get the verdicts that they got. -/
theorem survey_filter (homit : config.omitExemptions = true) (found : List Verdict) (rows : List Row) :
    survey config (found.filter (!·.judgement.isExemption)) (rows.filter (!·.exempts)) =
      (survey config found rows).filter (!·.judgement.isExemption) := by
  induction rows generalizing found with
  | nil => simp [survey, List.filter_reverse]
  | cons row rows ih =>
    have hrow : (ofRow config row).judgement.isExemption = row.exempts := isExemption_ofRow row
    have hmore := ih (ofRow config row :: found)
    cases hexempts : row.exempts with
    | true =>
      rw [hexempts] at hrow
      simp only [List.filter_cons, hrow, hexempts, Bool.not_true, Bool.false_eq_true, if_false] at hmore ⊢
      rw [hmore, survey, if_neg (by simp [stops_of_exempts homit hexempts])]
    | false =>
      rw [hexempts] at hrow
      simp only [List.filter_cons, hrow, hexempts, Bool.not_false, if_true] at hmore ⊢
      rw [survey, survey]
      cases (ofRow config row).judgement.stops with
      | true => simp [hrow, List.filter_reverse]
      | false => simpa using hmore

/-- The verdict that ends the reading is the last one without the exemptions as well. -/
theorem getLast?_filter_of_stops {vs : List Verdict} {last : Verdict} (hlast : vs.getLast? = some last)
    (hkept : last.judgement.isExemption = false) :
    (vs.filter (!·.judgement.isExemption)).getLast? = some last := by
  obtain ⟨init, rfl⟩ := List.getLast?_eq_some_iff.mp hlast
  simp [List.filter_append, hkept]

end Verdict

namespace Tally

/-- The tally with some more exemptions. -/
def withExemptions (t : Tally) (n : Nat) : Tally :=
  { t with total := t.total + n, dropped := t.dropped + n, exemptions := t.exemptions + n }

theorem step_of_isExemption (t : Tally) {v : Verdict} (h : v.judgement.isExemption = true) :
    t.step v = t.withExemptions 1 := by
  unfold step
  cases hv : v.judgement <;> simp_all [Judgement.isExemption, withExemptions, drop]

theorem step_withExemptions (t : Tally) (n : Nat) (v : Verdict) :
    (t.withExemptions n).step v = (t.step v).withExemptions n := by
  unfold step
  cases v.judgement with
  | dropped | refused =>
    simp only [withExemptions, drop, note, Nat.add_right_comm]
    rfl
  | kept | passedOver | conflict | fatal => simp only [withExemptions, keep, drop, Nat.add_right_comm]

/-- Exemptions are kept in the counters only. -/
theorem foldl_step_filter (t : Tally) (n : Nat) (vs : List Verdict) :
    vs.foldl step (t.withExemptions n) =
      ((vs.filter (!·.judgement.isExemption)).foldl step t).withExemptions
        (n + vs.countP (·.judgement.isExemption)) := by
  induction vs generalizing t n with
  | nil => rfl
  | cons v vs ih =>
    cases hv : v.judgement.isExemption with
    | true =>
      have hstep : (t.withExemptions n).step v = t.withExemptions (n + 1) := by
        rw [step_of_isExemption _ hv]
        rfl
      simp [hv, hstep, ih, Nat.add_assoc, Nat.add_comm 1]
    | false => simp [hv, step_withExemptions, ih]

end Tally

/-! ## 3. The profile -/

/-- The profile without the exemptions in its counts. -/
def Profile.withoutExemptions (p : Profile) : Profile :=
  { p with exemptions := 0, total := p.total - p.exemptions }

namespace Task

theorem tally_filter (config : Config) (vs : List Verdict) :
    tally config vs =
      (tally config (vs.filter (!·.judgement.isExemption))).withExemptions
        (vs.countP (·.judgement.isExemption)) := by
  have hfold := Tally.foldl_step_filter (opening config) 0 vs
  rwa [Nat.zero_add] at hfold

/-- The verdicts on exemptions come to nothing but their number. -/
theorem merged_filter (task : Task) (vs : List Verdict) :
    task.merged (vs.filter (!·.judgement.isExemption)) = (task.merged vs).withoutExemptions ∧
      (task.merged vs).exemptions ≤ (task.merged vs).total := by
  have hnone : (tally task.config (vs.filter (!·.judgement.isExemption))).exemptions = 0 := by
    rw [exemptions_tally, List.countP_eq_zero]
    simp
  have htally := tally_filter task.config vs
  constructor
  · simp only [merged, counted, Profile.withoutExemptions, htally, Tally.withExemptions, hnone,
      Nat.add_sub_add_right, Nat.zero_add, Nat.add_sub_cancel]
  · simp only [merged, counted, htally, Tally.withExemptions, hnone]
    omega

/-- What the verdicts come to without those on exemptions, where exemptions are passed over. -/
theorem conclude_filter {task : Task} (homit : task.config.omitExemptions = true) (rows : List Row) :
    task.conclude ((Verdict.survey task.config [] rows).filter (!·.judgement.isExemption)) =
        (task.conclude (Verdict.survey task.config [] rows)).map Profile.withoutExemptions ∧
      ∀ p, task.conclude (Verdict.survey task.config [] rows) = .ok p → p.exemptions ≤ p.total := by
  rcases Verdict.survey_cases task.config [] rows with ⟨hall, hgoes⟩ | ⟨row, -, hstops, hlast⟩
  · have hverdicts : ∀ v ∈ Verdict.survey task.config [] rows, v.judgement.stops = false := by
      rw [hall, List.reverse_nil, List.nil_append]
      exact List.forall_mem_map.mpr hgoes
    obtain ⟨hmerged, hle⟩ := merged_filter task (Verdict.survey task.config [] rows)
    rw [conclude_of_goes hverdicts, conclude_of_goes fun v hv => hverdicts v (List.mem_of_mem_filter hv), hmerged]
    exact ⟨rfl, fun p hp => Except.ok.inj hp ▸ hle⟩
  · -- only a refusal can end the reading, and it is no exemption
    obtain ⟨hnot, -⟩ | ⟨refusal, hfatal⟩ := (Verdict.exit_ofRow task.config row).of_stops hstops
    · rw [homit] at hnot
      cases hnot
    · have hkept : (Verdict.ofRow task.config row).judgement.isExemption = false := by rw [hfatal]; rfl
      rw [conclude_of_fatal hlast hfatal,
        conclude_of_fatal (Verdict.getLast?_filter_of_stops hlast hkept) hfatal]
      exact ⟨rfl, fun p hp => by cases hp⟩

/-- **Exemptions that are passed over are neutral.**  With comments for the lines that exempt paths, a file comes to
the same profile but for two counts: there are no exemptions any more, and so many pattern lines fewer.  If it
is refused, it is refused in the same way. -/
theorem omitted_exemptions_neutral {task : Task} {text : Text} (homit : task.config.omitExemptions = true)
    (htext : task.text = some text) :
    { task with text := some (Text.withoutExemptions text) }.compile.outcome =
        task.compile.outcome.map Profile.withoutExemptions ∧
      ∀ p, task.compile.outcome = .ok p → p.exemptions ≤ p.total := by
  have hread : { task with text := some (Text.withoutExemptions text) }.isRead = task.isRead := by
    simp only [isRead, htext, Option.getD_some, Text.isAllBlank_withoutExemptions]
  cases htask : task.isRead with
  | false =>
    rw [compile_of_not_isRead htask, compile_of_not_isRead (hread.trans htask)]
    refine ⟨rfl, fun p hp => ?_⟩
    rw [← Except.ok.inj hp]
    exact Nat.le_refl 0
  | true =>
    have hrows : task.rows = Row.patterns text := by rw [rows, htask, htext]; rfl
    have hrows' : { task with text := some (Text.withoutExemptions text) }.rows =
        task.rows.filter (!·.exempts) := by
      rw [rows, hread, htask, hrows]
      exact Row.patterns_withoutExemptions text
    have hsurvey := Verdict.survey_filter homit [] task.rows
    rw [compile_of_isRead htask, compile_of_isRead (hread.trans htask), hrows']
    obtain ⟨hconclude, hle⟩ := conclude_filter homit task.rows
    rw [← hsurvey] at hconclude
    exact ⟨hconclude, hle⟩

/-- A file with two exemptions, of which one stands between blanks, and a line that is refused after them. -/
def exempting : Task where
  text := some (Text.ofString "*.o\r\n!keep.o\r\n  !main.o \n[z-a]\nbuild/")
  config := { Config.standard with omitExemptions := true }
  root := Path.ofString "/w/app"

/-- The line that is refused keeps its number. -/
theorem omitted_exemptions_neutral_numbered :
    exempting.config.omitExemptions = true ∧
    Text.withoutExemptions (exempting.text.getD []) =
      Text.ofString "*.o\r\n#\r\n#\n[z-a]\nbuild/" ∧
    ∃ p, exempting.compile.outcome = .ok p ∧ p.exemptions = 2 ∧ p.total = 5 ∧
      { exempting with text := some (Text.ofString "*.o\r\n#\r\n#\n[z-a]\nbuild/") }.compile.outcome =
        .ok { p with exemptions := 0, total := 3 } ∧ p.diagnostics.map (·.line) = [4] := by
  have htext : Text.withoutExemptions (exempting.text.getD []) =
      Text.ofString "*.o\r\n#\r\n#\n[z-a]\nbuild/" := by decide +kernel
  obtain ⟨hneutral, hle⟩ := @omitted_exemptions_neutral exempting (exempting.text.getD []) rfl rfl
  rw [htext] at hneutral
  cases hcompile : exempting.compile.outcome with
  | error refusal =>
    have hok : exempting.compile.outcome.isOk = true := by decide +kernel
    rw [hcompile] at hok
    cases hok
  | ok p =>
    have hp : exempting.compile.outcome.toOption.map (fun p => (p.exemptions, p.total, p.diagnostics.map (·.line))) =
        some (2, 5, [4]) := by decide +kernel
    rw [hcompile] at hp hneutral
    obtain ⟨hexemptions, hrest⟩ := Prod.mk.inj (Option.some.inj hp)
    obtain ⟨htotal, hlines⟩ := Prod.mk.inj hrest
    refine ⟨rfl, htext, p, rfl, hexemptions, htotal, hneutral.trans ?_, hlines⟩
    rw [Except.map, Profile.withoutExemptions, hexemptions, htotal]

end Task

end SkipPath
