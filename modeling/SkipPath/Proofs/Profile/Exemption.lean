import SkipPath.Proofs.Profile.Extent

/-!
A file that exempts paths fails closed.

Where exemptions are not to be passed over, the first line that exempts paths ends the reading of its file:
the file gets a profile without a pattern, which tells of that line and of nothing after it.  The profile is
written down once (`Task.closedAt`), from the lines before the exemption and its text alone.  A file gets it
whatever stands after the exemption (`compile_of_exempting`), and a text that goes on after a line break has
the same lines up to there (`Text.splitLines_append_newline`), so that nothing can be added to a file that
would open it again (`exemption_fails_closed`).
-/

namespace SkipPath

/-! ## 1. A text that goes on -/

namespace Text

/-- A text that goes on after a line break has its lines before the others.  Its last line loses the return
that it may have ended in. -/
theorem splitLines_append_newline (t u : Text) :
    ∃ init last stem, splitLines t = init ++ [last] ∧ (last = stem ∨ last = stem ++ [.char '\r']) ∧
      splitLines (t ++ .char '\n' :: u) = init ++ stem :: splitLines u := by
  induction t with
  | nil => exact ⟨[], [], [], rfl, .inl rfl, rfl⟩
  | cons c t ih =>
    obtain ⟨init, last, stem, ht, hstem, happend⟩ := ih
    by_cases hc : c = '\n'
    · subst hc
      refine ⟨[] :: init, last, stem, ?_, hstem, ?_⟩
      · rw [splitLines_newline, ht]
        rfl
      · rw [List.cons_append, splitLines_newline, happend]
        rfl
    by_cases hreturn : c = .char '\r' ∧ (t ++ .char '\n' :: u).head? = some (.char '\n')
    · -- the return goes with a line break that `t` starts with, or with the one after `t`
      obtain ⟨rfl, hhead⟩ := hreturn
      cases t with
      | nil => exact ⟨[], ['\r'], [], rfl, .inr rfl, rfl⟩
      | cons d t =>
        obtain rfl : d = '\n' := Option.some.inj hhead
        exact ⟨init, last, stem, ht, hstem, happend⟩
    · have hends : splitLines (c :: t ++ .char '\n' :: u) = consFirst c (init ++ stem :: splitLines u) := by
        rw [List.cons_append, splitLines_cons hc fun he hhead => hreturn ⟨he, hhead⟩, happend]
      have hline : splitLines (c :: t) = consFirst c (init ++ [last]) := by
        rw [splitLines_cons hc, ht]
        intro he hhead
        cases t with
        | nil => cases hhead
        | cons d t => exact hreturn ⟨he, hhead⟩
      rw [hends, hline]
      cases init with
      | nil =>
        exact ⟨[], c :: last, c :: stem, rfl, hstem.imp (congrArg (c :: ·)) (congrArg (c :: ·)), rfl⟩
      | cons first init => exact ⟨(c :: first) :: init, last, stem, rfl, hstem, rfl⟩

theorem trimEnd_append_blank {c : CodePoint} (hc : isBlank c = true) (t : Text) :
    trimEnd (t ++ [c]) = trimEnd t := by
  rw [trimEnd, dropEndWhile, List.reverse_append, List.reverse_singleton, List.singleton_append,
    List.dropWhile_cons_of_pos hc]
  rfl

/-- A blank at the end of a text is not counted. -/
theorem trim_append_blank {c : CodePoint} (hc : isBlank c = true) (t : Text) : trim (t ++ [c]) = trim t := by
  rw [trim, trim, trimStart, trimStart, List.dropWhile_append]
  split
  · next hempty => rw [List.isEmpty_iff.mp hempty, List.dropWhile_cons_of_pos hc, List.dropWhile_nil]
  · exact trimEnd_append_blank hc _

/-- The lines of a text stay where they are when the text goes on, blanks at their ends not counted. -/
theorem splitLines_extend {t : Text} {before after : List Text} {line : Text}
    (hlines : splitLines t = before ++ line :: after) (u : Text) :
    ∃ line' after', splitLines (t ++ .char '\n' :: u) = before ++ line' :: after' ∧ trim line' = trim line := by
  obtain ⟨init, last, stem, ht, hstem, happend⟩ := splitLines_append_newline t u
  rw [hlines] at ht
  rcases List.eq_nil_or_concat after with rfl | ⟨after, end', rfl⟩
  · obtain ⟨rfl, he⟩ := List.append_inj' ht rfl
    obtain rfl := List.singleton_inj.mp he
    refine ⟨stem, splitLines u, happend, ?_⟩
    rcases hstem with rfl | rfl
    · rfl
    · exact (trim_append_blank (by decide) stem).symm
  · rw [List.concat_eq_append, ← List.cons_append, ← List.append_assoc] at ht
    obtain ⟨rfl, -⟩ := List.append_inj' ht rfl
    exact ⟨line, after ++ stem :: splitLines u, by rw [happend, List.append_assoc]; rfl, rfl⟩

end Text

/-! ## 2. The profile of a file that fails closed -/

/-- An exemption is neither blank nor a comment. -/
theorem Row.isPatternLine_of_exempting {line : Text} (hexempts : (Text.trim line).head? = some (.char '!')) :
    isPatternLine line = true := by
  rw [isPatternLine, hexempts]
  cases htrim : Text.trim line with
  | nil =>
    rw [htrim] at hexempts
    cases hexempts
  | cons c rest => rfl

/-- An exemption has no fragment. -/
theorem Config.translated_of_exempting (config : Config) {line : Text}
    (hexempts : (Text.trim line).head? = some (.char '!')) : config.translated line = none := by
  rw [translated, Glob.Settled.fragment?, Glob.outcome_eq_exemption_iff.mpr hexempts]

namespace Task

variable {task : Task} {before : List Text} {line : Text}

/-- What is noted of the lines before an exemption. -/
def issuesBefore (config : Config) (before : List Text) : List Diagnostic :=
  (((Row.patternsOf before).map (Verdict.ofRow config)).filterMap (·.issue?)).take Diagnostic.limit

/-- What is said about the line after `before`, which exempts paths. -/
def conflictAt (task : Task) (before : List Text) (line : Text) : Diagnostic :=
  { kind := .exemptionConflict, line := before.length + 1, text := Text.trim line
    message := Verdict.conflictMessage task.place { number := before.length + 1, raw := line } }

/-- The counts and the diagnostics of a file that is given up at the line after `before`. -/
def countedBefore (task : Task) (before : List Text) : Profile :=
  { task.blank with
    exemptions := 1
    errors := (before.filter Row.isPatternLine).countP task.config.isRefused
    total := (before.filter Row.isPatternLine).length + 1
    parsed := (before.filter Row.isPatternLine).countP task.config.isParsed
    diagnostics := issuesBefore task.config before }

/-- The profile of a file that is given up at the line after `before`, which exempts paths. -/
def closedAt (task : Task) (before : List Text) (line : Text) : Profile :=
  { task.countedBefore before with
    diagnostics := issuesBefore task.config before ++ [task.conflictAt before line] }

/-- Blanks at the ends of the exemption are not told of. -/
theorem closedAt_congr {line' : Text} (h : Text.trim line' = Text.trim line) :
    task.closedAt before line' = task.closedAt before line := by
  rw [closedAt, closedAt, conflictAt, conflictAt, Verdict.conflictMessage, Verdict.conflictMessage,
    Row.line, Row.line, h]

theorem isFatal_issuesBefore {config : Config} {d : Diagnostic} (h : d ∈ issuesBefore config before) :
    d.kind.isFatal = false := by
  obtain ⟨v, -, hissue⟩ := List.mem_filterMap.mp (List.mem_of_mem_take h)
  exact Verdict.isFatal_of_issue hissue

/-- The lines before an exemption go on to it, unless one of them raises. -/
theorem goes_patternsOf {config : Config}
    (hfirst : ∀ line ∈ before, (Text.trim line).head? ≠ some (.char '!'))
    (hgoes : ∀ line ∈ before, config.raises line = false) :
    ∀ row ∈ Row.patternsOf before, config.isExempting row.raw = false ∧
      (Verdict.ofRow config row).judgement.stops = false := by
  intro row hrow
  have hmem : row.raw ∈ before := by
    have hraw : row.raw ∈ (Row.patternsOf before).map (·.raw) := List.mem_map_of_mem hrow
    rw [Row.raw_patternsOf] at hraw
    exact List.mem_of_mem_filter hraw
  have hnone : config.isExempting row.raw = false :=
    Bool.eq_false_iff.mpr fun he => hfirst _ hmem (Config.isExempting_iff.mp he)
  refine ⟨hnone, Bool.eq_false_iff.mpr fun hstops => ?_⟩
  rcases (Verdict.stops_ofRow config row).mp hstops with hconflicts | hraises
  · exact hfirst _ hmem (Config.conflicts_iff.mp hconflicts).2
  · rw [hgoes _ hmem] at hraises
    cases hraises

/-- The counts and the diagnostics when an exemption ends the reading. -/
theorem counted_of_conflict {last : Verdict} (hconflict : last.judgement = .conflict)
    (hgoes : ∀ row ∈ Row.patternsOf before, task.config.isExempting row.raw = false ∧
      (Verdict.ofRow task.config row).judgement.stops = false) :
    task.counted ((Row.patternsOf before).map (Verdict.ofRow task.config) ++ [last]) =
      task.countedBefore before := by
  have hrows : ∀ row ∈ Row.patternsOf before,
      (Verdict.ofRow task.config row).judgement.stops = false := fun row hrow => (hgoes row hrow).2
  have hraw := Row.raw_patternsOf before
  have hexemptions : (tally task.config
      ((Row.patternsOf before).map (Verdict.ofRow task.config))).exemptions = 0 := by
    rw [exemptions_ofRow, List.countP_map, List.countP_eq_zero]
    intro row hrow he
    rw [Function.comp_apply, (hgoes row hrow).1] at he
    cases he
  have htotal : (tally task.config ((Row.patternsOf before).map (Verdict.ofRow task.config))).total =
      (before.filter Row.isPatternLine).length := by
    rw [total_tally, List.length_map, ← hraw, List.length_map]
  have herrors := errors_ofRow hrows
  have hparsed := parsed_ofRow hrows
  rw [hraw] at herrors hparsed
  rw [counted, countedBefore, tally_concat_of_conflict hconflict]
  simp only [Nat.add_sub_add_right]
  rw [hexemptions, herrors, hparsed, htotal, diagnostics_tally]
  rfl

/-- A file is given up at its first exemption, whatever stands after it. -/
theorem compile_of_exempting {text : Text} {after : List Text}
    (huse : task.config.useIgnoreFile = true) (homit : task.config.omitExemptions = false)
    (htext : task.text = some text) (hlines : Text.splitLines text = before ++ line :: after)
    (hexempts : (Text.trim line).head? = some (.char '!'))
    (hfirst : ∀ line ∈ before, (Text.trim line).head? ≠ some (.char '!'))
    (hgoes : ∀ line ∈ before, task.config.raises line = false) :
    task.compile.outcome = .ok (task.closedAt before line) := by
  have hpattern := Row.isPatternLine_of_exempting hexempts
  have hblank : Text.isAllBlank text = false := by
    refine Bool.eq_false_iff.mpr fun hblank => ?_
    have hmem : line ∈ Row.patternLines text :=
      List.mem_filter.mpr ⟨by rw [hlines]; exact List.mem_append_cons_self, hpattern⟩
    rw [Row.patternLines_of_isAllBlank hblank] at hmem
    cases hmem
  have hfilter : task.text.filter (fun text => !Text.isAllBlank text) = some text := by
    rw [htext, Option.filter_some, hblank]
    rfl
  have hrows := goes_patternsOf hfirst hgoes
  obtain ⟨rest, hpatterns⟩ := Row.patterns_split hlines hpattern
  let row : Row := { number := before.length + 1, raw := line }
  have hconflicts : task.config.conflicts row.raw = true := Config.conflicts_iff.mpr ⟨homit, hexempts⟩
  have hconflict := Verdict.judgement_of_conflicts hconflicts
  have hstops := (Verdict.stops_ofRow task.config row).mpr (.inl hconflicts)
  have hverdicts : task.verdicts text =
      (Row.patternsOf before).map (Verdict.ofRow task.config) ++ [Verdict.ofRow task.config row] := by
    rw [verdicts, hpatterns]
    exact Verdict.survey_of_stops (fun row hrow => (hrows row hrow).2) hstops rest
  have hcompile : task.compile.outcome = task.conclude (task.verdicts text) := by
    rw [compile, huse, hfilter]
    rfl
  rw [hcompile, hverdicts, conclude_of_conflict hconflict, counted_of_conflict hconflict hrows]
  rfl

/-! ## 3. Failing closed -/

/-- A file is given up on account of the line after `before`, which exempts paths. -/
structure FailsClosed (task : Task) (before : List Text) (line : Text) (p : Profile) : Prop where
  valid : p.valid = false
  pattern : p.pattern = none
  fragments : p.fragments = []
  exemptions : p.exemptions = 1
  /-- The counts are those of the lines up to and with the exemption. -/
  total : p.total = ((before ++ [line]).filter Row.isPatternLine).length
  parsed : p.parsed = ((before ++ [line]).filter Row.isPatternLine).countP task.config.isParsed
  errors : p.errors = ((before ++ [line]).filter Row.isPatternLine).countP task.config.isRefused
  /-- The exemption is told of last, however much has been noted before it. -/
  diagnostics : p.diagnostics = issuesBefore task.config before ++ [task.conflictAt before line]
  /-- Nothing that was noted before it makes a file unusable. -/
  harmless : ∀ d ∈ issuesBefore task.config before, d.kind.isFatal = false

theorem closedAt_failsClosed (hexempts : (Text.trim line).head? = some (.char '!')) :
    FailsClosed task before line (task.closedAt before line) := by
  have hnone := task.config.translated_of_exempting hexempts
  have hparsed : task.config.isParsed line = false := by
    rw [Config.isParsed, hnone]
    rfl
  have hrefused : task.config.isRefused line = false := by
    rw [Config.isRefused, hnone]
    rfl
  have hlines : (before ++ [line]).filter Row.isPatternLine =
      before.filter Row.isPatternLine ++ [line] := by
    rw [List.filter_append, List.filter_singleton, Row.isPatternLine_of_exempting hexempts]
    rfl
  refine ⟨rfl, rfl, rfl, rfl, ?_, ?_, ?_, rfl, fun d hd => isFatal_issuesBefore hd⟩
  · rw [hlines, List.length_append]
    rfl
  · rw [hlines, List.countP_append, List.countP_singleton, hparsed]
    rfl
  · rw [hlines, List.countP_append, List.countP_singleton, hrefused]
    rfl

/-- The first exemption closes a file, and nothing that the file goes on with opens it again. -/
theorem exemption_fails_closed {text : Text} {after : List Text}
    (huse : task.config.useIgnoreFile = true) (homit : task.config.omitExemptions = false)
    (htext : task.text = some text) (hlines : Text.splitLines text = before ++ line :: after)
    (hexempts : (Text.trim line).head? = some (.char '!'))
    (hfirst : ∀ line ∈ before, (Text.trim line).head? ≠ some (.char '!'))
    (hgoes : ∀ line ∈ before, task.config.raises line = false) :
    ∃ p, task.compile.outcome = .ok p ∧ FailsClosed task before line p ∧
      ∀ u : Text, { task with text := some (text ++ CodePoint.char '\n' :: u) }.compile.outcome = .ok p := by
  refine ⟨task.closedAt before line,
    compile_of_exempting huse homit htext hlines hexempts hfirst hgoes,
    closedAt_failsClosed hexempts, fun u => ?_⟩
  obtain ⟨line', after', hlines', htrim⟩ := Text.splitLines_extend hlines u
  have hcompile : { task with text := some (text ++ CodePoint.char '\n' :: u) }.compile.outcome =
      .ok (task.closedAt before line') :=
    compile_of_exempting huse homit rfl hlines' (by rw [htrim]; exact hexempts) hfirst hgoes
  rw [hcompile, closedAt_congr htrim]

/-- A file with more lines that are no regular expressions than are told of, and an exemption after them. -/
def late : Task where
  text := some ((List.replicate 21 (Text.ofString "[z-a]\n")).flatten ++ Text.ofString " !keep.o \r\n*.o")
  config := { Config.standard with omitExemptions := false }
  root := Path.ofString "/w/app"

theorem exemption_fails_closed_late : ∃ p, late.compile.outcome = .ok p ∧ p.valid = false ∧
    p.pattern = none ∧ p.exemptions = 1 ∧ p.total = 22 ∧ p.parsed = 0 ∧ p.errors = 21 ∧
    p.diagnostics.length = 21 ∧ p.diagnostics.getLast?.map (·.line) = some 22 ∧
    ∀ u : Text, { late with text := some (late.text.getD [] ++ CodePoint.char '\n' :: u) }.compile.outcome = .ok p := by
  have hexempts : (Text.trim (Text.ofString " !keep.o ")).head? = some (.char '!') := by decide
  have hlines : Text.splitLines (late.text.getD []) =
      List.replicate 21 (Text.ofString "[z-a]") ++ Text.ofString " !keep.o " :: [Text.ofString "*.o"] := by
    decide +kernel
  obtain ⟨p, hp, hclosed, hmore⟩ := @exemption_fails_closed late _ _ _ _ rfl rfl rfl hlines hexempts
    (by decide +kernel) (by decide +kernel)
  refine ⟨p, hp, hclosed.valid, hclosed.pattern, hclosed.exemptions, ?_, ?_, ?_, ?_, ?_, hmore⟩
  · exact hclosed.total.trans (by decide +kernel)
  · exact hclosed.parsed.trans (by decide +kernel)
  · exact hclosed.errors.trans (by decide +kernel)
  · rw [hclosed.diagnostics]
    decide +kernel
  · rw [hclosed.diagnostics]
    decide +kernel

end Task

end SkipPath
