import SkipPath.Proofs.Profile.Breaks
import SkipPath.Proofs.Profile.Usable
import SkipPath.Proofs.Results

/-!
How the lines of a file end.

Nothing of a text counts for its compilation but its lines (`Task.compile_congr_lines`): breaks are blank, so that
whether the text is blank can be told from the lines as well.  A line feed with a return in front of it ends a line as
a line feed alone does.  So it is all the same which line feeds of a text have one, in a file that comes from Windows
or in one that was put together from several (`compile_withReturns`).
-/

namespace SkipPath

namespace Text

/-! ## 1. Returns in front of line feeds -/

/-- A character at its place, with a return in front of it if it is a line feed and the place is chosen. -/
def withReturn (chosen : Nat → Bool) (placed : CodePoint × Nat) : Text :=
  if placed.1 = '\n' ∧ chosen placed.2 then ['\r', '\n'] else [placed.1]

/-- A text with a return in front of the line feeds at the chosen places. -/
def withReturns (chosen : Nat → Bool) (t : Text) : Text := t.zipIdx.flatMap (withReturn chosen)

/-- A text without returns of its own keeps its lines. -/
theorem splitLines_withReturns {t : Text} (ht : .char '\r' ∉ t) (chosen : Nat → Bool) :
    splitLines (withReturns chosen t) = splitLines t := by
  unfold withReturns
  generalize 0 = start
  induction t generalizing start with
  | nil => rfl
  | cons c t ih =>
    have hreturn : c ≠ '\r' := fun he => ht (he ▸ List.mem_cons_self)
    have hrest := ih (fun hmem => ht (List.mem_cons_of_mem c hmem)) (start + 1)
    rw [List.zipIdx_cons, List.flatMap_cons, withReturn]
    split
    · next hchosen =>
      obtain rfl : c = '\n' := hchosen.1
      exact congrArg ([] :: ·) hrest
    · by_cases hfeed : c = '\n'
      · subst hfeed
        exact congrArg ([] :: ·) hrest
      · rw [List.singleton_append, splitLines_cons hfeed fun he => absurd he hreturn,
          splitLines_cons hfeed fun he => absurd he hreturn, hrest]

end Text

/-! ## 2. What counts of a text -/

namespace Task

/-- Texts with the same lines are compiled to the same profile, or refused alike, with the same reports. -/
theorem compile_congr_lines (task : Task) {t t' : Text} (h : Text.splitLines t = Text.splitLines t') :
    { task with text := some t }.compile = { task with text := some t' }.compile := by
  have hblank : Text.isAllBlank t = Text.isAllBlank t' := by
    rw [Text.isAllBlank_eq_all_lines, h, ← Text.isAllBlank_eq_all_lines]
  have hrows : Row.patterns t = Row.patterns t' := by
    rw [Row.patterns, Row.ofText, h, ← Row.ofText, ← Row.patterns]
  simp only [compile, Option.filter_some, hblank]
  cases Text.isAllBlank t' with
  | false =>
    simp only [Bool.not_false, if_true, verdicts, hrows]
    rfl
  | true => rfl

/-- **Whichever line feeds of a text without returns are written with a return in front of them, the text is compiled
to the same profile, or refused alike, with the same reports.** -/
theorem compile_withReturns (task : Task) {text : Text} (hreturn : .char '\r' ∉ text) (chosen : Nat → Bool) :
    { task with text := some (Text.withReturns chosen text) }.compile = { task with text := some text }.compile :=
  task.compile_congr_lines (Text.splitLines_withReturns hreturn chosen)

/-- A file with an escaped blank at the end of a line, an exemption and a line that is no expression. -/
def mixedEnds : Task where
  text := some (Text.ofString "a\\ \n!b\n[z-a]\nc")
  config := { Config.standard with omitExemptions := true }
  root := Path.ofString "/w/app"

/-- The return behind the escaped blank goes with the line feed, and the line that is refused keeps its number. -/
theorem compile_withReturns_mixed :
    .char '\r' ∉ Text.ofString "a\\ \n!b\n[z-a]\nc" ∧
    Text.withReturns (· % 2 = 1) (Text.ofString "a\\ \n!b\n[z-a]\nc") = Text.ofString "a\\ \r\n!b\n[z-a]\nc" ∧
    ∃ p, { mixedEnds with text := some (Text.ofString "a\\ \r\n!b\n[z-a]\nc") }.compile.outcome = .ok p ∧
      p.fragments = [Text.ofString "/[\\$\\.]", Text.ofString "a ", Text.ofString "/c/"] ∧
      p.diagnostics.map (·.line) = [3] := by
  have hreturn : .char '\r' ∉ Text.ofString "a\\ \n!b\n[z-a]\nc" := by decide
  have hends : Text.withReturns (· % 2 = 1) (Text.ofString "a\\ \n!b\n[z-a]\nc") =
      Text.ofString "a\\ \r\n!b\n[z-a]\nc" := by decide +kernel
  obtain ⟨p, hcompile, hfacts⟩ := exists_ok mixedEnds.compile.outcome
    (fun p => p.fragments = [Text.ofString "/[\\$\\.]", Text.ofString "a ", Text.ofString "/c/"] &&
      p.diagnostics.map (·.line) = [3])
    (by decide +kernel)
  obtain ⟨hfragments, hlines⟩ := Bool.and_eq_true_iff.mp hfacts
  refine ⟨hreturn, hends, p, ?_, of_decide_eq_true hfragments, of_decide_eq_true hlines⟩
  rw [← hends, mixedEnds.compile_withReturns hreturn]
  exact hcompile

end Task

end SkipPath
