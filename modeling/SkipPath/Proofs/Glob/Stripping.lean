import SkipPath.Proofs.Glob.Outcome
import Mathlib.Data.List.DropRight

/-!
Stripping a line again, and with blanks around it.

A line is blank, or it is a stem that ends in something else than a blank, with blanks behind it
(`Text.isAllBlank_or_stem`).  Of the blanks at most the first one stays, and only behind a backslash; so what is
stripped once is left as it is by stripping (`stripLine_stripLine`).

Blanks that are put around a line change nothing but in one case: where the line itself ends in a backslash, the first
of those behind it is kept (`stripLine_between`).  All that becomes of a line comes from its stripped text
(`translate_eq_iff`).
-/

namespace SkipPath

namespace Text

theorem trimStart_of_isAllBlank {t : Text} (h : isAllBlank t = true) : trimStart t = [] :=
  List.dropWhile_eq_nil_iff.mpr (List.all_eq_true.mp h)

/-- Blanks in front are taken off with those that follow them. -/
theorem trimStart_blanks_append {blanks : Text} (h : isAllBlank blanks = true) (t : Text) :
    trimStart (blanks ++ t) = trimStart t :=
  List.dropWhile_append_of_pos (List.all_eq_true.mp h)

theorem isAllBlank_append {t u : Text} : isAllBlank (t ++ u) = (isAllBlank t && isAllBlank u) := List.all_append

/-- A text is blank, or it ends in something else than a blank, with blanks behind. -/
theorem isAllBlank_or_stem (t : Text) :
    isAllBlank t = true ∨ ∃ stem blanks, t = stem ++ blanks ∧ EndsFirm stem ∧ isAllBlank blanks = true := by
  induction t with
  | nil => exact .inl rfl
  | cons c t ih =>
    cases hc : isBlank c with
    | false =>
      obtain ⟨stem, blanks, rfl, hstem, hblanks⟩ := exists_stem hc t
      exact .inr ⟨c :: stem, blanks, rfl, hstem, hblanks⟩
    | true =>
      rcases ih with hblank | ⟨stem, blanks, rfl, hstem, hblanks⟩
      · refine .inl ?_
        rw [isAllBlank, List.all_cons, hc]
        exact hblank
      · exact .inr ⟨c :: stem, blanks, rfl, hstem.append [c], hblanks⟩

/-- A text with blanks behind it ends in a backslash only if there are no blanks. -/
theorem getLast?_append_blanks {stem blanks : Text} (hblanks : isAllBlank blanks = true) :
    (stem ++ blanks).getLast? = some (.char '\\') ↔ stem.getLast? = some (.char '\\') ∧ blanks = [] := by
  cases blanks using List.reverseRecOn with
  | nil => simp
  | append_singleton blanks d =>
    have hd : isBlank d = true := List.all_eq_true.mp hblanks d (by simp)
    have hbackslash : d ≠ '\\' := by
      rintro rfl
      exact absurd hd (by decide)
    rw [← List.append_assoc, List.getLast?_concat]
    simp [hbackslash]

end Text

namespace Glob

open Text (EndsFirm)

theorem stripLine_of_isAllBlank {line : Text} (h : Text.isAllBlank line = true) : stripLine line = [] := by
  rw [stripLine, Text.trimStart_of_isAllBlank h]
  rfl

/-- Stripping a line that is stripped changes nothing. -/
theorem stripLine_stripLine (line : Text) : stripLine (stripLine line) = stripLine line := by
  rcases Text.isAllBlank_or_stem line with hblank | ⟨stem, blanks, rfl, hstem, hblanks⟩
  · rw [stripLine_of_isAllBlank hblank]
    rfl
  have hlast := hstem.getLast?_trimStart
  have hfirm := Text.endsFirm_trimStart hstem
  have hstart : Text.trimStart (Text.trimStart stem) = Text.trimStart stem := List.dropWhile_idempotent _ _
  rw [stripLine_append_blanks hstem hblanks]
  split
  · next hbackslash =>
    rw [stripLine_append_blanks hfirm (Text.isAllBlank_take hblanks 1), hlast, if_pos hbackslash, hstart,
      List.take_take, Nat.min_self]
  · rw [List.append_nil, stripLine_of_endsFirm hfirm, hstart]

/-- Blanks around a line go, but for the first one behind a backslash at its end. -/
theorem stripLine_between {before after : Text} (line : Text) (hbefore : Text.isAllBlank before = true)
    (hafter : Text.isAllBlank after = true) :
    stripLine (before ++ line ++ after) =
      stripLine line ++ if line.getLast? = some (.char '\\') then after.take 1 else [] := by
  rcases Text.isAllBlank_or_stem line with hblank | ⟨stem, blanks, rfl, hstem, hblanks⟩
  · have hlast : line.getLast? ≠ some (.char '\\') := by
      intro hlast
      exact absurd (List.all_eq_true.mp hblank '\\' (List.mem_of_getLast? hlast)) (by decide)
    have hall : Text.isAllBlank (before ++ line ++ after) = true := by
      simp [Text.isAllBlank_append, hbefore, hblank, hafter]
    rw [stripLine_of_isAllBlank hall, stripLine_of_isAllBlank hblank, if_neg hlast]
    rfl
  · have hall : Text.isAllBlank (blanks ++ after) = true := by simp [Text.isAllBlank_append, hblanks, hafter]
    have hlast : (before ++ stem).getLast? = stem.getLast? := by
      obtain ⟨c, hc, -⟩ := hstem
      rw [List.getLast?_append, hc, Option.some_or]
    have hregroup : before ++ (stem ++ blanks) ++ after = (before ++ stem) ++ (blanks ++ after) := by simp
    rw [hregroup, stripLine_append_blanks (hstem.append before) hall, stripLine_append_blanks hstem hblanks, hlast,
      Text.trimStart_blanks_append hbefore, List.append_assoc]
    simp only [Text.getLast?_append_blanks hblanks]
    by_cases hbackslash : stem.getLast? = some (.char '\\')
    · cases blanks with
      | nil => simp [hbackslash]
      | cons b blanks => simp [hbackslash]
    · simp [hbackslash]

/-- **Stripping is stable.**  A stripped line is left as it is, and so what becomes of it is what becomes of the line
it was stripped from.  Blanks around a line change nothing at all exactly if the line does not end in a backslash, or
if there are none behind it. -/
theorem stripping_stable (line : Text) (skipDotFolders : Bool) :
    stripLine (stripLine line) = stripLine line ∧
    (∀ skipFirst, translate (translate line skipFirst).line skipDotFolders = translate line skipDotFolders) ∧
    ∀ before after, Text.isAllBlank before = true → Text.isAllBlank after = true →
      (translate (before ++ line ++ after) skipDotFolders = translate line skipDotFolders ↔
        line.getLast? ≠ some (.char '\\') ∨ after = []) := by
  refine ⟨stripLine_stripLine line, fun _ => translate_eq_iff.mpr (stripLine_stripLine line), ?_⟩
  intro before after hbefore hafter
  rw [translate_eq_iff, stripLine_between line hbefore hafter, List.append_right_eq_self]
  by_cases hbackslash : line.getLast? = some (.char '\\')
  · simp [hbackslash]
  · simp [hbackslash]

/-- A name, three backslashes and a blank, which is escaped, between other blanks. -/
theorem stripping_stable_escaped :
    Text.isAllBlank (Text.ofString "\t ") = true ∧ Text.isAllBlank (Text.ofString "\x1c\n") = true ∧
    (Text.ofString "a\\\\\\ ").getLast? ≠ some (.char '\\') ∧
    translate (Text.ofString "\t a\\\\\\ \x1c\n") true = translate (Text.ofString "a\\\\\\ ") true ∧
    translate (Text.ofString "a\\\\\\ ") true =
      { line := Text.ofString "a\\\\\\ ", outcome := .kept (Text.ofString "a\\\\ ") } := by
  have hbefore : Text.isAllBlank (Text.ofString "\t ") = true := by decide +kernel
  have hafter : Text.isAllBlank (Text.ofString "\x1c\n") = true := by decide +kernel
  have hlast : (Text.ofString "a\\\\\\ ").getLast? ≠ some (.char '\\') := by decide +kernel
  have hsame := ((stripping_stable (Text.ofString "a\\\\\\ ") true).2.2 _ _ hbefore hafter).mpr (.inl hlast)
  exact ⟨hbefore, hafter, hlast, hsame, by decide +kernel⟩

end Glob

end SkipPath
