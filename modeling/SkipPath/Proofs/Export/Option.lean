import SkipPath.Proofs.Export.ClosingQuote
import SkipPath.Proofs.Results

/-!
The option of the search command, as a Windows program gets it.

The option stands in double quotes, before the last of which a Windows program counts backslashes half.  The
pattern of a usable profile ends in an even number of them (`endRun_join_even`), so that the last quote always
closes the argument.  Where slashes are written as backslashes the backslashes at the end come twice, and the
argument is the alternation of the fragments; where they stay slashes they do not, and half of those at the end are
lost (`option_read_back`).
-/

namespace SkipPath

open Regex

/-! ## 1. Backslashes at the end -/

namespace Text

/-- Nothing comes twice exactly where there is no backslash at the end. -/
theorem eq_protectEnd_iff {t : Text} :
    t = Fragment.protectEnd t ↔ (Fragment.protectEnd t).getLast? ≠ some (.char '\\') := by
  rw [← endRun_eq_zero_iff, endRun_protectEnd]
  constructor
  · intro he
    have hrun := congrArg endRun he
    rw [endRun_protectEnd] at hrun
    omega
  · intro hrun
    have hnone : t.endRun = 0 := by omega
    rw [Fragment.protectEnd, takeEndWhile_eq_replicate, hnone, List.replicate_zero, List.append_nil]

theorem mem_join {c : CodePoint} {sep : Text} {ts : List Text} (h : c ∈ join sep ts) :
    c ∈ sep ∨ ∃ t ∈ ts, c ∈ t := by
  fun_induction join sep ts with
  | case1 => cases h
  | case2 t => exact .inr ⟨t, List.mem_cons_self, h⟩
  | case3 t ts hts ih =>
    rw [List.mem_append, List.mem_append] at h
    rcases h with (h | h) | h
    · exact .inr ⟨t, List.mem_cons_self, h⟩
    · exact .inl h
    · rcases ih h with hsep | ⟨u, hu, hc⟩
      · exact .inl hsep
      · exact .inr ⟨u, List.mem_cons_of_mem t hu, hc⟩

end Text

/-! ## 2. The option -/

namespace Windows

/-- An option and a text in double quotes are two arguments if the backslashes at the end of the text come
twice. -/
theorem read_option {t : Text} (hquote : .char '"' ∉ t) :
    read (Export.optionName ++ .char ' ' :: Export.doubleQuoted (Fragment.protectEnd t)) =
      some [Export.optionName, t] := by
  have hname : Export.optionName.foldl step {} = { words := Words.extend {} Export.optionName } := by
    decide +kernel
  rw [read, List.foldl_append, hname, List.foldl_cons]
  have hblank : step { words := Words.extend {} Export.optionName } ' ' =
      { words := { complete := [Export.optionName] } } := by
    decide +kernel
  rw [hblank, foldl_doubleQuoted hquote]
  rfl

end Windows

namespace Export

/-- A Windows program takes the option of a usable profile for its name and one argument.  Where slashes are
written as backslashes, the argument is the alternation of the fragments.  Where they stay slashes, half of the
backslashes at the end of the alternation are lost. -/
theorem option_read_back {task : Task} {p : Profile} (hshell : task.config.shell = .cmd)
    (hok : task.compile.outcome = .ok p) (husable : p.isUsable = true)
    (hquote : ∀ fragment ∈ p.fragments, .char '"' ∉ fragment) (place : Placement) (r : Record) :
    ∃ argument, Windows.read (optionText p (some place) r false) = some [optionName, argument] ∧
      (task.config.forwardSlash = false → argument = Text.join ['|'] p.fragments) ∧
      (task.config.forwardSlash = true →
        Fragment.protectEnd argument = Text.join ['|'] p.fragments ∧
        (argument = Text.join ['|'] p.fragments ↔
          (Text.join [.char '|'] p.fragments).getLast? ≠ some (.char '\\'))) := by
  have hpattern := (Task.compile_of_usable hok husable).pattern
  have htext : optionText p (some place) r false =
      optionName ++ .char ' ' :: doubleQuoted (p.pattern.getD []) := by
    cases place <;> rfl
  have hnone : .char '"' ∉ Text.join [.char '|'] p.fragments := by
    intro hmem
    rcases Text.mem_join hmem with hbar | ⟨fragment, hfragment, hmem⟩
    · simp at hbar
    · exact hquote fragment hfragment hmem
  rw [htext, hpattern, Option.getD_some, Fragment.joined, hshell]
  cases task.config.forwardSlash with
  | false => exact ⟨_, Windows.read_option hnone, fun _ => rfl, fun h => absurd h Bool.false_ne_true⟩
  | true =>
    obtain ⟨argument, hargument⟩ := Text.exists_protectEnd (endRun_join_even hok husable)
    have hargumentNone : .char '"' ∉ argument := by
      intro hmem
      rw [← hargument] at hnone
      exact hnone (List.mem_append_left _ hmem)
    refine ⟨argument, ?_, fun h => absurd h.symm Bool.false_ne_true, fun _ => ⟨hargument, ?_⟩⟩
    · have hread := Windows.read_option hargumentNone
      rwa [hargument] at hread
    · rw [← hargument]
      exact Text.eq_protectEnd_iff

/-- A file with one line, which ends in an escaped backslash, for the command prompt of Windows. -/
def lastBackslash (forwardSlash : Bool) : Task where
  text := some (Text.ofString "a\\\\")
  config := { Config.standard with shell := .cmd, forwardSlash := forwardSlash }
  root := Path.ofString "/w/app"

theorem option_read_back_last : ∃ p, (lastBackslash false).compile.outcome = .ok p ∧
    Windows.read (optionText p (some (.inlined (p.pattern.getD []))) .blank false) =
      some [optionName, Text.ofString "\\\\[\\$\\.]|a\\\\"] := by
  obtain ⟨p, hcompile, hfacts⟩ := exists_ok (lastBackslash false).compile.outcome
    (fun p => p.isUsable && p.fragments = [Text.ofString "\\\\[\\$\\.]", Text.ofString "a\\\\"])
    (by decide +kernel)
  obtain ⟨husable, hfragments⟩ := Bool.and_eq_true_iff.mp hfacts
  have hfragments := of_decide_eq_true hfragments
  have hquote : ∀ fragment ∈ p.fragments, .char '"' ∉ fragment := by
    rw [hfragments]
    decide
  obtain ⟨argument, hread, hsame, -⟩ :=
    option_read_back rfl hcompile husable hquote (.inlined (p.pattern.getD [])) .blank
  refine ⟨p, hcompile, ?_⟩
  rw [hread, hsame rfl, hfragments]
  rfl

/-- With slashes the last backslash is lost. -/
theorem half_lost_with_slashes : ∃ p, (lastBackslash true).compile.outcome = .ok p ∧ p.isUsable = true ∧
    (∀ fragment ∈ p.fragments, .char '"' ∉ fragment) ∧
    Text.join ['|'] p.fragments = Text.ofString "/[\\$\\.]|a\\\\" ∧
    Windows.read (optionText p (some (.inlined (p.pattern.getD []))) .blank false) =
      some [optionName, Text.ofString "/[\\$\\.]|a\\"] := by
  obtain ⟨p, hcompile, hfacts⟩ := exists_ok (lastBackslash true).compile.outcome
    (fun p => p.isUsable && (p.fragments = [Text.ofString "/[\\$\\.]", Text.ofString "a\\\\"] &&
      p.pattern = some (Text.ofString "/[\\$\\.]|a\\\\")))
    (by decide +kernel)
  obtain ⟨husable, hrest⟩ := Bool.and_eq_true_iff.mp hfacts
  obtain ⟨hfragments, hpattern⟩ := Bool.and_eq_true_iff.mp hrest
  have hfragments := of_decide_eq_true hfragments
  have hpattern := of_decide_eq_true hpattern
  refine ⟨p, hcompile, husable, ?_, ?_, ?_⟩
  · rw [hfragments]
    decide
  · rw [hfragments]
    rfl
  · show Windows.read (optionName ++ .char ' ' :: doubleQuoted (p.pattern.getD [])) = _
    rw [hpattern]
    decide +kernel

end Export

end SkipPath
