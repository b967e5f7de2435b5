import SkipPath.Proofs.Export.CommandLine
import SkipPath.Proofs.Profile.Usable
import SkipPath.Proofs.Results

/-!
The end of a pattern.

A pattern is put between double quotes, and an odd number of backslashes before the second quote would take it for
a character of the pattern.  No pattern of a profile ends so (`pattern_ends_paired`).

Only the last fragment decides that, since a bar stands before it (`endRun_join`).  It is an expression by itself, in
the form in which it stands in the pattern, so no escape is left open at its end, and every backslash there is
one of two (`endRun_even`).  Where the backslashes at the end come twice their number stays even.
-/

namespace SkipPath

open Regex

/-! ## 1. Backslashes at the end of a text -/

namespace Text

/-- A text without a lone backslash at its end ends in an even number of backslashes. -/
theorem endRun_even {t : Text} (h : (Token.scan t).2 = false) : t.endRun % 2 = 0 := by
  obtain ⟨tokens, hproper, rfl⟩ : ∃ tokens : List Token, (∀ token ∈ tokens, token.IsProper) ∧
      t = Token.texts tokens := ⟨_, Token.scan_proper t, (Token.texts_scan h).symm⟩
  clear h
  -- from the end: a token is an escaped backslash, which counts two, or it ends in something else
  induction tokens using List.reverseRecOn with
  | nil => rfl
  | append_singleton tokens token ih =>
    obtain ⟨htokens, htoken⟩ := List.forall_mem_append.mp hproper
    rw [Token.texts_append]
    cases token with
    | plain c =>
      have hc : c ≠ '\\' := htoken _ List.mem_cons_self
      show endRun (Token.texts tokens ++ [c]) % 2 = 0
      rw [endRun_concat hc]
    | escape c =>
      have htext : Token.texts tokens ++ Token.texts [.escape c] = Token.texts tokens ++ [.char '\\'] ++ [c] := by
        simp [Token.texts, Token.text]
      rw [htext]
      by_cases hc : c = '\\'
      · have heven := ih htokens
        rw [hc, endRun_concat_backslash, endRun_concat_backslash]
        omega
      · rw [endRun_concat hc]

/-- Of texts with bars between them, only the last one counts. -/
theorem endRun_join {ts : List Text} {last : Text} (h : ts.getLast? = some last) :
    (join ['|'] ts).endRun = last.endRun := by
  fun_induction join ['|'] ts with
  | case1 => cases h
  | case2 t => exact congrArg endRun (Option.some.inj h)
  | case3 t ts hts ih =>
    rw [List.append_assoc, List.singleton_append, endRun_append_cons (by decide)]
    rw [List.getLast?_cons_of_ne_nil hts] at h
    exact ih h

end Text

/-! ## 2. The pattern of a profile -/

namespace Export

variable {task : Task} {p : Profile} {pattern : Text}

/-- A profile with a pattern has a last fragment. -/
theorem exists_last (hok : task.compile.outcome = .ok p) (hpattern : p.pattern = some pattern) :
    ∃ last, p.fragments.getLast? = some last :=
  ⟨_, List.getLast?_eq_some_getLast (Task.compile_of_pattern hok hpattern).fragments_ne_nil⟩

/-- Each fragment is an expression by itself, so it ends in an even number of backslashes. -/
theorem endRun_fragment_even (hok : task.compile.outcome = .ok p) (hpattern : p.pattern = some pattern)
    {fragment : Text} (hfragment : fragment ∈ p.fragments) : fragment.endRun % 2 = 0 := by
  rw [(Task.compile_of_pattern hok hpattern).fragments] at hfragment
  obtain ⟨form, hform, rfl⟩ := List.mem_map.mp (List.mem_eraseDups.mp hfragment)
  have hcompiles := Task.compiles_of_mem_slashForms hform
  unfold Config.compiles at hcompiles
  cases hparse : parse (task.config.shellForm form) with
  | error refusal =>
    rw [hparse] at hcompiles
    cases hcompiles
  | ok e => exact Text.endRun_even (parse_ok_iff.mp hparse).1

/-- The fragments with bars between them end in an even number of backslashes. -/
theorem endRun_join_even (hok : task.compile.outcome = .ok p) (husable : p.isUsable = true) :
    (Text.join ['|'] p.fragments).endRun % 2 = 0 := by
  obtain ⟨pattern, hpattern⟩ := Task.exists_pattern husable
  obtain ⟨last, hlast⟩ := exists_last hok hpattern
  rw [Text.endRun_join hlast]
  exact endRun_fragment_even hok hpattern (List.mem_of_getLast? hlast)

/-- **A pattern leaves its closing quote alone.**  The backslashes at the end of a pattern are even in number.  There
are twice as many as at the end of the last fragment where they have to be for the command prompt of Windows, else
just as many; and there, too, they are even in number. -/
theorem pattern_ends_paired (hok : task.compile.outcome = .ok p) (hpattern : p.pattern = some pattern) :
    pattern.endRun % 2 = 0 ∧
    ∃ last, p.fragments.getLast? = some last ∧ last.endRun % 2 = 0 ∧
      pattern.endRun =
        if task.config.shell = .cmd ∧ task.config.forwardSlash = false then 2 * last.endRun
        else last.endRun := by
  obtain ⟨last, hlast⟩ := exists_last hok hpattern
  have heven := endRun_fragment_even hok hpattern (List.mem_of_getLast? hlast)
  have hjoined : pattern = Fragment.joined task.config.shell task.config.forwardSlash p.fragments := by
    have hspecified := (Task.compile_of_pattern hok hpattern).pattern
    rw [hpattern] at hspecified
    exact Option.some.inj hspecified
  have hrun : pattern.endRun =
      if task.config.shell = .cmd ∧ task.config.forwardSlash = false then 2 * last.endRun
      else last.endRun := by
    rw [hjoined, Fragment.joined, Shell.isCmd, ← Text.endRun_join hlast]
    by_cases hcmd : task.config.shell = .cmd ∧ task.config.forwardSlash = false
    · rw [if_pos hcmd, hcmd.1, hcmd.2, if_pos (by decide), Text.endRun_protectEnd, Nat.two_mul]
    · rw [if_neg hcmd, if_neg]
      simpa using hcmd
  refine ⟨?_, last, hlast, heven, hrun⟩
  rw [hrun]
  split <;> omega

/-- A file whose last line ends in an escaped backslash and a slash, for the command prompt of Windows. -/
def lastSeparator : Task where
  text := some (Text.ofString "*.o\na\\\\/")
  config := { Config.standard with shell := .cmd }
  root := Path.ofString "/w/app"

/-- Four backslashes at the end of the last fragment are eight at the end of the pattern. -/
theorem pattern_ends_paired_separator : ∃ p pattern, lastSeparator.compile.outcome = .ok p ∧
    p.pattern = some pattern ∧ pattern.endRun = 8 := by
  obtain ⟨p, hok, hfacts⟩ := exists_ok lastSeparator.compile.outcome
    (fun p => p.pattern.isSome && p.fragments.getLast? = some (Text.ofString "a\\\\\\\\"))
    (by decide +kernel)
  obtain ⟨hsome, hfragment⟩ := Bool.and_eq_true_iff.mp hfacts
  obtain ⟨pattern, hpattern⟩ := Option.isSome_iff_exists.mp hsome
  obtain ⟨-, last, hlast, -, hrun⟩ := pattern_ends_paired hok hpattern
  rw [of_decide_eq_true hfragment] at hlast
  refine ⟨p, pattern, hok, hpattern, hrun.trans ?_⟩
  rw [← Option.some.inj hlast]
  decide +kernel

end Export

end SkipPath
