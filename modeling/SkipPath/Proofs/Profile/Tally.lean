import SkipPath.Profile.Compile
import Mathlib.Data.List.Induction

/-!
What a tally comes to.

The tally of a file is kept line by line.  In the end its fragments are those of all lines without the
duplicates (`fragments_tally`), each of its counters is the number of the lines that it counts, since what
one line adds to a counter is added up over the lines (`foldl_step_count`), and its diagnostics are the
first ones of the lines, as many as are kept (`diagnostics_tally`).
-/

namespace SkipPath

/-! ## 1. Fragments -/

namespace Tally

/-- To add what is new, one after the other, is to take out the duplicates. -/
theorem foldl_addNew (fragments : List Text) : fragments.foldl addNew [] = fragments.eraseDups := by
  induction fragments using List.reverseRecOn with
  | nil => rfl
  | append_singleton fragments fragment ih =>
    rw [List.foldl_append, List.foldl_cons, List.foldl_nil, ih, List.eraseDups_append, addNew]
    by_cases hmem : fragment ∈ fragments
    · have hnone : [fragment].removeAll fragments = [] := by
        simp [List.removeAll, hmem]
      rw [hnone, if_pos (List.contains_iff_mem.mpr (List.mem_eraseDups.mpr hmem)), List.eraseDups_nil,
        List.append_nil]
    · have hone : [fragment].removeAll fragments = [fragment] := by
        simp [List.removeAll, hmem]
      rw [hone, if_neg fun h => hmem (List.mem_eraseDups.mp (List.contains_iff_mem.mp h))]
      rfl

theorem foldl_keep (t : Tally) (fragments : List Text) :
    fragments.foldl keep t = { t with fragments := fragments.foldl addNew t.fragments } := by
  induction fragments generalizing t with
  | nil => rfl
  | cons fragment fragments ih => exact ih (t.keep fragment)

/-- The fragments after a line. -/
theorem fragments_step (t : Tally) (v : Verdict) :
    (t.step v).fragments = v.judgement.fragment?.toList.foldl addNew t.fragments := by
  unfold step
  cases v.judgement <;> rfl

theorem fragments_foldl_step (t : Tally) (vs : List Verdict) :
    (vs.foldl step t).fragments =
      (vs.filterMap (·.judgement.fragment?)).foldl addNew t.fragments := by
  induction vs generalizing t with
  | nil => rfl
  | cons v vs ih =>
    rw [List.foldl_cons, ih, fragments_step, List.filterMap_cons]
    cases v.judgement.fragment? <;> rfl

end Tally

/-- The fragments of a file are those of every pattern and those of its lines, each once. -/
theorem Task.fragments_tally (config : Config) (vs : List Verdict) :
    (tally config vs).fragments =
      ((builtinFragments config).map (Fragment.forShell config.shell config.forwardSlash)
        ++ vs.filterMap (·.judgement.fragment?)).eraseDups := by
  rw [tally, Tally.fragments_foldl_step, opening, Tally.foldl_keep, ← List.foldl_append,
    Tally.foldl_addNew]

/-! ## 2. Counters -/

namespace Tally

/-- A counter that goes up with some lines goes up by their number. -/
theorem foldl_step_count (counter : Tally → Nat) (counts : Judgement → Bool) {vs : List Verdict}
    (h : ∀ v ∈ vs, ∀ t, counter (step t v) = counter t + if counts v.judgement then 1 else 0)
    (t : Tally) : counter (vs.foldl step t) = counter t + vs.countP (counts ·.judgement) := by
  induction vs generalizing t with
  | nil => rfl
  | cons v vs ih =>
    obtain ⟨hv, hvs⟩ := List.forall_mem_cons.mp h
    rw [List.foldl_cons, ih hvs, hv, List.countP_cons]
    omega

variable (t : Tally) (v : Verdict)

theorem total_step : (t.step v).total = t.total + 1 := by
  unfold step
  cases v.judgement <;> rfl

theorem exemptions_step :
    (t.step v).exemptions = t.exemptions + if v.judgement.isExemption then 1 else 0 := by
  unfold step
  cases v.judgement <;> rfl

theorem errors_step : (t.step v).errors = t.errors + if v.judgement.isRefused then 1 else 0 := by
  unfold step
  cases v.judgement <;> rfl

/-- A line without a fragment is dropped, unless it ends everything. -/
theorem dropped_step (h : ∀ refusal, v.judgement ≠ .fatal refusal) :
    (t.step v).dropped = t.dropped + if v.judgement.fragment?.isNone then 1 else 0 := by
  unfold step
  cases hv : v.judgement with
  | fatal refusal => exact absurd hv (h refusal)
  | kept | dropped | passedOver | conflict | refused => rfl

end Tally

namespace Task

variable (config : Config) {vs : List Verdict}

/-- A counter of the tally of a file. -/
theorem count_tally (counter : Tally → Nat) (counts : Judgement → Bool)
    (hkeep : ∀ fragments, counter { fragments := fragments } = 0)
    (h : ∀ v ∈ vs, ∀ t, counter (Tally.step t v) = counter t + if counts v.judgement then 1 else 0) :
    counter (tally config vs) = vs.countP (counts ·.judgement) := by
  rw [tally, Tally.foldl_step_count counter counts h, opening, Tally.foldl_keep, hkeep, Nat.zero_add]

theorem total_tally : (tally config vs).total = vs.length := by
  rw [count_tally config (·.total) (fun _ => true) (fun _ => rfl) fun v _ t => t.total_step v]
  exact congrFun List.countP_true vs

theorem exemptions_tally : (tally config vs).exemptions = vs.countP (·.judgement.isExemption) :=
  count_tally config (·.exemptions) (·.isExemption) (fun _ => rfl) fun v _ t => t.exemptions_step v

theorem errors_tally : (tally config vs).errors = vs.countP (·.judgement.isRefused) :=
  count_tally config (·.errors) (·.isRefused) (fun _ => rfl) fun v _ t => t.errors_step v

/-- The lines that were not dropped are those with a fragment. -/
theorem parsed_tally (h : ∀ v ∈ vs, ∀ refusal, v.judgement ≠ .fatal refusal) :
    (tally config vs).total - (tally config vs).dropped =
      vs.countP (·.judgement.fragment?.isSome) := by
  have hdropped := count_tally config (·.dropped) (·.fragment?.isNone) (fun _ => rfl)
    fun v hv t => t.dropped_step v (h v hv)
  have hlength : vs.length = vs.countP (·.judgement.fragment?.isSome) +
      vs.countP (·.judgement.fragment?.isNone) := by
    rw [List.length_eq_countP_add_countP (fun v : Verdict => v.judgement.fragment?.isSome)]
    simp only [Bool.not_eq_true, Option.isSome_eq_false_iff, Bool.decide_eq_true]
  rw [total_tally, hdropped, hlength, Nat.add_sub_cancel]

end Task

/-! ## 3. Diagnostics -/

/-- What is noted of a line makes no file unusable. -/
theorem Verdict.isFatal_of_issue {v : Verdict} {d : Diagnostic} (h : v.issue? = some d) :
    d.kind.isFatal = false := by
  unfold issue? at h
  split at h <;> cases h <;> rfl

namespace Tally

/-- A diagnostic is noted unless there are enough. -/
theorem diagnostics_step (t : Tally) (v : Verdict) :
    (t.step v).diagnostics =
      if t.diagnostics.length < Diagnostic.limit then t.diagnostics ++ v.issue?.toList
      else t.diagnostics := by
  unfold step
  cases hv : v.judgement with
  | dropped reason => rfl
  | refused fragment refusal => rfl
  | kept | passedOver | conflict | fatal =>
    have hnone : v.issue? = none := by
      unfold Verdict.issue?
      rw [hv]
    have hsame : (if t.diagnostics.length < Diagnostic.limit then t.diagnostics ++ v.issue?.toList
        else t.diagnostics) = t.diagnostics := by
      rw [hnone, Option.toList_none, List.append_nil, ite_self]
    exact hsame.symm

/-- The diagnostics of some lines are the first of them all. -/
theorem diagnostics_foldl_step (vs : List Verdict) {t : Tally}
    (ht : t.diagnostics.length ≤ Diagnostic.limit) :
    (vs.foldl step t).diagnostics =
      (t.diagnostics ++ vs.filterMap (·.issue?)).take Diagnostic.limit := by
  induction vs generalizing t with
  | nil => rw [List.foldl_nil, List.filterMap_nil, List.append_nil, List.take_of_length_le ht]
  | cons v vs ih =>
    have hcons : (v :: vs).filterMap (·.issue?) = v.issue?.toList ++ vs.filterMap (·.issue?) := by
      rw [List.filterMap_cons]
      cases v.issue? <;> rfl
    have hstep := diagnostics_step t v
    by_cases hroom : t.diagnostics.length < Diagnostic.limit
    · rw [if_pos hroom] at hstep
      have hlength : (t.step v).diagnostics.length ≤ Diagnostic.limit := by
        have hone := v.issue?.length_toList_le
        rw [hstep, List.length_append]
        omega
      rw [List.foldl_cons, ih hlength, hstep, hcons, List.append_assoc]
    · have hfull : t.diagnostics.length = Diagnostic.limit := by omega
      rw [if_neg hroom] at hstep
      rw [List.foldl_cons, ih (hstep ▸ ht), hstep, ← hfull, List.take_left, List.take_left]

end Tally

/-- The diagnostics of a file, before the fatal one if there is one. -/
theorem Task.diagnostics_tally (config : Config) (vs : List Verdict) :
    (tally config vs).diagnostics = (vs.filterMap (·.issue?)).take Diagnostic.limit := by
  have hopening : (opening config).diagnostics = [] := by
    rw [opening, Tally.foldl_keep]
  rw [tally, Tally.diagnostics_foldl_step vs (hopening ▸ Nat.zero_le _), hopening, List.nil_append]

end SkipPath
