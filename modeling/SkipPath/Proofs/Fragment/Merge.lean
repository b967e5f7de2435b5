import SkipPath.Fragment.Merge

/-!
Fragments in the form of a shell, and how they are merged.

To put a fragment in the form of a shell a second time changes nothing, and neither does it to take out
duplicates a second time.  So it makes no difference whether a pattern is merged from fragments as they are
(`merge_slashForms`) or from those that are in the form of the shell already, each once
(`merge_shellForms`).
-/

namespace SkipPath

/-! ## 1. The form of a shell -/

namespace Fragment

variable (shell : Shell) (forwardSlash : Bool)

/-- A separator has no slash, or it is the slash. -/
theorem separate_separator :
    (shell.separator forwardSlash).flatMap (separate (shell.separator forwardSlash)) =
      shell.separator forwardSlash := by
  cases forwardSlash <;> cases shell <;> rfl

theorem forShell_forShell (fragment : Text) :
    forShell shell forwardSlash (forShell shell forwardSlash fragment) =
      forShell shell forwardSlash fragment := by
  have hchar : ∀ c, (separate (shell.separator forwardSlash) c).flatMap
      (separate (shell.separator forwardSlash)) = separate (shell.separator forwardSlash) c := by
    intro c
    by_cases hc : c = '/'
    · rw [separate, if_pos hc, separate_separator]
    · rw [separate, if_neg hc, List.flatMap_singleton, separate, if_neg hc]
  rw [forShell, forShell, List.flatMap_assoc]
  simp only [hchar]

theorem forShell_ne_nil {fragment : Text} (h : fragment ≠ []) :
    forShell shell forwardSlash fragment ≠ [] := by
  obtain ⟨c, rest, rfl⟩ := List.exists_cons_of_ne_nil h
  have hchar : separate (shell.separator forwardSlash) c ≠ [] := by
    unfold separate
    split
    · cases forwardSlash <;> cases shell <;> decide
    · exact List.cons_ne_nil c []
  rw [forShell, List.flatMap_cons]
  exact List.append_ne_nil_of_left_ne_nil hchar _

end Fragment

/-! ## 2. Merging -/

theorem Text.eraseDups_eraseDups (ts : List Text) : ts.eraseDups.eraseDups = ts.eraseDups := by
  match ts with
  | [] => rfl
  | t :: ts =>
    have hshorter : (ts.filter fun u => !u == t).length < ts.length + 1 :=
      Nat.lt_succ_of_le (List.length_filter_le _ ts)
    have hother : ((ts.filter fun u => !u == t).eraseDups.filter fun u => !u == t) =
        (ts.filter fun u => !u == t).eraseDups :=
      List.filter_eq_self.mpr fun u hu => (List.mem_filter.mp (List.mem_eraseDups.mp hu)).2
    rw [List.eraseDups_cons, List.eraseDups_cons, hother, eraseDups_eraseDups]
termination_by ts.length

namespace Fragment

/-- Fragments in the form of a shell, joined to a pattern. -/
def joined (shell : Shell) (forwardSlash : Bool) (fragments : List Text) : Text :=
  let pattern := Text.join ['|'] fragments
  if shell.isCmd && !forwardSlash then protectEnd pattern else pattern

variable (shell : Shell) (forwardSlash : Bool) {fragments : List Text}

/-- A pattern from fragments as they are. -/
theorem merge_slashForms (h : ∀ fragment ∈ fragments, fragment ≠ []) :
    merge shell forwardSlash fragments =
      joined shell forwardSlash (fragments.map (forShell shell forwardSlash)).eraseDups := by
  have hnone : fragments.filter (!·.isEmpty) = fragments := by
    refine List.filter_eq_self.mpr fun fragment hmem => ?_
    rw [List.isEmpty_eq_false_iff.mpr (h fragment hmem)]
    rfl
  rw [merge, hnone, joined]

/-- A pattern from fragments that are in the form of the shell, each once. -/
theorem merge_shellForms (h : ∀ fragment ∈ fragments, fragment ≠ []) :
    merge shell forwardSlash (fragments.map (forShell shell forwardSlash)).eraseDups =
      joined shell forwardSlash (fragments.map (forShell shell forwardSlash)).eraseDups := by
  have hmem : ∀ form ∈ (fragments.map (forShell shell forwardSlash)).eraseDups,
      ∃ fragment ∈ fragments, forShell shell forwardSlash fragment = form :=
    fun form hform => List.mem_map.mp (List.mem_eraseDups.mp hform)
  have hne : ∀ form ∈ (fragments.map (forShell shell forwardSlash)).eraseDups, form ≠ [] := by
    intro form hform
    obtain ⟨fragment, hfragment, rfl⟩ := hmem form hform
    exact forShell_ne_nil shell forwardSlash (h fragment hfragment)
  have hsame : (fragments.map (forShell shell forwardSlash)).eraseDups.map
      (forShell shell forwardSlash) = (fragments.map (forShell shell forwardSlash)).eraseDups := by
    refine (List.map_congr_left fun form hform => ?_).trans (List.map_id _)
    obtain ⟨fragment, -, rfl⟩ := hmem form hform
    exact forShell_forShell shell forwardSlash fragment
  rw [merge_slashForms shell forwardSlash hne, hsame, Text.eraseDups_eraseDups]

end Fragment

/-! ## 3. How a pattern starts -/

/-- A text starts as separators do. -/
def Text.StartsSeparated (t : Text) : Prop := t.head? = some (.char '/') ∨ t.head? = some (.char '\\')

theorem Text.not_startsSeparated_nil : ¬ Text.StartsSeparated [] := by
  rintro (h | h) <;> cases h

namespace Fragment

theorem startsSeparated_append {t t' : Text} (h : Text.StartsSeparated t) :
    Text.StartsSeparated (t ++ t') := by
  cases t with
  | nil => exact absurd h Text.not_startsSeparated_nil
  | cons c t => exact h

/-- Writing the separators of a shell leaves a separator at the start. -/
theorem forShell_startsSeparated (shell : Shell) (forwardSlash : Bool) {t : Text}
    (h : Text.StartsSeparated t) : Text.StartsSeparated (forShell shell forwardSlash t) := by
  have hseparator : Text.StartsSeparated (shell.separator forwardSlash) := by
    cases forwardSlash <;> cases shell <;> first | exact .inl rfl | exact .inr rfl
  cases t with
  | nil => exact absurd h Text.not_startsSeparated_nil
  | cons c rest =>
    have hc : c = '/' ∨ c = '\\' := h.imp Option.some.inj Option.some.inj
    rw [forShell, List.flatMap_cons]
    rcases hc with rfl | rfl
    · exact startsSeparated_append hseparator
    · exact .inr rfl

theorem join_startsSeparated (sep : Text) {t : Text} (h : Text.StartsSeparated t) (rest : List Text) :
    Text.StartsSeparated (Text.join sep (t :: rest)) := by
  cases rest with
  | nil => exact h
  | cons next rest =>
    rw [Text.join, List.append_assoc]
    · exact startsSeparated_append h
    · exact List.cons_ne_nil next rest

theorem merge_startsSeparated (shell : Shell) (forwardSlash : Bool) {first : Text}
    (h : Text.StartsSeparated first) (rest : List Text) :
    Text.StartsSeparated (merge shell forwardSlash (first :: rest)) := by
  have hfirst : first.isEmpty = false := by
    cases first with
    | nil => exact absurd h Text.not_startsSeparated_nil
    | cons c t => rfl
  unfold merge
  rw [List.filter_cons_of_pos (by rw [hfirst]; rfl), List.map_cons, List.eraseDups_cons]
  have hjoin := join_startsSeparated ['|'] (forShell_startsSeparated shell forwardSlash h)
  split
  · exact startsSeparated_append (hjoin _)
  · exact hjoin _

end Fragment

end SkipPath
