import SkipPath.Proofs.Glob.Classes

/-!
The spellings of one letter in a class.

A class of nothing but spellings of one letter is written in a normal spelling, so that classes with the same
set are written alike.  Whether members are spellings of one letter is asked of their small form as a text
(`isOneLetter`), and there two letters are exceptions: a capital sigma at the end of a word has another small form
than elsewhere, and the small form of U+0130 takes two characters.  So the question is answered in the negative
for members that end in a capital sigma and for those with U+0130 (`isOneLetter_iff_recognized`), which are left
as they are.  Of all others with the same set just one is in the normal spelling, and it is none of the
exceptions (`not_normal_of_unrecognized`); hence the iff of `normalMembers_eq_iff`.
-/

namespace SkipPath

/-! ## 1. Small forms -/

namespace Text

/-- Where a run sends what it holds. -/
theorem CaseRun.lookup_image {runs : List CaseRun} {n m : Nat} (h : CaseRun.lookup runs n = some m) :
    ∃ run ∈ runs, run.holds n = true ∧ run.image n = m := by
  induction runs with
  | nil => cases h
  | cons run runs ih =>
    rw [CaseRun.lookup] at h
    split at h
    · cases h
    · split at h
      · next hholds => exact ⟨run, List.mem_cons_self, hholds, Option.some.inj h⟩
      · obtain ⟨other, hother, hfound⟩ := ih h
        exact ⟨other, List.mem_cons_of_mem run hother, hfound⟩

/-- A character with a small form other than itself has it by one of the runs. -/
theorem smallChar_cases (c : CodePoint) :
    smallChar c = c ∨ ∃ run ∈ smallRuns, run.first ≤ c.toNat ∧ c.toNat ≤ run.last ∧
      smallChar c = CodePoint.ofNat (run.target + (c.toNat - run.first)) := by
  unfold smallChar
  cases hlookup : CaseRun.lookup smallRuns c.toNat with
  | none => exact .inl rfl
  | some m =>
    obtain ⟨run, hrun, hholds, himage⟩ := CaseRun.lookup_image hlookup
    simp only [CaseRun.holds, Bool.and_eq_true, decide_eq_true_eq] at hholds
    refine .inr ⟨run, hrun, hholds.1.1, hholds.1.2, ?_⟩
    rw [← himage]
    rfl

/-- The number of the small form, if it is not the last resort of `CodePoint.ofNat`. -/
theorem eq_of_ofNat_eq {n : Nat} {c : CodePoint} (h : CodePoint.ofNat n = c) (hc : c ≠ CodePoint.ofNat 0) :
    n = c.toNat := by
  subst h
  by_cases hn : n < 0x110000
  · exact (CodePoint.toNat_ofNat hn).symm
  · exact absurd (CodePoint.ofNat_of_le (Nat.le_of_not_lt hn)) hc

/-- No run has the dotted letter among its small forms, and one has the small sigma. -/
theorem smallRuns_exceptions : ∀ run ∈ smallRuns,
    ¬ (run.target ≤ 0x130 ∧ 0x130 ≤ run.target + (run.last - run.first)) ∧
      (run.target ≤ 0x3C3 ∧ 0x3C3 ≤ run.target + (run.last - run.first) →
        run.first = 0x3A3 ∧ run.target = 0x3C3) := by
  decide +kernel

theorem eq_of_smallChar_dotted {c : CodePoint} (h : smallChar c = '\u0130') : c = '\u0130' := by
  rcases smallChar_cases c with hsame | ⟨run, hrun, hfirst, hlast, himage⟩
  · exact hsame.symm.trans h
  · have hnumber := eq_of_ofNat_eq (himage.symm.trans h) (by decide)
    refine absurd ⟨?_, ?_⟩ (smallRuns_exceptions run hrun).1
    · change _ = 0x130 at hnumber
      omega
    · change _ = 0x130 at hnumber
      omega

/-- The letters with the small sigma as their small form. -/
theorem eq_sigma_of_smallChar {c : CodePoint} (h : smallChar c = 'σ') : c = 'Σ' ∨ c = 'σ' := by
  rcases smallChar_cases c with hsame | ⟨run, hrun, hfirst, hlast, himage⟩
  · exact .inr (hsame.symm.trans h)
  · have hnumber := eq_of_ofNat_eq (himage.symm.trans h) (by decide)
    change _ = 0x3C3 at hnumber
    obtain ⟨hstart, htarget⟩ := (smallRuns_exceptions run hrun).2 ⟨by omega, by omega⟩
    refine .inl (CodePoint.toNat_inj.mp ?_)
    change c.toNat = 0x3A3
    omega

/-- Away from the exceptions a small form is taken character by character. -/
theorem smallFrom_eq_map {t : Text} (hsigma : .char 'Σ' ∉ t) (hdotted : .char '\u0130' ∉ t) (before : Text) :
    smallFrom before t = t.map smallChar := by
  induction t generalizing before with
  | nil => rfl
  | cons c t ih =>
    rw [List.mem_cons, not_or] at hsigma hdotted
    rw [smallFrom, if_neg (Ne.symm hsigma.1), if_neg (Ne.symm hdotted.1), ih hsigma.2 hdotted.2]
    rfl

section sigmas

/-- Nothing but sigmas that are not final. -/
def Sigmas (t : Text) : Prop := ∀ c ∈ t, c = 'Σ' ∨ c = 'σ'

variable {c : CodePoint} {t before : Text}

theorem nextIsCased_of_sigmas (h : Sigmas t) : nextIsCased t = !t.isEmpty := by
  cases t with
  | nil => rfl
  | cons c t =>
    have hseen : isCaseIgnored c = false ∧ isCased c = true := by
      rcases h c List.mem_cons_self with rfl | rfl <;> exact ⟨rfl, rfl⟩
    simp [nextIsCased, hseen.1, hseen.2]

/-- The small form of a sigma: it is the final one for a capital at the end of a word. -/
theorem smallFrom_sigma (h : Sigmas (c :: t)) (hbefore : Sigmas before) :
    smallFrom before (c :: t) =
      (if c = .char 'Σ' ∧ before ≠ [] ∧ t = [] then .char 'ς' else .char 'σ') :: smallFrom (c :: before) t := by
  have hnext := nextIsCased_of_sigmas (List.forall_mem_cons.mp h).2
  rw [smallFrom, nextIsCased_of_sigmas hbefore, hnext]
  rcases h c List.mem_cons_self with rfl | rfl
  · by_cases hempty : before = [] <;> by_cases hrest : t = [] <;> simp [hempty, hrest]
  · have hsmall : smallChar 'σ' = 'σ' := rfl
    simp [hsmall]

theorem Sigmas.cons (hbefore : Sigmas before) (hc : c = 'Σ' ∨ c = 'σ') : Sigmas (c :: before) :=
  List.forall_mem_cons.mpr ⟨hc, hbefore⟩

/-- Without a capital at the end all of them become the same small sigma. -/
theorem smallFrom_sigmas (h : Sigmas t) (hlast : t.getLast? ≠ some (.char 'Σ')) (hbefore : Sigmas before) :
    ∀ d ∈ smallFrom before t, d = 'σ' := by
  induction t generalizing before with
  | nil => simp [smallFrom]
  | cons c t ih =>
    obtain ⟨hc, ht⟩ := List.forall_mem_cons.mp h
    rw [smallFrom_sigma h hbefore]
    refine List.forall_mem_cons.mpr ⟨if_neg ?_, ?_⟩
    · rintro ⟨rfl, -, rfl⟩
      exact hlast rfl
    · cases t with
      | nil => simp [smallFrom]
      | cons d t =>
        rw [List.getLast?_cons_cons] at hlast
        exact ih ht hlast (hbefore.cons hc)

/-- A capital at the end of a word becomes the final one. -/
theorem final_mem_smallFrom (h : Sigmas t) (hlast : t.getLast? = some (.char 'Σ')) (hbefore : Sigmas before)
    (hne : before ≠ []) : .char 'ς' ∈ smallFrom before t := by
  induction t generalizing before with
  | nil => cases hlast
  | cons c t ih =>
    obtain ⟨hc, ht⟩ := List.forall_mem_cons.mp h
    rw [smallFrom_sigma h hbefore]
    cases t with
    | nil =>
      cases hlast
      rw [if_pos ⟨rfl, hne, rfl⟩]
      exact List.mem_cons_self
    | cons d t =>
      rw [List.getLast?_cons_cons] at hlast
      exact List.mem_cons_of_mem _ (ih ht hlast (hbefore.cons hc) (List.cons_ne_nil _ _))

end sigmas

end Text

namespace Glob

open Text

/-! ## 2. Which members are taken for one letter -/

/-- Members that are spellings of one letter: letters with the same small form. -/
structure Alike (members : Text) : Prop where
  letters : ∀ c ∈ members, isLetter c = true
  small : ∀ c ∈ members, ∀ d ∈ members, smallChar c = smallChar d

/-- Two letters with the same small form are spellings of one letter, in any order and however often. -/
theorem alike_of_pair {c d : CodePoint} (hc : isLetter c = true) (hd : isLetter d = true)
    (hsmall : smallChar c = smallChar d) {members : Text} (hmembers : ∀ e ∈ members, e = c ∨ e = d) :
    Alike members where
  letters e he := by
    rcases hmembers e he with rfl | rfl
    · exact hc
    · exact hd
  small := by
    have hone : ∀ e ∈ members, smallChar e = smallChar d := fun e he => by
      rcases hmembers e he with rfl | rfl
      · exact hsmall
      · rfl
    exact fun e he e' he' => (hone e he).trans (hone e' he').symm

/-- Members that are no exception: a single one, or none of them is U+0130 and the last one is no capital sigma. -/
def Recognized (members : Text) : Prop :=
  members.length ≤ 1 ∨ .char '\u0130' ∉ members ∧ members.getLast? ≠ some (.char 'Σ')

instance (members : Text) : Decidable (Recognized members) :=
  inferInstanceAs (Decidable (_ ∨ _ ∧ _))

theorem eraseDups_of_forall_eq {t : Text} {c : CodePoint} (hne : t ≠ []) (h : ∀ d ∈ t, d = c) : t.eraseDups = [c] := by
  obtain ⟨d, t, rfl⟩ := List.exists_cons_of_ne_nil hne
  obtain ⟨rfl, ht⟩ := List.forall_mem_cons.mp h
  have hnone : t.filter (fun e => !e == d) = [] :=
    List.filter_eq_nil_iff.mpr fun e he => by simp [ht e he]
  rw [List.eraseDups_cons, hnone, List.eraseDups_nil]

/-- Two different characters are still two without duplicates. -/
theorem eraseDups_length_ne_one {t : Text} {c d : CodePoint} (hc : c ∈ t) (hd : d ∈ t) (hne : c ≠ d) :
    t.eraseDups.length ≠ 1 := by
  intro hlength
  obtain ⟨e, he⟩ := List.length_eq_one_iff.mp hlength
  have hall : ∀ x ∈ t, x = e := fun x hx => List.mem_singleton.mp (he ▸ List.mem_eraseDups.mpr hx)
  exact hne ((hall c hc).trans (hall d hd).symm)

theorem lowercase_ne_nil {t : Text} (h : t ≠ []) : lowercase t ≠ [] := by
  obtain ⟨c, t, rfl⟩ := List.exists_cons_of_ne_nil h
  rw [lowercase, smallFrom]
  split
  · split <;> exact List.cons_ne_nil _ _
  · split <;> exact List.cons_ne_nil _ _

section alike

variable {members : Text} (h : Alike members)
include h

theorem Alike.dotted (hdotted : .char '\u0130' ∈ members) : ∀ c ∈ members, c = .char '\u0130' := by
  intro c hc
  refine eq_of_smallChar_dotted ((h.small c hc _ hdotted).trans ?_)
  rfl

theorem Alike.sigmas (hsigma : .char 'Σ' ∈ members) : Sigmas members := by
  intro c hc
  refine eq_sigma_of_smallChar ((h.small c hc _ hsigma).trans ?_)
  decide +kernel

/-- The small form of spellings of one letter is one letter over and over, but for the exceptions. -/
theorem lowercase_eraseDups_iff (hmany : 1 < members.length) :
    (lowercase members).eraseDups.length = 1 ↔ Recognized members := by
  have hne : members ≠ [] := List.ne_nil_of_length_pos (by omega)
  have hrecognized : Recognized members ↔ .char '\u0130' ∉ members ∧ members.getLast? ≠ some (.char 'Σ') :=
    or_iff_right (by omega)
  have hone : ∀ c, (∀ d ∈ lowercase members, d = c) → (lowercase members).eraseDups.length = 1 := by
    intro c hall
    rw [eraseDups_of_forall_eq (lowercase_ne_nil hne) hall]
    rfl
  rw [hrecognized]
  by_cases hdotted : .char '\u0130' ∈ members
  · refine iff_of_false ?_ fun hneither => hneither.1 hdotted
    obtain ⟨c, rest, rfl⟩ := List.exists_cons_of_ne_nil hne
    obtain rfl := h.dotted hdotted c List.mem_cons_self
    have hsmall : lowercase (.char '\u0130' :: rest) =
        .char 'i' :: .char '\u0307' :: smallFrom [.char '\u0130'] rest := by
      rw [lowercase, smallFrom, if_neg (by decide), if_pos rfl]
      rfl
    rw [hsmall]
    exact eraseDups_length_ne_one List.mem_cons_self (List.mem_cons_of_mem _ List.mem_cons_self) (by decide)
  by_cases hsigma : .char 'Σ' ∈ members
  · have hsigmas := h.sigmas hsigma
    by_cases hlast : members.getLast? = some (.char 'Σ')
    · refine iff_of_false ?_ fun hneither => hneither.2 hlast
      obtain ⟨c, rest, rfl⟩ := List.exists_cons_of_ne_nil hne
      have hrest : rest ≠ [] := by
        rintro rfl
        exact absurd hmany (Nat.lt_irrefl 1)
      obtain ⟨hc, hsigmasRest⟩ := List.forall_mem_cons.mp hsigmas
      have hlastRest : rest.getLast? = some (.char 'Σ') := by
        obtain ⟨d, rest, rfl⟩ := List.exists_cons_of_ne_nil hrest
        rwa [List.getLast?_cons_cons] at hlast
      rw [lowercase, smallFrom_sigma hsigmas (by simp [Sigmas]), if_neg fun hfinal => hrest hfinal.2.2]
      have hfinal : .char 'ς' ∈ smallFrom [c] rest :=
        final_mem_smallFrom hsigmasRest hlastRest (List.forall_mem_singleton.mpr hc) (List.cons_ne_nil _ _)
      exact eraseDups_length_ne_one List.mem_cons_self (List.mem_cons_of_mem _ hfinal) (by decide)
    · exact iff_of_true (hone 'σ' (smallFrom_sigmas hsigmas hlast (by simp [Sigmas]))) ⟨hdotted, hlast⟩
  · have hlast : members.getLast? ≠ some (.char 'Σ') := fun hlast => hsigma (List.mem_of_getLast? hlast)
    obtain ⟨c, hc⟩ := List.exists_mem_of_ne_nil members hne
    refine iff_of_true (hone (smallChar c) fun d hd => ?_) ⟨hdotted, hlast⟩
    rw [lowercase, smallFrom_eq_map hsigma hdotted] at hd
    obtain ⟨e, he, rfl⟩ := List.mem_map.mp hd
    exact h.small e he c hc

/-- Spellings of one letter are taken for that exactly if there are several and they are no exception. -/
theorem isOneLetter_iff_recognized (hmany : 1 < members.length) :
    isOneLetter members = true ↔ Recognized members := by
  have hletters : members.all isLetter = true := List.all_eq_true.mpr h.letters
  rw [isOneLetter, hletters, decide_eq_true hmany, Bool.and_self, Bool.true_and, beq_iff_eq]
  exact lowercase_eraseDups_iff h hmany

end alike

/-! ## 3. The normal spelling -/

theorem spellingLe_trans (a b c : CodePoint) (hab : spellingLe a b = true) (hbc : spellingLe b c = true) :
    spellingLe a c = true := by
  unfold spellingLe at hab hbc ⊢
  cases ha : isSmall a <;> cases hb : isSmall b <;> cases hc : isSmall c <;>
    simp only [ha, hb, hc, if_true, Bool.false_eq_true, Bool.true_eq_false, if_false, Bool.not_true,
      Bool.not_false, decide_eq_true_eq] at hab hbc ⊢
  · exact CodePoint.le_trans hab hbc
  · exact CodePoint.le_trans hab hbc

theorem spellingLe_total (a b : CodePoint) : (spellingLe a b || spellingLe b a) = true := by
  unfold spellingLe
  cases ha : isSmall a <;> cases hb : isSmall b <;> simp [CodePoint.le_total]

theorem spellingLe_antisymm {a b : CodePoint} (hab : spellingLe a b = true) (hba : spellingLe b a = true) : a = b := by
  unfold spellingLe at hab hba
  cases ha : isSmall a <;> cases hb : isSmall b <;>
    simp only [ha, hb, if_true, Bool.false_eq_true, Bool.true_eq_false, if_false, Bool.not_true,
      Bool.not_false, decide_eq_true_eq] at hab hba
  · exact CodePoint.le_antisymm hab hba
  · exact CodePoint.le_antisymm hab hba

theorem nodup_eraseDups (t : Text) : t.eraseDups.Nodup := by
  match t with
  | [] => exact List.nodup_nil
  | c :: t =>
    rw [List.eraseDups_cons, List.nodup_cons]
    refine ⟨fun hmem => ?_, nodup_eraseDups (t.filter fun d => !d == c)⟩
    simpa using List.mem_eraseDups.mp hmem
termination_by t.length
decreasing_by exact Nat.lt_succ_of_le (List.length_filter_le _ _)

/-- The characters of a text, each once and in the order of spellings. -/
def ordered (t : Text) : Text := t.eraseDups.mergeSort spellingLe

theorem mem_ordered {t : Text} {c : CodePoint} : c ∈ ordered t ↔ c ∈ t := by
  rw [ordered, List.mem_mergeSort, List.mem_eraseDups]

theorem nodup_ordered (t : Text) : (ordered t).Nodup :=
  (List.mergeSort_perm _ _).nodup_iff.mpr (nodup_eraseDups t)

theorem pairwise_ordered (t : Text) : (ordered t).Pairwise fun a b => spellingLe a b = true :=
  List.pairwise_mergeSort spellingLe_trans spellingLe_total _

/-- The order leaves no choice. -/
theorem ordered_congr {t u : Text} (h : ∀ c, c ∈ t ↔ c ∈ u) : ordered t = ordered u := by
  refine List.Perm.eq_of_pairwise (fun _ _ _ _ => spellingLe_antisymm) (pairwise_ordered t)
    (pairwise_ordered u) ?_
  refine (List.perm_ext_iff_of_nodup (nodup_ordered t) (nodup_ordered u)).mpr fun c => ?_
  rw [mem_ordered, mem_ordered, h]

theorem normalMembers_of_recognized {members : Text} (h : Alike members) (hrecognized : Recognized members) :
    normalMembers members = ordered members := by
  rcases Nat.lt_or_ge 1 members.length with hmany | hfew
  · rw [normalMembers, if_pos ((isOneLetter_iff_recognized h hmany).mpr hrecognized), ordered]
  · have hnot : ¬ isOneLetter members = true := by
      simp [isOneLetter, Nat.not_lt.mpr hfew]
    rw [normalMembers, if_neg hnot]
    rcases Nat.le_one_iff_eq_zero_or_eq_one.mp hfew with hempty | hsingle
    · rw [List.eq_nil_of_length_eq_zero hempty, ordered, List.eraseDups_nil, List.mergeSort_nil]
    · obtain ⟨c, rfl⟩ := List.length_eq_one_iff.mp hsingle
      have hone : [c].eraseDups = [c] := eraseDups_of_forall_eq (List.cons_ne_nil _ _) (by simp)
      rw [ordered, hone, List.mergeSort_singleton]

theorem normalMembers_of_unrecognized {members : Text} (h : Alike members) (hnot : ¬ Recognized members) :
    normalMembers members = members := by
  have hmany : 1 < members.length := Nat.lt_of_not_le fun hfew => hnot (.inl hfew)
  exact if_neg fun hone => hnot ((isOneLetter_iff_recognized h hmany).mp hone)

/-- An exception is never in the normal spelling itself. -/
theorem not_normal_of_unrecognized {members : Text} (h : Alike members) (hnot : ¬ Recognized members) (t : Text) :
    members ≠ ordered t := by
  intro heq
  have hnodup : members.Nodup := heq ▸ nodup_ordered t
  have hsorted : members.Pairwise fun a b => spellingLe a b = true := heq ▸ pairwise_ordered t
  rw [Recognized, not_or, not_and_or, not_not, not_ne_iff] at hnot
  obtain ⟨hmany, hdotted | hlast⟩ := hnot
  · have hall := h.dotted hdotted
    match members, hmany with
    | [], hmany => exact hmany (Nat.zero_le 1)
    | [c], hmany => exact hmany (Nat.le_refl 1)
    | c :: d :: rest, _ =>
      refine (List.nodup_cons.mp hnodup).1 ?_
      rw [hall c List.mem_cons_self, ← hall d (List.mem_cons_of_mem c List.mem_cons_self)]
      exact List.mem_cons_self
  · -- the capital would stand behind the small letter
    obtain ⟨before, rfl⟩ := List.getLast?_eq_some_iff.mp hlast
    have hbefore : before ≠ [] := by
      rintro rfl
      exact hmany (Nat.le_refl 1)
    obtain ⟨c, hc⟩ := List.exists_mem_of_ne_nil before hbefore
    have hne : c ≠ 'Σ' := (List.nodup_append.mp hnodup).2.2 c hc 'Σ' List.mem_cons_self
    have hsigma := (h.sigmas (List.mem_of_getLast? hlast) c (List.mem_append_left _ hc)).resolve_left hne
    have hle := (List.pairwise_append.mp hsorted).2.2 c hc 'Σ' List.mem_cons_self
    rw [hsigma] at hle
    exact absurd hle (by decide)

/-- Of members with the same set, the normal spellings are the same if none of them is an exception. -/
theorem normalMembers_eq_iff {members members' : Text} (h : Alike members) (h' : Alike members')
    (hsame : ∀ c, c ∈ members ↔ c ∈ members') :
    normalMembers members = normalMembers members' ↔
      members = members' ∨ Recognized members ∧ Recognized members' := by
  by_cases hrecognized : Recognized members <;> by_cases hrecognized' : Recognized members'
  · rw [normalMembers_of_recognized h hrecognized, normalMembers_of_recognized h' hrecognized']
    exact iff_of_true (ordered_congr hsame) (.inr ⟨hrecognized, hrecognized'⟩)
  · rw [normalMembers_of_recognized h hrecognized, normalMembers_of_unrecognized h' hrecognized']
    refine iff_of_false (Ne.symm (not_normal_of_unrecognized h' hrecognized' members)) ?_
    rintro (rfl | hboth)
    · exact hrecognized' hrecognized
    · exact hrecognized' hboth.2
  · rw [normalMembers_of_unrecognized h hrecognized, normalMembers_of_recognized h' hrecognized']
    refine iff_of_false (not_normal_of_unrecognized h hrecognized members') ?_
    rintro (rfl | hboth)
    · exact hrecognized hrecognized'
    · exact hrecognized hboth.1
  · rw [normalMembers_of_unrecognized h hrecognized, normalMembers_of_unrecognized h' hrecognized']
    simp [hrecognized]

/-- Letters are written as themselves. -/
theorem convertMembers_letters {t : Text} (h : ∀ c ∈ t, isLetter c = true) : convertMembers t = t := by
  induction t with
  | nil => rw [convertMembers]
  | cons c t ih =>
    obtain ⟨hc, ht⟩ := List.forall_mem_cons.mp h
    have hplain : c ∉ [.char '\\', .char '[', .char '.', .char ']'] := fun hmem =>
      letter_plain hc (List.mem_append_left [CodePoint.char '^'] hmem)
    rw [convertMembers_plain hplain, ih ht]

/-- The classes of spellings of one letter that have the same set and are both negated or both not are written
alike exactly if they are the same or none of them is an exception. -/
theorem convertClass_eq_iff {body body' : Text} (hnegated : (splitNegation body).1 = (splitNegation body').1)
    (h : Alike (splitNegation body).2) (h' : Alike (splitNegation body').2)
    (hsame : ∀ c, c ∈ (splitNegation body).2 ↔ c ∈ (splitNegation body').2) :
    convertClass body = convertClass body' ↔
      (splitNegation body).2 = (splitNegation body').2 ∨
        Recognized (splitNegation body).2 ∧ Recognized (splitNegation body').2 := by
  have hwritten : ∀ members, Alike members → convertMembers (normalMembers members) = normalMembers members :=
    fun members halike => convertMembers_letters fun c hc => halike.letters c (mem_normalMembers.mp hc)
  rw [← normalMembers_eq_iff h h' hsame, convertClass, convertClass]
  simp only [hnegated, hwritten _ h, hwritten _ h', List.cons_append, List.cons.injEq, true_and,
    List.append_cancel_left_eq, List.append_cancel_right_eq]

end Glob

end SkipPath
