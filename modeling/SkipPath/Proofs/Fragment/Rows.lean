import SkipPath.Proofs.Fragment.Parts

/-!
Two rows that are read side by side.

Each place of the two rows says how often a character is taken, and which characters the one row and the other
row take there (`Pair`).  A row takes no text that is shorter than the number of its places that take exactly
one character, and of the texts that are just as long it takes those with a character of the right kind for
each of these places (`found_iff_of_length`).  So the texts of that length tell all about these places: if the
two rows find the same ones, and find any, they take the same characters there (`agree_of_found`).
-/

namespace SkipPath.Fragment

/-! ## 1. Texts with other characters -/

theorem Times.holds_map (times : Times) (takes : CodePoint → Bool) (g : CodePoint → CodePoint) (u : Text) :
    times.Holds takes (u.map g) ↔ times.Holds (takes ∘ g) u := by
  cases times with
  | once =>
    simp only [Holds, List.map_eq_singleton_iff, Function.comp_apply]
    constructor
    · rintro ⟨c, hc, d, rfl, rfl⟩
      exact ⟨d, hc, rfl⟩
    · rintro ⟨d, hd, rfl⟩
      exact ⟨g d, hd, d, rfl, rfl⟩
  | anyNumber => simp [Holds]
  | atMostOnce => simp [Holds]

/-- A row takes a text with other characters if it takes the text when it looks at the other characters. -/
theorem rowTakes_map (g : CodePoint → CodePoint) {times : List Times} {takes : List (CodePoint → Bool)} {u : Text} :
    RowTakes times takes (u.map g) ↔ RowTakes times (takes.map (· ∘ g)) u := by
  induction times generalizing takes u with
  | nil => simp [RowTakes]
  | cons times rest ih =>
    cases takes with
    | nil => simp [RowTakes]
    | cons takes more =>
      simp only [List.map_cons, RowTakes]
      constructor
      · rintro ⟨v, w, hsplit, hv, hw⟩
        obtain ⟨v, w, rfl, rfl, rfl⟩ := List.map_eq_append_iff.mp hsplit
        exact ⟨v, w, rfl, (times.holds_map takes g v).mp hv, ih.mp hw⟩
      · rintro ⟨v, w, rfl, hv, hw⟩
        exact ⟨v.map g, w.map g, List.map_append, (times.holds_map takes g v).mpr hv, ih.mpr hw⟩

theorem found_map (g : CodePoint → CodePoint) {times : List Times} {takes : List (CodePoint → Bool)} {ends : Bool}
    {t : Text} : Found times takes ends (t.map g) ↔ Found times (takes.map (· ∘ g)) ends t := by
  constructor
  · rintro ⟨v, u, w, hsplit, hu, hend⟩
    obtain ⟨vu, w, rfl, hvu, rfl⟩ := List.map_eq_append_iff.mp hsplit
    obtain ⟨v, u, rfl, rfl, rfl⟩ := List.map_eq_append_iff.mp hvu
    exact ⟨v, u, w, rfl, rowTakes_map g |>.mp hu, fun h => List.map_eq_nil_iff.mp (hend h)⟩
  · rintro ⟨v, u, w, rfl, hu, hend⟩
    refine ⟨v.map g, u.map g, w.map g, by simp, (rowTakes_map g).mpr hu, fun h => ?_⟩
    rw [hend h]
    rfl

/-! ## 2. Places that take one character -/

/-- A place of two rows: how often it takes a character, and which ones in the one row and in the other. -/
structure Pair where
  times : Times
  first : CodePoint → Bool
  second : CodePoint → Bool

/-- The places that take exactly one character. -/
def required (row : List Pair) : List Pair := row.filter (·.times = .once)

section required

variable {row : List Pair} {takes : Pair → CodePoint → Bool} {ends : Bool} {u : Text}

/-- Among the characters of a text that a row takes there is one for each place that takes exactly one. -/
theorem exists_required (h : RowTakes (row.map (·.times)) (row.map takes) u) :
    ∃ cs, List.Forall₂ (fun p c => takes p c = true) (required row) cs ∧ cs.Sublist u := by
  induction row generalizing u with
  | nil => exact ⟨[], .nil, List.nil_sublist u⟩
  | cons p row ih =>
    obtain ⟨v, w, rfl, hv, hw⟩ := h
    obtain ⟨cs, hcs, hsub⟩ := ih hw
    by_cases honce : p.times = .once
    · have hrequired : required (p :: row) = p :: required row := by simp [required, honce]
      change p.times.Holds (takes p) v at hv
      rw [honce] at hv
      obtain ⟨c, hc, rfl⟩ := hv
      rw [hrequired]
      exact ⟨c :: cs, .cons hc hcs, hsub.cons_cons c⟩
    · have hrequired : required (p :: row) = required row := by simp [required, honce]
      rw [hrequired]
      exact ⟨cs, hcs, hsub.trans (List.sublist_append_right v w)⟩

/-- One character for each place that takes exactly one makes a text that the row takes. -/
theorem rowTakes_of_required (h : List.Forall₂ (fun p c => takes p c = true) (required row) u) :
    RowTakes (row.map (·.times)) (row.map takes) u := by
  induction row generalizing u with
  | nil =>
    cases h
    rfl
  | cons p row ih =>
    by_cases honce : p.times = .once
    · have hrequired : required (p :: row) = p :: required row := by simp [required, honce]
      rw [hrequired] at h
      cases h with
      | @cons _ c _ cs hc hcs =>
        refine ⟨[c], cs, rfl, ?_, ih hcs⟩
        show p.times.Holds (takes p) [c]
        rw [honce]
        exact ⟨c, hc, rfl⟩
    · have hrequired : required (p :: row) = required row := by simp [required, honce]
      rw [hrequired] at h
      refine ⟨[], u, rfl, ?_, ih h⟩
      show p.times.Holds (takes p) []
      cases htimes : p.times with
      | once => exact absurd htimes honce
      | anyNumber => simp [Times.Holds]
      | atMostOnce => simp [Times.Holds]

/-- What a row finds has a character for each place that takes exactly one. -/
theorem exists_required_of_found (h : Found (row.map (·.times)) (row.map takes) ends u) :
    ∃ cs, List.Forall₂ (fun p c => takes p c = true) (required row) cs ∧ cs.Sublist u := by
  obtain ⟨v, u', w, rfl, hu, -⟩ := h
  obtain ⟨cs, hcs, hsub⟩ := exists_required hu
  refine ⟨cs, hcs, hsub.trans ?_⟩
  exact (List.sublist_append_right v u').trans (List.sublist_append_left _ w)

/-- A text with as many characters as there are places that take exactly one is found by these places alone. -/
theorem found_iff_of_length (hlength : u.length = (required row).length) :
    Found (row.map (·.times)) (row.map takes) ends u ↔
      List.Forall₂ (fun p c => takes p c = true) (required row) u := by
  constructor
  · intro h
    obtain ⟨cs, hcs, hsub⟩ := exists_required_of_found h
    rwa [← hsub.eq_of_length (hcs.length_eq.symm.trans hlength.symm)]
  · intro h
    exact ⟨[], u, [], by simp, rowTakes_of_required h, fun _ => rfl⟩

end required

/-! ## 3. Places where two rows agree -/

variable {P : CodePoint → Prop}

/-- The two rows take the same characters of a kind at a place. -/
def Pair.Agrees (P : CodePoint → Prop) (p : Pair) : Prop := ∀ c, P c → (p.first c = true ↔ p.second c = true)

/-- Rows of places that take the same texts, and take any, take the same characters at each place. -/
theorem agree_of_same {row : List Pair} {cs : Text} (hcs : ∀ c ∈ cs, P c)
    (hfirst : List.Forall₂ (fun p c => p.first c = true) row cs)
    (hsecond : List.Forall₂ (fun p c => p.second c = true) row cs)
    (hsame : ∀ u, (∀ c ∈ u, P c) → (List.Forall₂ (fun p c => p.first c = true) row u ↔
      List.Forall₂ (fun p c => p.second c = true) row u)) :
    ∀ p ∈ row, p.Agrees P := by
  induction hfirst with
  | nil => simp
  | @cons p c row cs hc hrest ih =>
    obtain ⟨hP, hPs⟩ := List.forall_mem_cons.mp hcs
    obtain ⟨hc', hrest'⟩ := List.forall₂_cons.mp hsecond
    refine List.forall_mem_cons.mpr ⟨fun d hd => ?_, ih hPs hrest' fun u hu => ?_⟩
    · have h := hsame (d :: cs) (List.forall_mem_cons.mpr ⟨hd, hPs⟩)
      simpa [List.forall₂_cons, hrest, hrest'] using h
    · have h := hsame (c :: u) (List.forall_mem_cons.mpr ⟨hP, hu⟩)
      simpa [List.forall₂_cons, hc, hc'] using h

theorem Times.holds_congr (times : Times) {takes takes' : CodePoint → Bool} {u : Text}
    (h : ∀ c ∈ u, (takes c = true ↔ takes' c = true)) : times.Holds takes u ↔ times.Holds takes' u := by
  cases times with
  | once =>
    constructor
    · rintro ⟨c, hc, rfl⟩
      exact ⟨c, (h c List.mem_cons_self).mp hc, rfl⟩
    · rintro ⟨c, hc, rfl⟩
      exact ⟨c, (h c List.mem_cons_self).mpr hc, rfl⟩
  | anyNumber => exact forall₂_congr h
  | atMostOnce => exact and_congr_right fun _ => forall₂_congr h

theorem rowTakes_congr {row : List Pair} (h : ∀ p ∈ row, p.Agrees P) {u : Text} (hu : ∀ c ∈ u, P c) :
    RowTakes (row.map (·.times)) (row.map (·.first)) u ↔
      RowTakes (row.map (·.times)) (row.map (·.second)) u := by
  induction row generalizing u with
  | nil => exact Iff.rfl
  | cons p row ih =>
    obtain ⟨hp, hrow⟩ := List.forall_mem_cons.mp h
    have hsplit : ∀ v w, u = v ++ w → (p.times.Holds p.first v ↔ p.times.Holds p.second v) ∧
        (RowTakes (row.map (·.times)) (row.map (·.first)) w ↔
          RowTakes (row.map (·.times)) (row.map (·.second)) w) := by
      rintro v w rfl
      obtain ⟨hv, hw⟩ := List.forall_mem_append.mp hu
      exact ⟨p.times.holds_congr fun c hc => hp c (hv c hc), ih hrow hw⟩
    constructor
    · rintro ⟨v, w, he, hv, hw⟩
      exact ⟨v, w, he, (hsplit v w he).1.mp hv, (hsplit v w he).2.mp hw⟩
    · rintro ⟨v, w, he, hv, hw⟩
      exact ⟨v, w, he, (hsplit v w he).1.mpr hv, (hsplit v w he).2.mpr hw⟩

/-- Two rows that agree at each place find the same texts. -/
theorem found_congr {row : List Pair} (h : ∀ p ∈ row, p.Agrees P) {ends : Bool} {t : Text}
    (ht : ∀ c ∈ t, P c) :
    Found (row.map (·.times)) (row.map (·.first)) ends t ↔
      Found (row.map (·.times)) (row.map (·.second)) ends t := by
  have hinner : ∀ v u w, t = v ++ u ++ w → ∀ c ∈ u, P c := by
    rintro v u w rfl c hc
    exact ht c (List.mem_append_left w (List.mem_append_right v hc))
  constructor
  · rintro ⟨v, u, w, he, hu, hend⟩
    exact ⟨v, u, w, he, (rowTakes_congr h (hinner v u w he)).mp hu, hend⟩
  · rintro ⟨v, u, w, he, hu, hend⟩
    exact ⟨v, u, w, he, (rowTakes_congr h (hinner v u w he)).mpr hu, hend⟩

/-- Two rows that find the same texts of characters of a kind, and find any, take the same characters of that kind at
each place that takes exactly one. -/
theorem agree_of_found {row : List Pair} {ends : Bool}
    (hsame : ∀ t, (∀ c ∈ t, P c) → (Found (row.map (·.times)) (row.map (·.first)) ends t ↔
      Found (row.map (·.times)) (row.map (·.second)) ends t))
    {t : Text} (ht : ∀ c ∈ t, P c) (hfound : Found (row.map (·.times)) (row.map (·.first)) ends t) :
    ∀ p ∈ row, p.times = .once → p.Agrees P := by
  obtain ⟨cs, hcs, hsub⟩ := exists_required_of_found hfound
  have hclean : ∀ c ∈ cs, P c := fun c hc => ht c (hsub.subset hc)
  have hlength : ∀ u : Text, (List.Forall₂ (fun (p : Pair) c => p.first c = true) (required row) u ∨
      List.Forall₂ (fun (p : Pair) c => p.second c = true) (required row) u) →
      u.length = (required row).length := by
    rintro u (h | h) <;> exact h.length_eq.symm
  have hrequired : ∀ u, (∀ c ∈ u, P c) →
      (List.Forall₂ (fun p c => p.first c = true) (required row) u ↔
        List.Forall₂ (fun p c => p.second c = true) (required row) u) := by
    intro u hu
    by_cases hu' : u.length = (required row).length
    · rw [← found_iff_of_length hu', ← found_iff_of_length hu']
      exact hsame u hu
    · exact iff_of_false (fun h => hu' (hlength u (.inl h))) fun h => hu' (hlength u (.inr h))
  have hall := agree_of_same hclean hcs ((hrequired cs hclean).mp hcs) hrequired
  intro p hp honce
  exact hall p (List.mem_filter.mpr ⟨hp, by simpa using honce⟩)

end SkipPath.Fragment
