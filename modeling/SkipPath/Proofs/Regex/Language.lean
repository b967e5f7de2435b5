import SkipPath.Regex.Matcher
import Mathlib.Data.List.Forall2

/-!
What an expression matches, apart from how it is searched for.

`Node.run` lists the cursors at which a match may end, in the order of preference, and for a search the
order does not matter.  So a node is described by the texts that it matches, each in front of what follows
it (`Node.Spells`): one lemma for each kind of node says how its texts are made of those of its parts, and
a search succeeds exactly if one of the texts occurs in the right place (`search_iff`).  All of it is about
texts without line feeds, in which the end of a line is the end of the text.
-/

namespace SkipPath.Regex

/-! ## 1. Cursors -/

/-- A cursor is moved over a text that follows it. -/
structure Cursor.Reads (k : Cursor) (u : Text) (k' : Cursor) : Prop where
  after : k.after = u ++ k'.after
  before : k'.before = u.reverse ++ k.before
  captures : k'.captures = k.captures

namespace Cursor

theorem reads_nil {k k' : Cursor} : k.Reads [] k' ↔ k' = k := by
  constructor
  · rintro ⟨hafter, hbefore, hcaptures⟩
    cases k; cases k'
    simp_all
  · rintro rfl
    exact ⟨rfl, rfl, rfl⟩

theorem Reads.trans {k k' k'' : Cursor} {u v : Text} (h : k.Reads u k') (h' : k'.Reads v k'') :
    k.Reads (u ++ v) k'' where
  after := by rw [h.after, h'.after, List.append_assoc]
  before := by rw [h'.before, h.before, List.reverse_append, List.append_assoc]
  captures := h'.captures.trans h.captures

/-- A cursor can be moved over every text that follows it. -/
theorem reads_intro {k : Cursor} {u rest : Text} (h : k.after = u ++ rest) :
    k.Reads u { k with before := u.reverse ++ k.before, after := rest } := ⟨h, rfl, rfl⟩

theorem Reads.split {k k' : Cursor} {u v : Text} (h : k.Reads (u ++ v) k') :
    ∃ k₁, k.Reads u k₁ ∧ k₁.Reads v k' := by
  have hafter : k.after = u ++ (v ++ k'.after) := by rw [h.after, List.append_assoc]
  refine ⟨_, reads_intro hafter, rfl, ?_, h.captures⟩
  rw [h.before, List.reverse_append, List.append_assoc]

theorem Reads.length_lt {k k' : Cursor} {c : CodePoint} {u : Text} (h : k.Reads (c :: u) k') :
    k'.after.length < k.after.length := by
  rw [h.after]
  simp only [List.cons_append, List.length_cons, List.length_append]
  omega

theorem Reads.eq {k k' : Cursor} {u : Text} (h : k.Reads u k') :
    k' = { k with before := u.reverse ++ k.before, after := k'.after } := by
  rw [← h.before, ← h.captures]

theorem mem_next {p : CodePoint → Bool} {k k' : Cursor} :
    k' ∈ k.next p ↔ ∃ c, p c = true ∧ k.Reads [c] k' := by
  cases hk : k.after with
  | nil =>
    rw [show k.next p = [] by unfold next; rw [hk]]
    refine ⟨nofun, ?_⟩
    rintro ⟨c, -, h⟩
    cases hk.symm.trans h.after
  | cons c rest =>
    have hnext : k.next p =
        if p c then [{ k with before := c :: k.before, after := rest }] else [] := by
      unfold next
      rw [hk]
    rw [hnext]
    constructor
    · intro h
      split at h
      · next hp =>
        rw [List.mem_singleton.mp h]
        exact ⟨c, hp, reads_intro hk⟩
      · exact absurd h List.not_mem_nil
    · rintro ⟨d, hp, h⟩
      obtain ⟨rfl, hrest⟩ := List.cons.inj (hk.symm.trans h.after)
      rw [if_pos hp, List.mem_singleton, h.eq, hrest]
      rfl

end Cursor

/-! ## 2. Texts of nodes -/

/-- The texts that a node matches, each in front of what follows it. -/
def Node.Spells (f : Flags) (node : Node) (L : Text → Text → Prop) : Prop :=
  ∀ k k' : Cursor, .char '\n' ∉ k.after → (k' ∈ node.run f k ↔ ∃ u, k.Reads u k' ∧ L u k'.after)

/-- The languages of two nodes, one after the other. -/
def Then (A B : Text → Text → Prop) (u rest : Text) : Prop :=
  ∃ v w, u = v ++ w ∧ A v (w ++ rest) ∧ B w rest

/-- The languages of some nodes, one after the other. -/
def Chain : List (Text → Text → Prop) → Text → Text → Prop
  | [], u, _ => u = []
  | L :: Ls, u, rest => Then L (Chain Ls) u rest

theorem chain_append {Ls Ms : List (Text → Text → Prop)} {u rest : Text} :
    Chain (Ls ++ Ms) u rest ↔ Then (Chain Ls) (Chain Ms) u rest := by
  induction Ls generalizing u with
  | nil =>
    constructor
    · exact fun h => ⟨[], u, rfl, rfl, h⟩
    · rintro ⟨_, w, rfl, rfl, h⟩
      exact h
  | cons L Ls ih =>
    constructor
    · rintro ⟨v, w, rfl, hL, hrest⟩
      obtain ⟨x, y, rfl, hLs, hMs⟩ := ih.mp hrest
      refine ⟨v ++ x, y, (List.append_assoc v x y).symm, ⟨v, x, rfl, ?_, hLs⟩, hMs⟩
      rwa [List.append_assoc] at hL
    · rintro ⟨_, y, rfl, ⟨v, x, rfl, hL, hLs⟩, hMs⟩
      refine ⟨v, x ++ y, List.append_assoc v x y, ?_, ih.mpr ⟨x, y, rfl, hLs, hMs⟩⟩
      rwa [List.append_assoc]

/-- The characters that belong to the class of all but one. -/
theorem classHolds_allBut (c d : CodePoint) : classHolds {} true [.single c.toNat] d = true ↔ d ≠ c := by
  simp only [classHolds, spellings, ClassItem.holds, Bool.false_eq_true, if_false, List.any_cons,
    List.any_nil, Bool.or_false, Bool.bne_true, Bool.not_eq_true', decide_eq_false_iff_not,
    CodePoint.toNat_inj]

namespace Node

variable {f : Flags} {a b : Node} {A B : Text → Text → Prop}

theorem Spells.congr (h : a.Spells f A) (hsame : ∀ u rest, .char '\n' ∉ u ++ rest → (A u rest ↔ B u rest)) :
    a.Spells f B := by
  intro k k' hk
  rw [h k k' hk]
  refine exists_congr fun u => and_congr_right fun hreads => hsame u k'.after ?_
  rw [← hreads.after]
  exact hk

theorem spells_empty : Spells f .empty fun u _ => u = [] := by
  intro k k' _
  rw [Node.run, List.mem_singleton]
  constructor
  · rintro rfl
    exact ⟨[], Cursor.reads_nil.mpr rfl, rfl⟩
  · rintro ⟨u, h, rfl⟩
    exact Cursor.reads_nil.mp h

/-- A node that takes one character. -/
theorem spells_next {p : CodePoint → Bool} (h : ∀ k, a.run f k = k.next p) :
    a.Spells f fun u _ => ∃ c, p c = true ∧ u = [c] := by
  intro k k' _
  rw [h, Cursor.mem_next]
  constructor
  · rintro ⟨c, hp, hreads⟩
    exact ⟨[c], hreads, c, hp, rfl⟩
  · rintro ⟨_, hreads, c, hp, rfl⟩
    exact ⟨c, hp, hreads⟩

theorem spells_char (c : CodePoint) : Spells {} (.char c.toNat) fun u _ => u = [c] := by
  refine (spells_next fun k => rfl).congr fun u _ _ => ?_
  constructor
  · rintro ⟨d, hd, rfl⟩
    simp only [charHolds, spellings, Bool.false_eq_true, if_false, List.any_cons, List.any_nil,
      Bool.or_false, decide_eq_true_eq] at hd
    rw [CodePoint.toNat_inj.mp hd]
  · rintro rfl
    exact ⟨c, by simp [charHolds, spellings], rfl⟩

theorem spells_seq (ha : a.Spells f A) (hb : b.Spells f B) : (Node.seq a b).Spells f (Then A B) := by
  intro k k' hk
  rw [Node.run, List.mem_eraseDups, List.mem_flatMap]
  constructor
  · rintro ⟨k₁, h₁, h₂⟩
    obtain ⟨v, hv, hA⟩ := (ha k k₁ hk).mp h₁
    have hk₁ : .char '\n' ∉ k₁.after := fun hmem => hk (by rw [hv.after]; exact List.mem_append_right v hmem)
    obtain ⟨w, hw, hB⟩ := (hb k₁ k' hk₁).mp h₂
    refine ⟨v ++ w, hv.trans hw, v, w, rfl, ?_, hB⟩
    rw [← hw.after]
    exact hA
  · rintro ⟨_, hreads, v, w, rfl, hA, hB⟩
    obtain ⟨k₁, hv, hw⟩ := hreads.split
    have hk₁ : .char '\n' ∉ k₁.after := fun hmem => hk (by rw [hv.after]; exact List.mem_append_right v hmem)
    refine ⟨k₁, (ha k k₁ hk).mpr ⟨v, hv, ?_⟩, (hb k₁ k' hk₁).mpr ⟨w, hw, hB⟩⟩
    rw [hw.after]
    exact hA

/-- Nodes one after the other. -/
theorem spells_sequence {nodes : List Node} {Ls : List (Text → Text → Prop)}
    (h : List.Forall₂ (Spells f) nodes Ls) : (sequence nodes).Spells f (Chain Ls) := by
  induction h with
  | nil => exact spells_empty
  | @cons a L nodes Ls ha hrest ih =>
    cases hrest with
    | nil =>
      refine ha.congr fun u rest _ => ⟨fun hu => ⟨u, [], (List.append_nil u).symm, hu, rfl⟩, ?_⟩
      rintro ⟨v, _, rfl, hL, rfl⟩
      rw [List.append_nil]
      exact hL
    | cons _ _ => exact spells_seq ha ih

/-- The end of the text. -/
theorem spells_lineEnd : Spells {} (.anchor .lineEnd) fun u rest => u = [] ∧ rest = [] := by
  intro k k' hk
  have hend : Anchor.lineEnd.holds {} k = true ↔ k.after = [] := by
    simp only [Anchor.holds, Bool.false_and, Bool.or_false, Bool.or_eq_true, List.isEmpty_iff,
      decide_eq_true_eq]
    refine or_iff_left fun h => hk ?_
    rw [h]
    exact List.mem_singleton.mpr rfl
  rw [Node.run]
  constructor
  · intro h
    split at h
    · next hholds =>
      rw [List.mem_singleton.mp h]
      exact ⟨[], Cursor.reads_nil.mpr rfl, rfl, hend.mp hholds⟩
    · exact absurd h List.not_mem_nil
  · rintro ⟨u, hreads, rfl, hafter⟩
    rw [Cursor.reads_nil.mp hreads] at hafter ⊢
    rw [if_pos (hend.mpr hafter), List.mem_singleton]

/-! ## 3. Repetitions of one character -/

theorem mem_rounds_next {p : CodePoint → Bool} {limit : Nat} {k k' : Cursor} :
    k' ∈ rounds false (Cursor.next p) limit k ↔
      ∃ u, u.length ≤ limit ∧ (∀ c ∈ u, p c = true) ∧ k.Reads u k' := by
  induction limit generalizing k with
  | zero =>
    rw [rounds, List.mem_singleton, ← Cursor.reads_nil]
    constructor
    · exact fun h => ⟨[], Nat.le_refl _, fun _ hc => absurd hc List.not_mem_nil, h⟩
    · rintro ⟨u, hu, -, h⟩
      rwa [List.length_eq_zero_iff.mp (Nat.le_zero.mp hu)] at h
  | succ limit ih =>
    simp only [rounds, Bool.false_eq_true, if_false, List.mem_append, List.mem_flatMap,
      List.mem_eraseDups, List.mem_singleton]
    constructor
    · rintro (⟨k₁, hnext, hrest⟩ | rfl)
      · obtain ⟨c, hp, hc⟩ := Cursor.mem_next.mp hnext
        rw [if_pos hc.length_lt] at hrest
        obtain ⟨u, hu, hall, hreads⟩ := ih.mp hrest
        refine ⟨c :: u, Nat.succ_le_succ hu, ?_, hc.trans hreads⟩
        intro d hd
        rcases List.mem_cons.mp hd with rfl | hd
        · exact hp
        · exact hall d hd
      · exact ⟨[], Nat.zero_le _, fun _ hc => absurd hc List.not_mem_nil, Cursor.reads_nil.mpr rfl⟩
    · rintro ⟨u, hu, hall, hreads⟩
      cases u with
      | nil => exact .inr (Cursor.reads_nil.mp hreads)
      | cons c u =>
        obtain ⟨k₁, hc, hrest⟩ := Cursor.Reads.split (u := [c]) hreads
        refine .inl ⟨k₁, Cursor.mem_next.mpr ⟨c, hall c List.mem_cons_self, hc⟩, ?_⟩
        rw [if_pos hc.length_lt]
        exact ih.mpr ⟨u, Nat.le_of_succ_le_succ hu,
          fun d hd => hall d (List.mem_cons_of_mem c hd), hrest⟩

theorem run_greedy {p : CodePoint → Bool} (h : ∀ k, a.run f k = k.next p) (max : Option Nat) (k : Cursor) :
    (Node.repetition .greedy 0 max a).run f k =
      rounds false (Cursor.next p) (match max with
        | some high => min high (k.after.length + 1)
        | none => k.after.length + 1) k := by
  have hround : a.run f = Cursor.next p := funext h
  cases max with
  | none => simp [Node.run, times, hround]
  | some high => simp [Node.run, times, hround]

/-- Any number of characters of one kind. -/
theorem spells_star {p : CodePoint → Bool} (h : ∀ k, a.run f k = k.next p) :
    (Node.repetition .greedy 0 none a).Spells f fun u _ => ∀ c ∈ u, p c = true := by
  intro k k' _
  rw [run_greedy h, mem_rounds_next]
  constructor
  · rintro ⟨u, -, hall, hreads⟩
    exact ⟨u, hreads, hall⟩
  · rintro ⟨u, hreads, hall⟩
    refine ⟨u, ?_, hall, hreads⟩
    rw [hreads.after, List.length_append, Nat.add_assoc]
    exact Nat.le_add_right _ _

/-- Some characters of one kind, one at least. -/
theorem spells_plus {p : CodePoint → Bool} (h : ∀ k, a.run f k = k.next p) :
    (Node.repetition .greedy 1 none a).Spells f fun u _ => u ≠ [] ∧ ∀ c ∈ u, p c = true := by
  intro k k' hk
  have hround : a.run f = Cursor.next p := funext h
  have hrun : (Node.repetition .greedy 1 none a).run f k =
      (k.next p).eraseDups.flatMap ((Node.repetition .greedy 0 none a).run f) := by
    simp [Node.run, times, hround]
  rw [hrun, List.mem_flatMap]
  simp only [List.mem_eraseDups, Cursor.mem_next]
  constructor
  · rintro ⟨k₁, ⟨c, hc, hfirst⟩, hmore⟩
    have hk₁ : .char '\n' ∉ k₁.after := fun hmem => hk (by rw [hfirst.after]; exact List.mem_append_right _ hmem)
    obtain ⟨u, hreads, hall⟩ := (spells_star h k₁ k' hk₁).mp hmore
    exact ⟨c :: u, hfirst.trans hreads, List.cons_ne_nil _ _, List.forall_mem_cons.mpr ⟨hc, hall⟩⟩
  · rintro ⟨u, hreads, hne, hall⟩
    obtain ⟨c, u, rfl⟩ := List.exists_cons_of_ne_nil hne
    obtain ⟨hc, hall⟩ := List.forall_mem_cons.mp hall
    obtain ⟨k₁, hfirst, hmore⟩ := Cursor.Reads.split (u := [c]) hreads
    have hk₁ : .char '\n' ∉ k₁.after := fun hmem => hk (by rw [hfirst.after]; exact List.mem_append_right _ hmem)
    exact ⟨k₁, ⟨c, hc, hfirst⟩, (spells_star h k₁ k' hk₁).mpr ⟨u, hmore, hall⟩⟩

/-- At most one character of a kind. -/
theorem spells_option {p : CodePoint → Bool} (h : ∀ k, a.run f k = k.next p) :
    (Node.repetition .greedy 0 (some 1) a).Spells f
      fun u _ => u.length ≤ 1 ∧ ∀ c ∈ u, p c = true := by
  intro k k' _
  rw [run_greedy h, mem_rounds_next]
  constructor
  · rintro ⟨u, hu, hall, hreads⟩
    exact ⟨u, hreads, Nat.le_trans hu (Nat.min_le_left _ _), hall⟩
  · rintro ⟨u, hreads, hu, hall⟩
    refine ⟨u, Nat.le_min.mpr ⟨hu, ?_⟩, hall, hreads⟩
    rw [hreads.after, List.length_append, Nat.add_assoc]
    exact Nat.le_add_right _ _

end Node

/-! ## 4. Searches -/

/-- A match starts at a place exactly if the expression spells a text there. -/
theorem run_ne_nil {e : Expression} {L : Text → Text → Prop} (h : e.tree.Spells e.flags L)
    {before after : Text} (hafter : .char '\n' ∉ after) :
    e.tree.run e.flags { before := before, after := after } ≠ [] ↔
      ∃ u w, after = u ++ w ∧ L u w := by
  constructor
  · intro hne
    obtain ⟨k', hk'⟩ := List.exists_mem_of_ne_nil _ hne
    obtain ⟨u, hreads, hL⟩ := (h _ k' hafter).mp hk'
    exact ⟨u, k'.after, hreads.after, hL⟩
  · rintro ⟨u, w, hsplit, hL⟩
    exact List.ne_nil_of_mem ((h _ _ hafter).mpr ⟨u, Cursor.reads_intro hsplit, hL⟩)

/-- A search finds a text of the expression at the place or at a later one. -/
theorem searchFrom_iff {e : Expression} {L : Text → Text → Prop} (h : e.tree.Spells e.flags L)
    {before after : Text} (hafter : .char '\n' ∉ after) :
    e.searchFrom before after = true ↔ ∃ v u w, after = v ++ u ++ w ∧ L u w := by
  have hhere : ∀ {before after : Text}, .char '\n' ∉ after →
      ((!(e.tree.run e.flags { before := before, after := after }).isEmpty) = true ↔
        ∃ u w, after = u ++ w ∧ L u w) := by
    intro before after hafter
    rw [← run_ne_nil h hafter, Bool.not_eq_true', Bool.eq_false_iff, ne_eq, ne_eq, List.isEmpty_iff]
  induction after generalizing before with
  | nil =>
    rw [Expression.searchFrom, Bool.or_false, hhere hafter]
    constructor
    · rintro ⟨u, w, hsplit, hL⟩
      exact ⟨[], u, w, hsplit, hL⟩
    · rintro ⟨v, u, w, hsplit, hL⟩
      rw [List.append_assoc] at hsplit
      exact ⟨u, w, (List.append_eq_nil_iff.mp hsplit.symm).2.symm, hL⟩
  | cons c after ih =>
    have hrest : .char '\n' ∉ after := fun hmem => hafter (List.mem_cons_of_mem c hmem)
    have hlater := @ih (c :: before) hrest
    rw [Expression.searchFrom, Bool.or_eq_true, hhere hafter]
    refine (or_congr_right hlater).trans ?_
    constructor
    · rintro (⟨u, w, hsplit, hL⟩ | ⟨v, u, w, hsplit, hL⟩)
      · exact ⟨[], u, w, hsplit, hL⟩
      · exact ⟨c :: v, u, w, by rw [hsplit]; rfl, hL⟩
    · rintro ⟨v, u, w, hsplit, hL⟩
      cases v with
      | nil => exact .inl ⟨u, w, hsplit, hL⟩
      | cons d v =>
        obtain ⟨-, hsplit⟩ := List.cons.inj hsplit
        exact .inr ⟨v, u, w, hsplit, hL⟩

/-- A search succeeds exactly if the expression spells a text somewhere. -/
theorem search_iff {e : Expression} {L : Text → Text → Prop} (h : e.tree.Spells e.flags L) {t : Text}
    (ht : .char '\n' ∉ t) : e.search t = true ↔ ∃ v u w, t = v ++ u ++ w ∧ L u w :=
  searchFrom_iff h ht

end SkipPath.Regex
