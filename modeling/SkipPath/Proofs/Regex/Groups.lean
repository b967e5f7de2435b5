import SkipPath.Proofs.Regex.Alternation
import SkipPath.Proofs.Regex.Brackets

/-!
Reading groups.

A group that is opened and closed again is one item of the group around it, so that nothing before it changes.
For a group without a name that is said by the item it becomes (`readAsAtom_group`).  What a named group becomes
depends on the groups before it, and it may be refused, since its name may have been taken; of such tokens it is
enough that they add items to what has been read (`Adds`), if they are part of an expression at all.  With such
tokens behind it, the beginning of an expression stays its beginning (`tree_of_adds`), so that each match of the
expression begins as the first nodes say (`mem_run_sequence`).
-/

namespace SkipPath.Regex

/-! ## 1. Tokens that add items -/

/-- A state goes on from another one with more items in the group that is open. -/
structure State.Extends (s s' : State) : Prop where
  flags : s'.flags = s.flags
  parents : s'.parents = s.parents
  frame : ∃ items, s'.frame = { s.frame with items := items ++ s.frame.items }

namespace State.Extends

variable {s s' s'' : State}

theorem refl (s : State) : s.Extends s := ⟨rfl, rfl, [], rfl⟩

theorem trans (h : s.Extends s') (h' : s'.Extends s'') : s.Extends s'' := by
  obtain ⟨items, hframe⟩ := h.frame
  obtain ⟨more, hmore⟩ := h'.frame
  exact ⟨h'.flags.trans h.flags, h'.parents.trans h.parents, more ++ items, by simp [hmore, hframe]⟩

theorem verbose (h : s.Extends s') : s'.frame.verbose = s.frame.verbose := by
  obtain ⟨items, hframe⟩ := h.frame
  rw [hframe]

theorem pushAll (s : State) (items : List Item) : s.Extends (s.pushAll items) := by
  rw [State.pushAll_items]
  exact ⟨rfl, rfl, items.reverse, rfl⟩

end State.Extends

/-- Tokens only add items to the group that they stand in, if they are part of an expression. -/
def Adds (ts : List Token) : Prop :=
  ∀ (s : State) (rest : List Token) (e : Expression), s.frame.verbose = false → ¬ SaysGreed rest →
    readTokens s (ts ++ rest) = .ok e → ∃ s', s.Extends s' ∧ readTokens s' rest = .ok e

section adds

variable {ts ts' : List Token}

theorem Adds.nil : Adds [] := fun s _ _ _ _ h => ⟨s, .refl s, h⟩

theorem ReadAs.adds {items : List Item} (h : ReadAs ts items) : Adds ts := by
  intro s rest e hs hrest hread
  rw [h s rest hs hrest] at hread
  exact ⟨_, .pushAll s items, hread⟩

/-- Tokens that are refused wherever they stand are part of no expression. -/
theorem Fails.adds (h : Fails ts) : Adds ts := by
  intro s rest e hs _ hread
  obtain ⟨trouble, he⟩ := h s rest hs
  cases he.symm.trans hread

theorem Adds.append (h : Adds ts) (h' : Adds ts') (hstart : ∀ rest, ¬ SaysGreed rest → ¬ SaysGreed (ts' ++ rest)) :
    Adds (ts ++ ts') := by
  intro s rest e hs hrest hread
  rw [List.append_assoc] at hread
  obtain ⟨s', hextends, hread⟩ := h s _ e hs (hstart rest hrest) hread
  obtain ⟨s'', hextends', hread⟩ := h' s' rest e (hextends.verbose.trans hs) hrest hread
  exact ⟨s'', hextends.trans hextends', hread⟩

end adds

theorem finish_eq_ok {s : State} {e : Expression} (h : finish s = .ok e) :
    s.parents = [] ∧ e = { flags := s.flags, tree := s.frame.body } := by
  unfold finish at h
  split_ifs at h with hopen
  split at h
  · cases h
  · simp only at h
    split at h
    · cases h
    · exact ⟨by simpa using hopen, (Except.ok.inj h).symm⟩

/-- An expression whose last tokens only add items starts with the items before these. -/
theorem tree_of_adds {ts : List Token} (h : Adds ts) {items : List Item} {e : Expression}
    (hread : readTokens (State.pushAll {} items) ts = .ok e) :
    e.flags = {} ∧ ∃ more, e.tree = .sequence (items.map (·.node) ++ more) := by
  rw [← List.append_nil ts] at hread
  obtain ⟨s, hextends, hread⟩ := h _ [] e (State.pushAll_verbose {} items) (by simp [SaysGreed]) hread
  rw [readTokens] at hread
  obtain ⟨-, rfl⟩ := finish_eq_ok hread
  obtain ⟨more, hframe⟩ := hextends.frame
  rw [State.pushAll_items] at hframe hextends
  refine ⟨hextends.flags, more.reverse.map (·.node), ?_⟩
  rw [hframe]
  simp [Frame.body, Frame.branch, Node.choice]

/-! ## 2. Groups -/

/-- The tokens of a group that is not captured. -/
def grouped (ts : List Token) : List Token := .plain '(' :: .plain '?' :: .plain ':' :: (ts ++ [.plain ')'])

/-- The tokens of a group with a name. -/
def named (name : Text) (ts : List Token) : List Token :=
  .plain '(' :: .plain '?' :: .plain 'P' :: .plain '<' :: (name.map .plain ++ .plain '>' :: (ts ++ [.plain ')']))

/-- What follows a group does not say how a repetition in it chooses. -/
theorem not_saysGreed_close (rest : List Token) : ¬ SaysGreed (.plain ')' :: rest) := by simp [SaysGreed]

section group

variable {s : State} {ts : List Token} {e : Expression}

theorem readTokens_grouped (hs : s.frame.verbose = false) (ts rest : List Token) :
    readTokens s (grouped ts ++ rest) =
      readTokens (s.enter .plain false 3 (ts ++ .plain ')' :: rest)) (ts ++ .plain ')' :: rest) := by
  have hstep : step s (.plain '(') (.plain '?' :: .plain ':' :: (ts ++ .plain ')' :: rest)) =
      .ok (s.enter .plain s.frame.verbose 3 (ts ++ .plain ')' :: rest), 2) := by
    unfold step
    simp only [hs, Bool.false_and, Bool.false_eq_true, if_false, stepOpen]
  have hread := readTokens_cons hstep
  rw [hs] at hread
  simpa [grouped] using hread

/-- The end of a group makes an item of it in the group around. -/
theorem readTokens_close {parent : Frame} {parents : List Frame} (hparents : s.parents = parent :: parents)
    (hs : s.frame.verbose = false) (hopener : s.frame.opener = .plain ∨ ∃ index, s.frame.opener = .capture index)
    (rest : List Token) : ∃ (s' : State) (node : Node), s'.flags = s.flags ∧ s'.parents = parents ∧
      s'.frame = parent ∧ readTokens s (.plain ')' :: rest) = readTokens (s'.push node) rest := by
  rcases hopener with hopener | ⟨index, hopener⟩
  · refine ⟨{ s with frame := parent, parents := parents }, s.frame.body, rfl, rfl, rfl, readTokens_cons (n := 0) ?_⟩
    unfold step
    simp only [hs, Bool.false_and, Bool.false_eq_true, if_false, stepClose, hparents, hopener]
  · refine ⟨{ s with
        frame := parent, parents := parents
        widths := s.widths.set index (some (s.frame.body.width s.widths)) },
      .group index s.frame.body, rfl, rfl, rfl, readTokens_cons (n := 0) ?_⟩
    unfold step
    simp only [hs, Bool.false_and, Bool.false_eq_true, if_false, stepClose, hparents, hopener]

/-- A group of items without alternatives can be repeated as a whole. -/
theorem readAsAtom_group {items : List Item} (h : ReadAs ts items) : ReadAsAtom (grouped ts) (nodeOf items) := by
  intro s rest hs
  rw [readTokens_grouped hs, h _ _ rfl (not_saysGreed_close rest)]
  refine readTokens_cons (n := 0) ?_
  rw [State.pushAll_items]
  unfold step
  simp [stepClose, State.enter, Frame.body, Frame.branch, Node.choice, nodeOf, State.push]

/-- With the end of a group that was opened behind a state, the group is one more item behind it. -/
theorem extends_of_close {inner : State} (hflags : inner.flags = s.flags)
    (hparents : inner.parents = s.frame :: s.parents)
    (hverbose : inner.frame.verbose = false)
    (hopener : inner.frame.opener = .plain ∨ ∃ index, inner.frame.opener = .capture index) {rest : List Token}
    (hread : readTokens inner (.plain ')' :: rest) = .ok e) :
    ∃ s', s.Extends s' ∧ readTokens s' rest = .ok e := by
  obtain ⟨s', node, hflags', hparents', hframe', hclose⟩ := readTokens_close hparents hverbose hopener rest
  rw [hclose] at hread
  refine ⟨s'.push node, ⟨hflags'.trans hflags, hparents', [{ node := node }], ?_⟩, hread⟩
  simp [State.push, hframe']

/-- A group of alternatives that add items adds one itself. -/
theorem adds_choice {ts ts' : List Token} (h : Adds ts) (h' : Adds ts') : Adds (grouped (ts ++ .plain '|' :: ts')) := by
  intro s rest e hs hrest hread
  rw [readTokens_grouped hs, List.append_assoc, List.cons_append] at hread
  obtain ⟨s₁, h₁, hread⟩ := h _ _ e rfl (by simp [SaysGreed]) hread
  obtain ⟨items, hframe⟩ := h₁.frame
  have hbar : step s₁ (.plain '|') (ts' ++ .plain ')' :: rest) =
      .ok ({ s₁ with
        frame := { s₁.frame with branches := s₁.frame.branch :: s₁.frame.branches, items := [] } }, 0) := by
    unfold step stepBar
    simp [hframe, State.enter]
  rw [readTokens_cons hbar, List.drop_zero] at hread
  obtain ⟨s₂, h₂, hread⟩ := h' _ _ e (by exact h₁.verbose) (not_saysGreed_close rest) hread
  obtain ⟨more, hframe₂⟩ := h₂.frame
  refine extends_of_close (s := s) (h₂.flags.trans h₁.flags) (h₂.parents.trans h₁.parents) (h₂.verbose.trans h₁.verbose)
    (.inl ?_) hread
  rw [hframe₂]
  show s₁.frame.opener = _
  rw [hframe]
  rfl

/-- A new group leaves all but the numbers and names of groups as it is. -/
theorem newGroup_ok {name : Option Text} {rest : List Token} {s' : State} {index : Nat}
    (h : s.newGroup name rest = .ok (s', index)) :
    s'.flags = s.flags ∧ s'.parents = s.parents ∧ s'.frame = s.frame := by
  unfold State.newGroup at h
  simp only at h
  split at h
  · obtain ⟨rfl, -⟩ := Prod.mk.inj (Except.ok.inj h)
    exact ⟨rfl, rfl, rfl⟩
  · split at h
    · cases h
    · obtain ⟨rfl, -⟩ := Prod.mk.inj (Except.ok.inj h)
      exact ⟨rfl, rfl, rfl⟩

/-- The name of a group is read up to its end. -/
theorem untilTerminator_name {name : Text} (hname : .char '>' ∉ name) (hne : name ≠ []) (what : Text)
    (more : List Token) :
    Token.untilTerminator '>' what [] (name.map .plain ++ .plain '>' :: more) = .ok (name, name.length + 1) := by
  have hterminator : Token.plain '>' ∉ name.map Token.plain := by simpa using hname
  have htexts : Token.texts (name.map .plain) = name := by simp [Token.texts, List.flatMap_map, Token.text]
  rw [Token.untilTerminator_closed hterminator, if_neg (by simpa using hne)]
  simp [htexts]

/-- What a named group comes to: it is opened behind a new number, unless its name cannot be used. -/
theorem readTokens_named {name : Text} (hname : .char '>' ∉ name) (hne : name ≠ []) (hs : s.frame.verbose = false)
    {rest : List Token} (hread : readTokens s (named name ts ++ rest) = .ok e) :
    ∃ inner index, inner.flags = s.flags ∧ inner.parents = s.frame :: s.parents ∧ inner.frame.verbose = false ∧
      inner.frame.opener = .capture index ∧ readTokens inner (ts ++ .plain ')' :: rest) = .ok e := by
  have hsplit : named name ts ++ rest = .plain '(' :: .plain '?' :: .plain 'P' :: .plain '<' ::
      (name.map Token.plain ++ .plain '>' :: (ts ++ .plain ')' :: rest)) := by simp [named]
  rw [hsplit] at hread
  generalize ts ++ .plain ')' :: rest = more at hread ⊢
  have hafter : (name.map Token.plain ++ .plain '>' :: more).drop (name.length + 1) = more := by
    simp [List.drop_append]
  rw [readTokens] at hread
  unfold step at hread
  simp only [hs, Bool.false_and, Bool.false_eq_true, if_false, stepOpen, stepNamed,
    untilTerminator_name hname hne, bind, Except.bind, hafter] at hread
  cases hvalid : isGroupName name with
  | false =>
    rw [hvalid] at hread
    cases hread
  | true =>
    cases hnew : s.newGroup (some name) more with
    | error trouble =>
      rw [hvalid, hnew] at hread
      cases hread
    | ok opened =>
      obtain ⟨inner, index⟩ := opened
      obtain ⟨hflags, hparents, hframe⟩ := newGroup_ok hnew
      rw [hvalid, hnew] at hread
      simp only [Bool.not_true, Bool.false_eq_true, if_false, List.drop_succ_cons, hafter] at hread
      exact ⟨inner.enter (.capture index) inner.frame.verbose (name.length + 5) more, index, hflags,
        by simp only [State.enter, hframe, hparents], by simp only [State.enter, hframe, hs], rfl, hread⟩

/-- A named group of tokens that add items adds one itself, if its name may be used. -/
theorem adds_named {name : Text} (hname : .char '>' ∉ name) (hne : name ≠ []) (h : Adds ts) : Adds (named name ts) := by
  intro s rest e hs hrest hread
  obtain ⟨inner, index, hflags, hparents, hverbose, hopener, hread⟩ := readTokens_named hname hne hs hread
  obtain ⟨s₁, h₁, hread⟩ := h inner _ e hverbose (not_saysGreed_close rest) hread
  obtain ⟨items, hframe⟩ := h₁.frame
  refine extends_of_close (s := s) (h₁.flags.trans hflags) (h₁.parents.trans hparents) (h₁.verbose.trans hverbose)
    (.inr ⟨index, ?_⟩) hread
  rw [hframe]
  exact hopener

end group

/-! ## 3. How matches begin -/

namespace Node

variable {f : Flags} {node : Node} {nodes : List Node} {k k' : Cursor}

/-- A match of nodes one after the other is one of the first, and then one of the others. -/
theorem mem_run_sequence :
    k' ∈ (sequence (node :: nodes)).run f k ↔ ∃ k₁ ∈ node.run f k, k' ∈ (sequence nodes).run f k₁ := by
  cases nodes with
  | nil => simp [sequence, run]
  | cons next nodes => simp [sequence, run]

/-- A match of a node that may be left out takes nothing, or is one of the node. -/
theorem mem_run_option (h : k' ∈ (Node.repetition .greedy 0 (some 1) node).run f k) :
    k' = k ∨ k' ∈ node.run f k := by
  have hlimit : min 1 (k.after.length + 1) = 1 := Nat.min_eq_left (Nat.le_add_left 1 _)
  have hrounds : k' ∈ rounds false (node.run f) 1 k := by simpa [run, times, hlimit] using h
  simp only [rounds, Bool.false_eq_true, if_false, List.mem_append, List.mem_flatMap, List.mem_eraseDups,
    List.mem_singleton] at hrounds
  rcases hrounds with ⟨k₁, hnode, hlast⟩ | rfl
  · rw [ite_self, List.mem_singleton] at hlast
    exact .inr (hlast ▸ hnode)
  · exact .inl rfl

/-- The start of the text is nowhere but at its start. -/
theorem mem_run_lineStart (h : k' ∈ (Node.anchor .lineStart).run {} k) : k' = k ∧ k.before = [] := by
  rw [run] at h
  split at h
  · next hholds => exact ⟨List.mem_singleton.mp h, by simpa [Anchor.holds] using hholds⟩
  · cases h

end Node

end SkipPath.Regex
