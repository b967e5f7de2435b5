import SkipPath.Regex.Parser

/-!
Reading an expression that has no groups and no alternatives.

Such an expression is a row of tokens each of which, or each few of which, are read as one item.  Reading
is compositional then: what tokens are read as does not depend on the items before them, and depends on
what follows only if that could say how a repetition chooses (`ReadAs`).  So an expression is parsed by
reading its parts (`parse_of_readAs`).
-/

namespace SkipPath.Regex

/-! ## 1. Tokens -/

namespace Token

/-- A token as scanning gives it: a backslash is not one of its own. -/
def IsProper : Token → Prop
  | .plain c => c ≠ '\\'
  | .escape _ => True

theorem scan_plain {c : CodePoint} (h : c ≠ '\\') (rest : Text) :
    scan (c :: rest) = (.plain c :: (scan rest).1, (scan rest).2) := by
  rw [scan]
  · exact fun he => absurd he h
  · exact fun d t he => absurd he h

theorem scan_escape (c : CodePoint) (rest : Text) :
    scan ('\\' :: c :: rest) = (.escape c :: (scan rest).1, (scan rest).2) := rfl

/-- Scanning gives back the tokens that a text was made of. -/
theorem scan_texts_append {ts : List Token} (h : ∀ t ∈ ts, t.IsProper) (rest : Text) :
    scan (texts ts ++ rest) = (ts ++ (scan rest).1, (scan rest).2) := by
  induction ts with
  | nil => rfl
  | cons t ts ih =>
    have hrest := ih fun u hu => h u (List.mem_cons_of_mem t hu)
    have ht := h t List.mem_cons_self
    rw [texts, List.flatMap_cons, List.append_assoc]
    cases t with
    | plain c =>
      show scan (c :: (texts ts ++ rest)) = _
      rw [scan_plain ht, hrest]
      rfl
    | escape c =>
      show scan ('\\' :: c :: (texts ts ++ rest)) = _
      rw [scan_escape, hrest]
      rfl

theorem scan_texts {ts : List Token} (h : ∀ t ∈ ts, t.IsProper) : scan (texts ts) = (ts, false) := by
  have hscan := scan_texts_append h []
  rwa [List.append_nil, show scan [] = ([], false) from rfl, List.append_nil] at hscan

theorem scan_proper (t : Text) : ∀ token ∈ (scan t).1, token.IsProper := by
  fun_induction scan t with
  | case1 => simp
  | case2 => simp
  | case3 c rest tokens dangling hscan ih =>
    rw [hscan] at ih
    exact List.forall_mem_cons.mpr ⟨trivial, ih⟩
  | case4 c rest hlone hescape tokens dangling hscan ih =>
    rw [hscan] at ih
    refine List.forall_mem_cons.mpr ⟨fun hc => ?_, ih⟩
    cases rest with
    | nil => exact hlone hc rfl
    | cons d rest => exact hescape d rest hc rfl

/-- A text without a lone backslash at its end is the text of its tokens. -/
theorem texts_scan {t : Text} (h : (scan t).2 = false) : texts (scan t).1 = t := by
  fun_induction scan t with
  | case1 => rfl
  | case2 => simp at h
  | case3 c rest tokens dangling hscan ih =>
    rw [hscan] at ih
    rw [texts, List.flatMap_cons, ← texts, ih h]
    rfl
  | case4 c rest hlone hescape tokens dangling hscan ih =>
    rw [hscan] at ih
    rw [texts, List.flatMap_cons, ← texts, ih h]
    rfl

/-- A text of which the tokens are known. -/
theorem of_scan {t : Text} {ts : List Token} (h : scan t = (ts, false)) :
    texts ts = t ∧ ∀ token ∈ ts, token.IsProper := by
  obtain rfl : ts = (scan t).1 := by rw [h]
  exact ⟨texts_scan (by rw [h]), scan_proper t⟩

theorem texts_append (ts ts' : List Token) : texts (ts ++ ts') = texts ts ++ texts ts' :=
  List.flatMap_append

theorem texts_cons (t : Token) (ts : List Token) : texts (t :: ts) = t.text ++ texts ts :=
  List.flatMap_cons

/-- A text that follows another one is scanned on its own, unless its first character is escaped. -/
theorem scan_append {t : Text} (h : (scan t).2 = false) (rest : Text) :
    scan (t ++ rest) = ((scan t).1 ++ (scan rest).1, (scan rest).2) := by
  have hscan := scan_texts_append (scan_proper t) rest
  rwa [texts_scan h] at hscan

end Token

/-! ## 2. Items -/

/-- The state with some more items. -/
def State.pushAll (s : State) (items : List Item) : State :=
  items.foldl (fun s item => s.push item.node item.kind) s

/-- The next token says how a repetition before it chooses. -/
def SaysGreed (rest : List Token) : Prop :=
  rest.head? = some (.plain '?') ∨ rest.head? = some (.plain '+')

/-- Tokens are read as some items, wherever they stand. -/
def ReadAs (ts : List Token) (items : List Item) : Prop :=
  ∀ (s : State) (rest : List Token), s.frame.verbose = false → ¬ SaysGreed rest →
    readTokens s (ts ++ rest) = readTokens (s.pushAll items) rest

theorem State.pushAll_verbose (s : State) (items : List Item) :
    (s.pushAll items).frame.verbose = s.frame.verbose := by
  induction items generalizing s with
  | nil => rfl
  | cons item items ih => exact ih (s.push item.node item.kind)

theorem State.pushAll_append (s : State) (items items' : List Item) :
    s.pushAll (items ++ items') = (s.pushAll items).pushAll items' := List.foldl_append ..

theorem readTokens_cons {s s' : State} {t : Token} {rest : List Token} {n : Nat}
    (h : step s t rest = .ok (s', n)) : readTokens s (t :: rest) = readTokens s' (rest.drop n) := by
  rw [readTokens, h]

theorem ReadAs.nil : ReadAs [] [] := fun _ _ _ _ => rfl

/-- Reading is compositional. -/
theorem ReadAs.append {ts ts' : List Token} {items items' : List Item} (h : ReadAs ts items)
    (h' : ReadAs ts' items') (hstart : ∀ rest, ¬ SaysGreed rest → ¬ SaysGreed (ts' ++ rest)) :
    ReadAs (ts ++ ts') (items ++ items') := by
  intro s rest hs hrest
  rw [List.append_assoc, h s _ hs (hstart rest hrest), h' _ rest _ hrest, State.pushAll_append]
  rw [State.pushAll_verbose, hs]

/-- A row of parts that are each read as one item. -/
theorem ReadAs.flatMap {α : Type} {tokens : α → List Token} {item : α → Item} {parts : List α}
    (h : ∀ part ∈ parts, ReadAs (tokens part) [item part])
    (hstart : ∀ part ∈ parts, ∀ rest, ¬ SaysGreed (tokens part ++ rest)) :
    ReadAs (parts.flatMap tokens) (parts.map item) := by
  induction parts with
  | nil => exact .nil
  | cons part parts ih =>
    have hrest := ih (fun p hp => h p (List.mem_cons_of_mem part hp))
      fun p hp => hstart p (List.mem_cons_of_mem part hp)
    have hpart := h part List.mem_cons_self
    refine hpart.append hrest fun rest hgreed => ?_
    cases parts with
    | nil => exact hgreed
    | cons next parts =>
      show ¬ SaysGreed ((next :: parts).flatMap tokens ++ rest)
      rw [List.flatMap_cons, List.append_assoc]
      exact hstart next (List.mem_cons_of_mem part List.mem_cons_self) _

/-- Tokens are read as one item that can be repeated, whatever follows. -/
def ReadAsAtom (ts : List Token) (node : Node) : Prop :=
  ∀ (s : State) (rest : List Token), s.frame.verbose = false →
    readTokens s (ts ++ rest) = readTokens (s.push node) rest

theorem ReadAsAtom.readAs {ts : List Token} {node : Node} (h : ReadAsAtom ts node) :
    ReadAs ts [{ node := node }] := fun s rest hs _ => h s rest hs

/-! ## 3. Single characters -/

/-- The characters that mean something of their own outside of classes. -/
def operators : List CodePoint := ['|', ')', '[', '?', '*', '+', '\x7b', '.', '(', '^', '$']

/-- Where blanks count, a step goes by the character alone. -/
theorem step_plain {s : State} (hs : s.frame.verbose = false) {c : CodePoint} (h : c ∉ operators)
    (rest : List Token) : step s (.plain c) rest = .ok (s.push (.char c.toNat), 0) := by
  unfold step
  simp only [hs, Bool.false_and, Bool.false_eq_true, if_false]
  split <;> first | rfl | exact absurd (by decide) h

theorem readAs_plain {c : CodePoint} (h : c ∉ operators) : ReadAsAtom [.plain c] (.char c.toNat) :=
  fun _ rest hs => readTokens_cons (step_plain hs h rest)

/-- A character other than a letter has no escape with a meaning of its own, but for the backslash. -/
theorem Escape.unnamed {c : CodePoint} (hletter : Text.isAsciiLetter c = false) :
    category? c = none ∧ (∀ rest, common? c rest = none) ∧ (c ≠ '\\' → control? c = none) := by
  refine ⟨?_, fun rest => ?_, fun hbackslash => ?_⟩
  · unfold category?
    split <;> first | (exfalso; revert hletter; decide) | rfl
  · unfold common?
    split <;> first | (exfalso; revert hletter; decide) | rfl
  · unfold control?
    split <;> first | (exfalso; revert hletter; decide) | contradiction | rfl

/-- An escape other than of a letter or a digit is the character itself. -/
theorem outside_symbol {c : CodePoint} (hletter : Text.isAsciiLetter c = false)
    (hdigit : Text.isAsciiDigit c = false) (rest : List Token) :
    Escape.outside c rest = .ok (.char c.toNat, 0) := by
  obtain ⟨hcategory, hcommon, hcontrol⟩ := Escape.unnamed hletter
  have hanchor : Escape.anchor? c = none := by
    unfold Escape.anchor?
    split <;> first | (exfalso; revert hletter; decide) | rfl
  have hzero : c ≠ '0' := by
    rintro rfl
    revert hdigit
    decide
  by_cases hbackslash : c = '\\'
  · subst hbackslash
    rfl
  · simp [Escape.outside, hanchor, hcategory, hcommon, hcontrol hbackslash, hzero, hdigit, Escape.plain, hletter]

theorem readAs_escape {c : CodePoint} (hletter : Text.isAsciiLetter c = false)
    (hdigit : Text.isAsciiDigit c = false) : ReadAsAtom [.escape c] (.char c.toNat) := by
  intro s rest _
  refine readTokens_cons (n := 0) ?_
  show stepEscape s c rest = _
  unfold stepEscape
  rw [outside_symbol hletter hdigit]
  rfl

theorem readAs_any : ReadAsAtom [.plain '.'] .any := by
  intro s rest hs
  refine readTokens_cons (n := 0) ?_
  unfold step
  simp only [hs, Bool.false_and, Bool.false_eq_true, if_false]

/-- The tokens of any character but one. -/
def allBut (c : CodePoint) : List Token := [.plain '[', .plain '^', .plain c, .plain ']']

theorem read_allBut (c : CodePoint) (rest : List Token) :
    Bracket.read (.plain '^' :: .plain c :: .plain ']' :: rest) =
      .ok { negated := true, items := [.single c.toNat], count := 3 } := by
  have hmembers : Bracket.members 2 [] 1 (.plain c :: .plain ']' :: rest) =
      .ok ([.single c.toNat], 3) := by
    simp [Bracket.members, Bracket.element, Bracket.itemOf]
  show (Bracket.members 2 [] 1 (.plain c :: .plain ']' :: rest) >>= fun reading => _) = _
  rw [hmembers]
  rfl

theorem readAs_allBut (c : CodePoint) : ReadAsAtom (allBut c) (.charClass true [.single c.toNat]) := by
  intro s rest hs
  refine readTokens_cons (n := 3) ?_
  show step s (.plain '[') (.plain '^' :: .plain c :: .plain ']' :: rest) = _
  unfold step
  simp only [hs, Bool.false_and, Bool.false_eq_true, if_false, read_allBut]
  rfl

/-! ## 4. Repetitions -/

theorem greedOf_of_not_saysGreed {rest : List Token} (h : ¬ SaysGreed rest) :
    greedOf rest = (.greedy, 0) := by
  unfold greedOf
  split
  · exact absurd (.inl rfl) h
  · exact absurd (.inr rfl) h
  · rfl

theorem stepRepeat_push (s : State) (node : Node) (min : Nat) (max : Option Nat) {rest : List Token}
    (h : ¬ SaysGreed rest) :
    stepRepeat (s.push node) { min := min, max := max, count := 0 } rest =
      .ok (s.push (.repetition .greedy min max node) .repeated, 0) := by
  simp only [stepRepeat, List.drop_zero, greedOf_of_not_saysGreed h]
  rfl

/-- An item that can be repeated, with a token after it that says how often. -/
theorem ReadAsAtom.repeated {ts : List Token} {node : Node} (h : ReadAsAtom ts node) {t : Token} {min : Nat}
    {max : Option Nat} (hstep : ∀ (s : State) (rest : List Token), s.frame.verbose = false →
      step s t rest = stepRepeat s { min := min, max := max, count := 0 } rest) :
    ReadAs (ts ++ [t]) [{ node := .repetition .greedy min max node, kind := .repeated }] := by
  intro s rest hs hrest
  rw [List.append_assoc, h s _ hs]
  exact readTokens_cons (n := 0) ((hstep (s.push node) rest hs).trans (stepRepeat_push s node min max hrest))

/-- An item that can be repeated, with a star after it. -/
theorem ReadAsAtom.star {ts : List Token} {node : Node} (h : ReadAsAtom ts node) :
    ReadAs (ts ++ [.plain '*'])
      [{ node := .repetition .greedy 0 none node, kind := .repeated }] :=
  h.repeated fun s rest hs => by
    unfold step
    simp only [hs, Bool.false_and, Bool.false_eq_true, if_false]

/-- An item that can be repeated, with a question mark after it. -/
theorem ReadAsAtom.option {ts : List Token} {node : Node} (h : ReadAsAtom ts node) :
    ReadAs (ts ++ [.plain '?'])
      [{ node := .repetition .greedy 0 (some 1) node, kind := .repeated }] :=
  h.repeated fun s rest hs => by
    unfold step
    simp only [hs, Bool.false_and, Bool.false_eq_true, if_false]

/-- An item that can be repeated, with a plus sign after it. -/
theorem ReadAsAtom.plus {ts : List Token} {node : Node} (h : ReadAsAtom ts node) :
    ReadAs (ts ++ [.plain '+'])
      [{ node := .repetition .greedy 1 none node, kind := .repeated }] :=
  h.repeated fun s rest hs => by
    unfold step
    simp only [hs, Bool.false_and, Bool.false_eq_true, if_false]

/-- The end of a line, as an item. -/
def Item.lineEnd : Item := { node := .anchor .lineEnd, kind := .anchor }

theorem readAs_lineEnd : ReadAs [.plain '$'] [.lineEnd] := by
  intro s rest hs _
  refine readTokens_cons (n := 0) ?_
  unfold step
  simp only [hs, Bool.false_and, Bool.false_eq_true, if_false]
  rfl

/-! ## 5. Whole expressions -/

/-- An expression that is allowed everywhere. -/
def Node.Sound (node : Node) : Prop := ∀ groups, node.problem? false groups = none

theorem Node.sound_sequence {nodes : List Node} (h : ∀ node ∈ nodes, node.Sound) :
    (sequence nodes).Sound := by
  induction nodes with
  | nil => exact fun _ => rfl
  | cons a nodes ih =>
    have ha := h a List.mem_cons_self
    cases nodes with
    | nil => exact ha
    | cons b nodes =>
      intro groups
      have hrest := ih (fun node hnode => h node (List.mem_cons_of_mem a hnode)) groups
      show ((a.problem? false groups).or ((sequence (b :: nodes)).problem? false groups)) = none
      rw [ha groups, hrest]
      rfl

theorem State.pushAll_items (items : List Item) (s : State) :
    s.pushAll items = { s with frame := { s.frame with items := items.reverse ++ s.frame.items } } := by
  induction items generalizing s with
  | nil => rfl
  | cons item items ih =>
    rw [State.pushAll, List.foldl_cons]
    rw [show List.foldl _ _ items = (s.push item.node item.kind).pushAll items from rfl, ih]
    simp [State.push]

/-- A text is parsed by reading its tokens part by part. -/
theorem parse_of_readAs {ts : List Token} {items : List Item} (hproper : ∀ t ∈ ts, t.IsProper)
    (hread : ReadAs ts items) (hsound : ∀ item ∈ items, item.node.Sound) :
    parse (Token.texts ts) = .ok { flags := {}, tree := .sequence (items.map (·.node)) } := by
  have htokens : readTokens {} ts = .ok { flags := {}, tree := .sequence (items.map (·.node)) } := by
    have hall := hread {} [] rfl fun h => h.elim nofun nofun
    rw [List.append_nil] at hall
    have htree : Node.Sound (.sequence (items.map (·.node))) :=
      Node.sound_sequence (by simpa using hsound)
    have hbody : ({} : State).pushAll items =
        { frame := { opener := .whole, items := items.reverse } } := by
      rw [State.pushAll_items]
      simp
    rw [hall, hbody, readTokens]
    simp [finish, Frame.body, Frame.branch, Node.choice, htree [none]]
  unfold parse
  rw [Token.scan_texts hproper]
  simp only [htokens]
  rfl

end SkipPath.Regex
