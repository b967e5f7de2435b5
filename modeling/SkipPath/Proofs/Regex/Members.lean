import SkipPath.Proofs.Regex.Alternation
import SkipPath.Proofs.Regex.Brackets

/-!
What is read of the members of a class.

The members of a class are a row of atoms: a character, or an escape with the tokens that belong to it.  An
atom that is read in the same way wherever it stands (`Atom.IsRead`) is a member of its own, unless a hyphen
makes it an end of a range, and which of the two it is goes from left to right (`spans`).  So a class of such
atoms is an expression exactly if its ranges have characters in order as their ends
(`Bracket.parse_bracketed`), and then it takes the characters of its spans (`search_spans`).
-/

namespace SkipPath.Regex

/-! ## 1. Escapes that are read alike everywhere -/

namespace Escape

/-- An escape in a class of a character other than a letter or a digit is the character itself. -/
theorem inClass_symbol {c : CodePoint} (hletter : Text.isAsciiLetter c = false)
    (hdigit : Text.isAsciiDigit c = false) (rest : List Token) :
    inClass c rest = .ok (.char c.toNat, 0) := by
  obtain ⟨hcategory, hcommon, hcontrol⟩ := unnamed hletter
  have hbell : c ≠ 'b' := by
    rintro rfl
    revert hletter
    decide
  have hoctal : Token.isOctal c = false := by
    simp only [Text.isAsciiDigit, Token.isOctal, Bool.and_eq_false_iff, decide_eq_false_iff_not] at hdigit ⊢
    exact hdigit.imp_right fun hnine hseven => hnine (CodePoint.le_trans hseven (by decide))
  by_cases hbackslash : c = '\\'
  · subst hbackslash
    rfl
  · simp [inClass, hcontrol hbackslash, hbell, hcategory, hcommon, hoctal, plain, hletter, hdigit]

/-- What an escape means does not depend on what follows, unless it gives a number or a name. -/
theorem inClass_settled {c : CodePoint} (hcommon : c ∉ [.char 'x', .char 'u', .char 'U', .char 'N'])
    (hoctal : Token.isOctal c = false)
    {ts : List Token} {reading : Meaning × Nat} (h : inClass c ts = .ok reading)
    (rest : List Token) : inClass c rest = .ok reading := by
  have hnone : ∀ us, common? c us = none := by
    intro us
    unfold common?
    split <;> first | rfl | exact absurd (by decide) hcommon
  revert h
  unfold inClass plain
  simp only [hnone, hoctal, Bool.false_eq_true, if_false]
  cases control? c with
  | some n => exact id
  | none =>
    by_cases hbell : c = 'b'
    · simp only [hbell, if_true]
      exact id
    · cases category? c with
      | some kind =>
        simp only [hbell, if_false]
        exact id
      | none =>
        simp only [hbell, if_false]
        split
        · exact nofun
        · exact id

/-- Nor does one that gives its number in full. -/
theorem byNumber_settled {letter : CodePoint} {t u : Token} {meaning : Meaning}
    (h : byNumber letter 2 [t, u] = .ok (meaning, 2)) (rest : List Token) :
    byNumber letter 2 (t :: u :: rest) = .ok (meaning, 2) := by
  have hdigits : Token.takePlain Token.isHex 2 (t :: u :: rest) = Token.takePlain Token.isHex 2 [t, u] := by
    cases t <;> cases u <;> simp [Token.takePlain]
  revert h
  simp only [byNumber, hdigits]
  split_ifs <;> simp

end Escape

namespace Bracket

/-! ## 2. Atoms and spans -/

/-- An element of a class: its token, the tokens after that which belong to it, and what it stands for. -/
structure Atom where
  token : Token
  tail : List Token := []
  meaning : Escape.Meaning
deriving DecidableEq

namespace Atom

/-- All tokens of an atom. -/
def tokens (a : Atom) : List Token := a.token :: a.tail

/-- The atom that makes a range of the two around it. -/
def isHyphen (a : Atom) : Bool := a.token = .plain '-'

/-- An atom is read as what it stands for wherever it is, and does not close the class. -/
structure IsRead (a : Atom) : Prop where
  element : ∀ rest, Bracket.element a.token (a.tail ++ rest) = .ok (a.meaning, a.tail.length)
  inner : a.token ≠ .close

theorem IsRead.hyphen {a : Atom} (h : a.IsRead) (hhyphen : a.isHyphen = true) :
    a.token = .plain '-' ∧ a.tail = [] ∧ a.meaning = .char 45 := by
  have htoken : a.token = .plain '-' := of_decide_eq_true hhyphen
  have hread := h.element []
  rw [htoken] at hread
  obtain ⟨hmeaning, hlength⟩ := Prod.mk.inj (Except.ok.inj hread)
  exact ⟨htoken, List.length_eq_zero_iff.mp hlength.symm, hmeaning.symm⟩

end Atom

/-- The tokens of an atom settle by themselves what it means. -/
def Atom.settled (a : Atom) : Bool :=
  a.token ≠ .close && (element a.token a.tail).toOption = some (a.meaning, a.tail.length) &&
    match a.token with
    | .plain _ => a.tail.isEmpty
    | .escape c =>
      if c = .char 'x' then a.tail.length == 2
      else a.tail.isEmpty && c ∉ [.char 'u', .char 'U', .char 'N'] && !Token.isOctal c

theorem Atom.isRead_of_settled {a : Atom} (h : a.settled = true) : a.IsRead := by
  obtain ⟨token, tail, meaning⟩ := a
  simp only [Atom.settled, Bool.and_eq_true, decide_eq_true_eq, ne_eq] at h
  obtain ⟨⟨hclose, hread⟩, hkind⟩ := h
  have hread : element token tail = .ok (meaning, tail.length) := by
    cases he : element token tail with
    | ok reading =>
      rw [he] at hread
      exact congrArg Except.ok (Option.some.inj hread)
    | error trouble =>
      rw [he] at hread
      cases hread
  refine ⟨fun rest => ?_, hclose⟩
  cases token with
  | plain c =>
    obtain rfl := List.isEmpty_iff.mp hkind
    exact hread
  | escape c =>
    simp only at hkind
    split at hkind
    · next hx =>
      subst hx
      obtain ⟨t, u, rfl⟩ := List.length_eq_two.mp (eq_of_beq hkind)
      exact Escape.byNumber_settled hread rest
    · next hx =>
      simp only [Bool.and_eq_true, List.isEmpty_iff, decide_eq_true_eq, Bool.not_eq_true'] at hkind
      obtain ⟨⟨rfl, hcommon⟩, hoctal⟩ := hkind
      exact Escape.inClass_settled (List.not_mem_cons_of_ne_of_not_mem hx hcommon) hoctal hread rest

/-- What a token stands for that is taken with the tokens that belong to it. -/
def meaningOf (t : Token) (tail : List Token) : Escape.Meaning :=
  match element t tail with
  | .ok (meaning, _) => meaning
  | .error _ => .char 0

/-- The atoms of tokens, of which no escapes but those by two hexadecimal digits take others with them. -/
def atomsOf : List Token → List Atom
  | .escape 'x' :: t :: u :: rest =>
    { token := .escape 'x', tail := [t, u], meaning := meaningOf (.escape 'x') [t, u] } :: atomsOf rest
  | t :: rest => { token := t, meaning := meaningOf t [] } :: atomsOf rest
  | [] => []

/-- A member of a class: an atom on its own, or two as the ends of a range. -/
inductive Span where
  | one (meaning : Escape.Meaning)
  | range (low high : Escape.Meaning)
deriving DecidableEq

namespace Span

/-- A range has characters in order as its ends. -/
def inOrder : Span → Bool
  | .one _ => true
  | .range low high => (range? low high).isSome

/-- A span as classes have it. -/
def item : Span → ClassItem
  | .one meaning => itemOf meaning
  | .range low high => (range? low high).getD (.single 0)

end Span

/-- The members that atoms make, from left to right: a hyphen between two of them makes a range, unless it has
been taken as a member itself. -/
def spans : List Atom → List Span
  | low :: hyphen :: high :: rest =>
    if hyphen.isHyphen then .range low.meaning high.meaning :: spans rest
    else .one low.meaning :: spans (hyphen :: high :: rest)
  | a :: rest => .one a.meaning :: spans rest
  | [] => []

/-- A row goes on from the atom before it as a range. -/
def startsRange : List Atom → Bool
  | hyphen :: _ :: _ => hyphen.isHyphen
  | _ => false

/-- The atom in front of a row that does not go on from it is a member of its own. -/
theorem spans_cons {a : Atom} {as : List Atom} (h : startsRange as = false) :
    spans (a :: as) = .one a.meaning :: spans as := by
  rcases as with _ | ⟨b, _ | ⟨c, as⟩⟩
  · rfl
  · rfl
  · change b.isHyphen = false at h
    rw [spans, h]
    rfl

/-! ## 3. One span -/

section reading

variable {a low high : Atom} {ts : List Token} (found : List ClassItem) (opened read : Nat)

theorem drop_tail (a : Atom) (ts : List Token) : (a.tail ++ ts).drop a.tail.length = ts := List.drop_left

/-- An atom that no hyphen follows is a member of its own. -/
theorem members_atom (h : a.IsRead) (hnext : ts.head? ≠ some (.plain '-')) :
    ∃ opened', members opened found read (a.tokens ++ ts) =
      members opened' (itemOf a.meaning :: found) (read + a.tokens.length) ts := by
  have hsingle := @members_single opened read _ found _ _ _ (absurd · h.inner) (h.element ts) (by rwa [drop_tail])
  rw [drop_tail] at hsingle
  exact ⟨_, hsingle⟩

/-- So is one in front of a hyphen that ends the class, and the hyphen after it. -/
theorem members_atom_hyphen (h : a.IsRead) (rest : List Token) :
    members opened found read (a.tokens ++ .plain '-' :: .close :: rest) =
      .ok (found.reverse ++ [itemOf a.meaning, .single 45], read + a.tokens.length + 2) := by
  have hhyphen := @members_hyphen opened read _ found _ _ _ _ (absurd · h.inner)
    (h.element (.plain '-' :: .close :: rest)) (drop_tail a _)
  rw [Atom.tokens, List.cons_append, hhyphen, List.length_cons, List.reverse_cons, List.reverse_cons,
    List.append_assoc]
  rfl

/-- Two atoms with a hyphen between them are a range, or the class is refused. -/
theorem members_atom_range (hlow : low.IsRead) (hhigh : high.IsRead) (ts : List Token) :
    (range? low.meaning high.meaning = none →
      ∃ trouble, members opened found read (low.tokens ++ .plain '-' :: high.tokens ++ ts) = .error trouble) ∧
    ∀ item, range? low.meaning high.meaning = some item →
      ∃ opened', members opened found read (low.tokens ++ .plain '-' :: high.tokens ++ ts) =
        members opened' (item :: found) (read + low.tokens.length + 1 + high.tokens.length) ts := by
  have hrange := members_range opened read found (absurd · hlow.inner)
    (hlow.element (.plain '-' :: high.token :: (high.tail ++ ts))) (drop_tail low _) hhigh.inner
  have hsplit : low.tokens ++ .plain '-' :: high.tokens ++ ts =
      low.token :: (low.tail ++ .plain '-' :: high.token :: (high.tail ++ ts)) := by
    simp [Atom.tokens]
  rw [hsplit, hrange, hhigh.element]
  refine ⟨fun hnone => ?_, fun item hitem => ?_⟩
  · simp only [hnone]
    exact ⟨_, rfl⟩
  · have hcount : read + low.tail.length + 3 + high.tail.length =
        read + low.tokens.length + 1 + high.tokens.length := by
      simp only [Atom.tokens, List.length_cons]
      omega
    simp only [hitem, drop_tail, hcount]
    exact ⟨_, rfl⟩

end reading

/-! ## 4. All spans -/

section row

variable {as : List Atom}

/-- One more item found, with its tokens read, in front of what is found and read after it. -/
theorem found_cons (item : ClassItem) (found items : List ClassItem) (read n m : Nat) :
    ((item :: found).reverse ++ items, read + n + m + 1) = (found.reverse ++ item :: items, read + (n + m) + 1) := by
  rw [List.reverse_cons, List.append_assoc, List.singleton_append, Nat.add_assoc read]

/-- Atoms that are read are read as their spans, if these are in order. -/
theorem members_spans (hread : ∀ a ∈ as, a.IsRead) (hordered : ∀ s ∈ spans as, s.inOrder = true)
    {found : List ClassItem} (hfound : found ≠ [] ∨ as ≠ []) (opened read : Nat) (rest : List Token) :
    members opened found read (as.flatMap Atom.tokens ++ .close :: rest) =
      .ok (found.reverse ++ (spans as).map Span.item, read + (as.flatMap Atom.tokens).length + 1) := by
  -- the induction follows the making of spans; the items found before are not yet turned around
  fun_induction spans as generalizing found opened read with
  | case1 low hyphen high as hhyphen ih =>
    obtain ⟨hlow, hhyphenRead, hhigh, has⟩ : low.IsRead ∧ hyphen.IsRead ∧ high.IsRead ∧ ∀ a ∈ as, a.IsRead := by
      simpa using hread
    obtain ⟨hrange, hmore⟩ := List.forall_mem_cons.mp hordered
    obtain ⟨htoken, htail, -⟩ := hhyphenRead.hyphen hhyphen
    obtain ⟨item, hitem⟩ := Option.isSome_iff_exists.mp hrange
    obtain ⟨opened', hmembers⟩ := (members_atom_range found opened read hlow hhigh
      (as.flatMap Atom.tokens ++ .close :: rest)).2 item hitem
    have hhyphenTokens : hyphen.tokens = [.plain '-'] := by rw [Atom.tokens, htoken, htail]
    simp only [List.flatMap_cons, hhyphenTokens, List.append_assoc, List.cons_append, List.nil_append] at hmembers ⊢
    rw [hmembers, ih has hmore (.inl (List.cons_ne_nil _ _)), Nat.add_assoc read, Nat.add_assoc read, found_cons]
    simp only [List.map_cons, Span.item, hitem, Option.getD_some, List.length_append, List.length_cons,
      Nat.add_assoc, Nat.add_comm 1]
  | case2 low next high as hhyphen ih =>
    obtain ⟨hlow, hrest⟩ := List.forall_mem_cons.mp hread
    obtain ⟨-, hmore⟩ := List.forall_mem_cons.mp hordered
    have hnext : ((next :: high :: as).flatMap Atom.tokens ++ Token.close :: rest).head? ≠ some (.plain '-') := by
      simpa [Atom.tokens, Atom.isHyphen] using hhyphen
    obtain ⟨opened', hmembers⟩ := members_atom found opened read hlow hnext
    rw [List.flatMap_cons, List.append_assoc, hmembers, ih hrest hmore (.inl (List.cons_ne_nil _ _)), found_cons,
      List.length_append]
    rfl
  | case3 a as hshort ih =>
    obtain ⟨ha, hrest⟩ := List.forall_mem_cons.mp hread
    obtain ⟨-, hmore⟩ := List.forall_mem_cons.mp hordered
    by_cases hhyphen : (as.flatMap Atom.tokens ++ Token.close :: rest).head? = some (.plain '-')
    · -- then nothing follows the hyphen
      cases as with
      | nil => simp [Token.close] at hhyphen
      | cons hyphen as =>
        cases as with
        | cons high as => exact absurd rfl (hshort hyphen high as)
        | nil =>
          have hisHyphen : hyphen.isHyphen = true := by
            simpa [Atom.tokens, Atom.isHyphen] using hhyphen
          obtain ⟨htoken, htail, hmeaning⟩ := (hrest hyphen List.mem_cons_self).hyphen hisHyphen
          have hmembers := members_atom_hyphen found opened read ha rest
          simp only [List.flatMap_cons, List.flatMap_nil, List.append_nil, List.append_assoc]
          rw [show hyphen.tokens = [.plain '-'] by rw [Atom.tokens, htoken, htail], List.singleton_append, hmembers]
          simp [spans, Span.item, hmeaning, itemOf, Nat.add_assoc]
    · obtain ⟨opened', hmembers⟩ := members_atom found opened read ha hhyphen
      rw [List.flatMap_cons, List.append_assoc, hmembers, ih hrest hmore (.inl (List.cons_ne_nil _ _)), found_cons,
        List.length_append]
      rfl
  | case4 =>
    simpa [spans] using members_close (hfound.resolve_right fun h => h rfl)

/-- With a range that is not in order they are refused. -/
theorem members_disordered (hread : ∀ a ∈ as, a.IsRead) (hnot : ¬ ∀ s ∈ spans as, s.inOrder = true)
    (found : List ClassItem) (opened read : Nat) (rest : List Token) :
    ∃ trouble, members opened found read (as.flatMap Atom.tokens ++ .close :: rest) = .error trouble := by
  fun_induction spans as generalizing found opened read with
  | case1 low hyphen high as hhyphen ih =>
    obtain ⟨hlow, hhyphenRead, hhigh, has⟩ : low.IsRead ∧ hyphen.IsRead ∧ high.IsRead ∧ ∀ a ∈ as, a.IsRead := by
      simpa using hread
    obtain ⟨htoken, htail, -⟩ := hhyphenRead.hyphen hhyphen
    have hhyphenTokens : hyphen.tokens = [.plain '-'] := by rw [Atom.tokens, htoken, htail]
    obtain ⟨hrefused, hitem⟩ := members_atom_range found opened read hlow hhigh
      (as.flatMap Atom.tokens ++ .close :: rest)
    simp only [List.flatMap_cons, hhyphenTokens, List.append_assoc, List.cons_append, List.nil_append]
      at hrefused hitem ⊢
    cases hrange : range? low.meaning high.meaning with
    | none => exact hrefused hrange
    | some item =>
      obtain ⟨opened', hmembers⟩ := hitem item hrange
      rw [hmembers]
      exact ih has (fun hmore => hnot (List.forall_mem_cons.mpr ⟨by simp [Span.inOrder, hrange], hmore⟩)) _ _ _
  | case2 low next high as hhyphen ih =>
    obtain ⟨hlow, hrest⟩ := List.forall_mem_cons.mp hread
    have hnext : ((next :: high :: as).flatMap Atom.tokens ++ Token.close :: rest).head? ≠ some (.plain '-') := by
      simpa [Atom.tokens, Atom.isHyphen] using hhyphen
    obtain ⟨opened', hmembers⟩ := members_atom found opened read hlow hnext
    rw [List.flatMap_cons, List.append_assoc, hmembers]
    exact ih hrest (fun hmore => hnot (List.forall_mem_cons.mpr ⟨rfl, hmore⟩)) _ _ _
  | case3 a as hshort ih =>
    obtain ⟨ha, hrest⟩ := List.forall_mem_cons.mp hread
    have hmore : ¬ ∀ s ∈ spans as, s.inOrder = true := fun hmore =>
      hnot (List.forall_mem_cons.mpr ⟨rfl, hmore⟩)
    -- what is left holds a range, so that it has three atoms
    cases as with
    | nil => exact absurd (by simp [spans]) hmore
    | cons b as =>
      cases as with
      | nil => exact absurd (by simp [spans, Span.inOrder]) hmore
      | cons c as => exact absurd rfl (hshort b c as)
  | case4 => exact absurd (by simp) hnot

/-! ## 5. Classes -/

variable {negated : Bool} (hread : ∀ a ∈ as, a.IsRead)
  (hmembers : IsMembers negated (as.flatMap Atom.tokens))
include hread hmembers

/-- A class of atoms that are read is one item that can be repeated, if its spans are in order. -/
theorem readAsAtom_of_spans (hordered : ∀ s ∈ spans as, s.inOrder = true) :
    ReadAsAtom (bracketed negated (as.flatMap Atom.tokens)) (.charClass negated ((spans as).map Span.item)) := by
  have hne : as ≠ [] := fun he => hmembers.nonempty (by rw [he]; rfl)
  refine readAsAtom_of_read rfl fun rest => ?_
  rw [read_of_members hmembers.delimited rest, members_spans hread hordered (.inr hne)]
  rfl

/-- Otherwise it is refused wherever it stands. -/
theorem fails_of_spans (hnot : ¬ ∀ s ∈ spans as, s.inOrder = true) :
    Fails (bracketed negated (as.flatMap Atom.tokens)) := by
  refine fails_of_read fun rest => ?_
  obtain ⟨trouble, he⟩ := members_disordered hread hnot [] (1 + (negation negated).length)
    (negation negated).length rest
  exact ⟨trouble, by rw [read_of_members hmembers.delimited rest, he]; rfl⟩

/-- A class of atoms that are read is an expression exactly if its spans are in order, and then it is the class
of them. -/
theorem parse_bracketed (hproper : ∀ t ∈ as.flatMap Atom.tokens, t.IsProper) {e : Expression} :
    parse (Token.texts (bracketed negated (as.flatMap Atom.tokens))) = .ok e ↔
      (∀ s ∈ spans as, s.inOrder = true) ∧
        e = { flags := {}, tree := .charClass negated ((spans as).map Span.item) } := by
  have hproper : ∀ t ∈ bracketed negated (as.flatMap Atom.tokens), t.IsProper := bracketed_proper hproper
  by_cases hordered : ∀ s ∈ spans as, s.inOrder = true
  · have hok := parse_of_readAs hproper (readAsAtom_of_spans hread hmembers hordered).readAs
      (List.forall_mem_singleton.mpr fun _ => rfl)
    constructor
    · intro hparse
      exact ⟨hordered, Except.ok.inj (hparse.symm.trans hok)⟩
    · rintro ⟨-, rfl⟩
      exact hok
  · refine iff_of_false (fun hparse => ?_) fun h => hordered h.1
    obtain ⟨trouble, he⟩ := fails_of_spans hread hmembers hordered {} [] rfl
    rw [parse_texts hproper, ← List.append_nil (bracketed _ _), he] at hparse
    cases hparse

end row

end Bracket

/-- The class of a regular expression finds a character exactly if the character belongs to it. -/
theorem search_charClass (negated : Bool) (items : List ClassItem) (c : CodePoint) :
    ({ flags := {}, tree := .charClass negated items } : Expression).search [c] =
      classHolds {} negated items c := by
  simp only [Expression.search, Expression.searchFrom, Node.run, Cursor.next, List.isEmpty_nil, Bool.not_true,
    Bool.or_false]
  cases classHolds {} negated items c <;> rfl

/-- A class of spans finds the characters of its spans, or all others. -/
theorem search_spans (negated : Bool) (spans : List Bracket.Span) (c : CodePoint) :
    ({ flags := {}, tree := .charClass negated (spans.map Bracket.Span.item) } : Expression).search [c] =
      (spans.any (·.item.holds false c) != negated) := by
  rw [search_charClass]
  simp [classHolds, spellings, Function.comp_def]

end SkipPath.Regex
