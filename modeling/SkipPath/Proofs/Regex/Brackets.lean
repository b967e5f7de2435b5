import SkipPath.Proofs.Regex.Reading

/-!
A class is read the same way wherever it stands.

The tokens between a bracket and the `]` that closes it settle what the class is, and whether it is one at
all: nothing after the `]` is looked at (`Bracket.decided_read`).  Two things have to be seen for this.  An
escape that goes on with digits stops before a `]`.  And an escape with a name in braces may run past the
`]` in search of its closing brace, but then there is a `]` in the name, and no character has such a name.
So the tokens of a class are one item that can be repeated, or they are refused wherever they stand
(`readAsAtom_bracketed`).
-/

namespace SkipPath.Regex

/-! ## 1. Readings that are decided -/

/-- The outcome of reading some tokens, given what follows them, is the same whatever that is. -/
def Decided {α : Type} (read : List Token → Except Trouble α) (P : α → Prop) : Prop :=
  (∃ a, P a ∧ ∀ rest, read rest = .ok a) ∨ ∀ rest, ∃ trouble, read rest = .error trouble

namespace Decided

variable {α : Type} {read read' : List Token → Except Trouble α} {P : α → Prop}

theorem ok {a : α} (h : P a) (hread : ∀ rest, read rest = .ok a) : Decided read P := .inl ⟨a, h, hread⟩

theorem error (h : ∀ rest, ∃ trouble, read rest = .error trouble) : Decided read P := .inr h

theorem congr (h : Decided read P) (hsame : ∀ rest, read' rest = read rest) : Decided read' P := by
  have hread : read' = read := funext hsame
  rwa [hread]

end Decided

/-! ## 2. What stops before the end of a class -/

/-- The token that closes a class. -/
abbrev Token.close : Token := .plain ']'

namespace Token

variable {p : CodePoint → Bool}

/-- Characters that are collected stop before the end of a class. -/
theorem takePlain_close (h : p ']' = false) (limit : Nat) (ts rest : List Token) :
    takePlain p limit (ts ++ close :: rest) = takePlain p limit ts := by
  induction limit generalizing ts with
  | zero => simp [takePlain]
  | succ limit ih =>
    cases ts with
    | nil => simp [takePlain, h]
    | cons t ts =>
      cases t with
      | plain c => simp only [List.cons_append, takePlain, ih]
      | escape c => simp [takePlain]

theorem takePlain_length (p : CodePoint → Bool) (limit : Nat) (ts : List Token) :
    (takePlain p limit ts).length ≤ limit ∧ (takePlain p limit ts).length ≤ ts.length := by
  induction limit generalizing ts with
  | zero => simp [takePlain]
  | succ limit ih =>
    cases ts with
    | nil => simp [takePlain]
    | cons t ts =>
      cases t with
      | plain c =>
        rw [takePlain]
        split
        · simpa using ih ts
        · simp
      | escape c => simp [takePlain]

/-- A name that is closed is read up to its end. -/
theorem untilTerminator_closed {terminator : CodePoint} {what : Text} {name : List Token}
    (hname : .plain terminator ∉ name) (found rest : List Token) :
    untilTerminator terminator what found (name ++ .plain terminator :: rest) =
      if found.isEmpty && name.isEmpty then .error (trouble (.missingName what) rest 1)
      else .ok (texts (found.reverse ++ name), found.length + name.length + 1) := by
  induction name generalizing found with
  | nil =>
    rw [List.nil_append, untilTerminator, if_pos rfl]
    cases found <;> simp
  | cons t name ih =>
    rw [List.mem_cons, not_or] at hname
    rw [List.cons_append, untilTerminator, if_neg (Ne.symm hname.1), ih hname.2]
    simp only [List.isEmpty_cons, Bool.false_and, Bool.and_false, Bool.false_eq_true, if_false,
      List.reverse_cons, List.append_assoc, List.singleton_append, List.length_cons, Nat.add_right_comm,
      Nat.add_assoc]

/-- A name that is read holds the tokens up to its terminator. -/
theorem untilTerminator_ok {terminator : CodePoint} {what name : Text} {found ts : List Token} {count : Nat}
    (h : untilTerminator terminator what found ts = .ok (name, count)) :
    ∃ more rest, ts = more ++ .plain terminator :: rest ∧ .plain terminator ∉ more ∧
      name = texts (found.reverse ++ more) := by
  induction ts generalizing found with
  | nil =>
    rw [untilTerminator] at h
    split at h <;> cases h
  | cons t ts ih =>
    rw [untilTerminator] at h
    split at h
    · next ht =>
      split at h
      · cases h
      · refine ⟨[], ts, by rw [ht]; rfl, List.not_mem_nil, ?_⟩
        rw [List.append_nil]
        exact (Prod.mk.inj (Except.ok.inj h)).1.symm
    · next ht =>
      obtain ⟨more, rest, rfl, hmore, hname⟩ := ih h
      refine ⟨t :: more, rest, rfl, ?_, ?_⟩
      · rw [List.mem_cons, not_or]
        exact ⟨Ne.symm ht, hmore⟩
      · rw [hname, List.reverse_cons, List.append_assoc]
        rfl

/-- A name that goes on behind the end of a class has a `]` in it. -/
theorem close_mem_of_untilTerminator {terminator : CodePoint} {what : Text} {ts rest : List Token}
    {reading : Text × Nat}
    (hname : .plain terminator ∉ ts)
    (h : untilTerminator terminator what [] (ts ++ close :: rest) = .ok reading) (hne : terminator ≠ ']') :
    .char ']' ∈ reading.1 := by
  obtain ⟨name, count⟩ := reading
  obtain ⟨more, after, hsplit, -, rfl⟩ := untilTerminator_ok h
  have hmem : close ∈ more := by
    rcases List.append_eq_append_iff.mp hsplit with ⟨us, rfl, hus⟩ | ⟨us, rfl, hus⟩
    · cases us with
      | nil => exact absurd (Token.plain.inj (List.cons.inj hus).1).symm hne
      | cons u us =>
        obtain ⟨rfl, -⟩ := List.cons.inj hus
        exact List.mem_append_right _ List.mem_cons_self
    · cases us with
      | nil => exact absurd (Token.plain.inj (List.cons.inj hus).1) hne
      | cons u us =>
        obtain ⟨rfl, -⟩ := List.cons.inj hus
        exact absurd (List.mem_append_right _ List.mem_cons_self) hname
  exact List.mem_flatMap.mpr ⟨close, hmem, List.mem_singleton.mpr rfl⟩

end Token

/-- No character has a name with a `]` in it. -/
theorem charNamed?_close {name : Text} (h : .char ']' ∈ name) : Text.charNamed? name = none := by
  have hall : name.all Text.isNameChar = false := by
    rw [List.all_eq_false]
    exact ⟨']', h, by decide⟩
  rw [Text.charNamed?, hall]
  rfl

namespace Escape

/-- A meaning that was read from the tokens before the end of a class. -/
def Within (ts : List Token) (reading : Meaning × Nat) : Prop := reading.2 ≤ ts.length

variable {ts : List Token}

theorem decided_byNumber (letter : CodePoint) (width : Nat) (ts : List Token) :
    Decided (fun rest => byNumber letter width (ts ++ .close :: rest)) (Within ts) := by
  have hlength := Token.takePlain_length Token.isHex width ts
  simp only [byNumber, Token.takePlain_close (p := Token.isHex) (by decide)]
  split
  · exact .error fun rest => ⟨_, rfl⟩
  split
  · exact .error fun rest => ⟨_, rfl⟩
  split
  · exact .error fun rest => ⟨_, rfl⟩
  · refine .ok (a := (.char _, width)) ?_ fun rest => rfl
    show width ≤ ts.length
    omega

/-- A name in braces ends before the end of the class, or it is none. -/
theorem decided_byName (h : Token.close ∉ ts) :
    Decided (fun rest => byName (ts ++ .close :: rest)) (Within ts) := by
  cases ts with
  | nil => exact .error fun rest => ⟨_, rfl⟩
  | cons t ts =>
    by_cases ht : t = .plain '\x7b'
    · subst ht
      rw [List.mem_cons, not_or] at h
      by_cases hbrace : .plain '\x7d' ∈ ts
      · obtain ⟨name, rest', rfl, hname⟩ := List.eq_append_cons_of_mem hbrace
        simp only [List.cons_append, List.append_assoc, byName,
          Token.untilTerminator_closed hname []]
        by_cases hempty : name = []
        · subst hempty
          exact .error fun rest => ⟨_, rfl⟩
        · have hfound : (([] : List Token).isEmpty && name.isEmpty) = false := by simpa using hempty
          simp only [hfound, Bool.false_eq_true, if_false, List.reverse_nil, List.nil_append]
          cases hnamed : Text.charNamed? (Token.texts name) with
          | none => exact .error fun rest => ⟨_, by simp only [bind, Except.bind, hnamed]; rfl⟩
          | some n =>
            refine .ok (a := (.char n, name.length + 2)) ?_ fun rest => ?_
            · simp [Within]
            · simp only [bind, Except.bind, hnamed, List.length_nil, Nat.zero_add]
      · -- the closing brace is looked for behind the end of the class
        refine .error fun rest => ?_
        simp only [List.cons_append, byName]
        cases hread : Token.untilTerminator '\x7d' (Text.ofString "character name") []
            (ts ++ .close :: rest) with
        | error trouble => exact ⟨trouble, rfl⟩
        | ok reading =>
          have hclose := Token.close_mem_of_untilTerminator hbrace hread (by decide)
          simp only [bind, Except.bind, charNamed?_close hclose]
          exact ⟨_, rfl⟩
    · refine .error fun rest => ?_
      rw [List.cons_append, byName]
      · exact ⟨_, rfl⟩
      · intro us hus
        exact ht (List.cons.inj hus).1

theorem decided_byOctal (c : CodePoint) (ts : List Token) :
    Decided (fun rest =>
      let more := Token.takePlain Token.isOctal 2 (ts ++ .close :: rest)
      byOctal (c :: more) more.length (ts ++ .close :: rest)) (Within ts) := by
  have hlength := Token.takePlain_length Token.isOctal 2 ts
  simp only [Token.takePlain_close (p := Token.isOctal) (by decide), byOctal]
  split
  · exact .error fun rest => ⟨_, rfl⟩
  · exact .ok (a := (.char _, _)) hlength.2 fun rest => rfl

/-- The meaning of an escape in a class is settled before the end of the class. -/
theorem decided_inClass (c : CodePoint) (h : Token.close ∉ ts) :
    Decided (fun rest => inClass c (ts ++ .close :: rest)) (Within ts) := by
  have hzero : ∀ meaning, Within ts (meaning, 0) := fun _ => Nat.zero_le _
  unfold inClass
  cases control? c with
  | some n => exact .ok (hzero _) fun rest => rfl
  | none =>
    by_cases hbell : c = 'b'
    · simp only [hbell, if_true]
      exact .ok (hzero _) fun rest => rfl
    simp only [hbell, if_false]
    cases category? c with
    | some kind => exact .ok (hzero _) fun rest => rfl
    | none =>
      by_cases hcommon : c ∈ [.char 'x', .char 'u', .char 'U', .char 'N']
      · simp only [List.mem_cons, List.not_mem_nil, or_false] at hcommon
        rcases hcommon with rfl | rfl | rfl | rfl
        · exact decided_byNumber 'x' 2 ts
        · exact decided_byNumber 'u' 4 ts
        · exact decided_byNumber 'U' 8 ts
        · exact decided_byName h
      · have hnone : ∀ rest, common? c rest = none := by
          intro rest
          unfold common?
          split <;> first | rfl | exact absurd (by decide) hcommon
        simp only [hnone]
        cases Token.isOctal c with
        | true => exact decided_byOctal c ts
        | false =>
          simp only [Bool.false_eq_true, if_false, plain]
          cases Text.isAsciiLetter c || Text.isAsciiDigit c with
          | true => exact .error fun rest => ⟨_, rfl⟩
          | false => exact .ok (hzero _) fun rest => rfl

end Escape

namespace Bracket

variable {ts : List Token}

theorem decided_element (t : Token) (h : Token.close ∉ ts) :
    Decided (fun rest => element t (ts ++ .close :: rest)) (Escape.Within ts) := by
  cases t with
  | plain c => exact .ok (a := (.char c.toNat, 0)) (Nat.zero_le _) fun rest => rfl
  | escape c => exact Escape.decided_inClass c h

/-! ## 3. The members of a class -/

section equations

variable {opened read n m : Nat} {found : List ClassItem} {t u : Token} {rest more : List Token}
  {low high : Escape.Meaning}

theorem members_close (h : found ≠ []) :
    members opened found read (.close :: rest) = .ok (found.reverse, read + 1) := by
  have hfound : found.isEmpty = false := by simpa using h
  rw [members, if_pos (by simp [hfound])]

theorem members_error (ht : t = .close → found = []) {trouble : Trouble} (h : element t rest = .error trouble) :
    members opened found read (t :: rest) = .error trouble := by
  rw [members, if_neg (by simpa using ht), h]

/-- A hyphen in front of the end is a member. -/
theorem members_hyphen (ht : t = .close → found = []) (h : element t rest = .ok (low, n))
    (hrest : rest.drop n = .plain '-' :: .close :: more) :
    members opened found read (t :: rest) =
      .ok ((.single 45 :: itemOf low :: found).reverse, read + n + 3) := by
  rw [members, if_neg (by simpa using ht), h]
  simp only
  split
  · next he => cases hrest.symm.trans he
  · next he =>
    cases hrest.symm.trans he
    rw [if_pos rfl]
  · next hnone => exact absurd hrest (hnone _ _)

/-- A hyphen between two members makes a range of them. -/
theorem members_range (opened read : Nat) (found : List ClassItem) (ht : t = .close → found = [])
    (h : element t rest = .ok (low, n)) (hrest : rest.drop n = .plain '-' :: u :: more) (hu : u ≠ .close) :
    members opened found read (t :: rest) =
      match element u more with
      | .error trouble => .error trouble
      | .ok (high, m) =>
        match range? low high with
        | none => .error (Token.trouble (.badRange t.text u.text) (more.drop m) (t.width + 1 + u.width))
        | some item =>
          members (opened + (t.width + Token.totalWidth (rest.take n)) + 1 + u.width +
            Token.totalWidth (more.take m)) (item :: found) (read + n + 3 + m) (more.drop m) := by
  rw [members, if_neg (by simpa using ht), h]
  simp only
  split
  · next he => cases hrest.symm.trans he
  · next he =>
    cases hrest.symm.trans he
    exact if_neg hu
  · next hnone => exact absurd hrest (hnone _ _)

theorem members_single (ht : t = .close → found = []) (h : element t rest = .ok (low, n))
    (hrest : (rest.drop n).head? ≠ some (.plain '-')) :
    members opened found read (t :: rest) =
      members (opened + (t.width + Token.totalWidth (rest.take n))) (itemOf low :: found) (read + n + 1)
        (rest.drop n) := by
  rw [members, if_neg (by simpa using ht), h]
  simp only
  split
  · next he => exact absurd (congrArg List.head? he) hrest
  · next he => exact absurd (congrArg List.head? he) hrest
  · rfl

end equations

/-- The members of a class, with the number of tokens up to its end. -/
def Complete (read : Nat) (ts : List Token) (reading : List ClassItem × Nat) : Prop :=
  reading.2 = read + ts.length + 1

/-- The outcome is decided if that of the tokens that are left is. -/
theorem decided_of_left {us : List Token} {opened opened' read read' : Nat} {found found' : List ClassItem}
    (hsame : ∀ rest, members opened found read (ts ++ .close :: rest) =
      members opened' found' read' (us ++ .close :: rest))
    (hcount : read' + us.length = read + ts.length)
    (h : Decided (fun rest => members opened' found' read' (us ++ .close :: rest)) (Complete read' us)) :
    Decided (fun rest => members opened found read (ts ++ .close :: rest)) (Complete read ts) := by
  refine Decided.congr ?_ hsame
  rcases h with ⟨reading, hreading, hread⟩ | herror
  · refine .ok (a := reading) ?_ hread
    show reading.2 = read + ts.length + 1
    rw [← hcount]
    exact hreading
  · exact .error herror

/-- Up to a number of tokens, further members before the end of a class settle what is read of it. -/
def DecidedUpTo (length : Nat) : Prop :=
  ∀ us : List Token, us.length ≤ length → Token.close ∉ us →
    ∀ (found : List ClassItem) (opened read : Nat), found ≠ [] →
      Decided (fun rest => members opened found read (us ++ .close :: rest)) (Complete read us)

section member

variable {t : Token} {low : Escape.Meaning} {n : Nat} {found : List ClassItem} (ht : t = .close → found = [])
  (hn : n ≤ ts.length) (hlow : ∀ rest, element t (ts ++ .close :: rest) = .ok (low, n)) (opened read : Nat)

include ht hn hlow

theorem decided_hyphen (hleft : ts.drop n = [.plain '-']) :
    Decided (fun rest => members opened found read (t :: ts ++ .close :: rest)) (Complete read (t :: ts)) := by
  have hdrop : ∀ rest, (ts ++ Token.close :: rest).drop n = .plain '-' :: .close :: rest := by
    intro rest
    rw [List.drop_append_of_le_length hn, hleft]
    rfl
  refine .ok (a := (_, read + n + 3)) ?_ fun rest => members_hyphen ht (hlow rest) (hdrop rest)
  have hlength := congrArg List.length hleft
  rw [List.length_drop, List.length_singleton] at hlength
  show read + n + 3 = read + (ts.length + 1) + 1
  omega

theorem decided_range {u : Token} {us : List Token} (hclose : Token.close ∉ ts)
    (hleft : ts.drop n = .plain '-' :: u :: us) (hdecided : DecidedUpTo ts.length) :
    Decided (fun rest => members opened found read (t :: ts ++ .close :: rest)) (Complete read (t :: ts)) := by
  have hafter : Token.close ∉ ts.drop n := fun h => hclose (List.mem_of_mem_drop h)
  rw [hleft, List.mem_cons, List.mem_cons, not_or, not_or] at hafter
  obtain ⟨-, hu, hus⟩ := hafter
  have hlength := congrArg List.length hleft
  simp only [List.length_drop, List.length_cons] at hlength
  have hdrop : ∀ rest, (ts ++ Token.close :: rest).drop n = .plain '-' :: u :: (us ++ .close :: rest) := by
    intro rest
    rw [List.drop_append_of_le_length hn, hleft]
    rfl
  have hrange := fun rest => members_range opened read found ht (hlow rest) (hdrop rest) (Ne.symm hu)
  rcases decided_element u hus with ⟨⟨high, m⟩, hm, hhigh⟩ | herror
  · change m ≤ us.length at hm
    have hhigh : ∀ rest, element u (us ++ .close :: rest) = .ok (high, m) := hhigh
    cases hitem : range? low high with
    | none =>
      refine .error fun rest => ?_
      have he := hrange rest
      simp only [hhigh rest, hitem] at he
      exact ⟨_, he⟩
    | some item =>
      have hmore : (us.drop m).length = us.length - m := List.length_drop
      have hend : Token.close ∉ us.drop m := fun h => hus (List.mem_of_mem_drop h)
      refine decided_of_left (fun rest => ?_) ?_ (hdecided (us.drop m) (by omega) hend (item :: found)
        (opened + (t.width + Token.totalWidth (ts.take n)) + 1 + u.width + Token.totalWidth (us.take m))
        (read + n + 3 + m) (List.cons_ne_nil _ _))
      · refine (hrange rest).trans ?_
        simp only [hhigh rest, hitem, List.take_append_of_le_length hn, List.drop_append_of_le_length hm,
          List.take_append_of_le_length hm]
      · simp only [List.length_cons]
        omega
  · refine .error fun rest => ?_
    obtain ⟨trouble, he⟩ := herror rest
    have he : element u (us ++ .close :: rest) = .error trouble := he
    refine ⟨trouble, (hrange rest).trans ?_⟩
    simp only [he]

theorem decided_single (hclose : Token.close ∉ ts) (hleft : (ts.drop n).head? ≠ some (.plain '-'))
    (hdecided : DecidedUpTo ts.length) :
    Decided (fun rest => members opened found read (t :: ts ++ .close :: rest)) (Complete read (t :: ts)) := by
  have hend : Token.close ∉ ts.drop n := fun h => hclose (List.mem_of_mem_drop h)
  have hlength : (ts.drop n).length = ts.length - n := List.length_drop
  have hhead : ∀ rest, ((ts ++ Token.close :: rest).drop n).head? ≠ some (.plain '-') := by
    intro rest
    rw [List.drop_append_of_le_length hn]
    cases hts : ts.drop n with
    | nil => simp
    | cons u us =>
      rw [hts] at hleft
      simpa using hleft
  refine decided_of_left (fun rest => ?_) ?_ (hdecided (ts.drop n) (by omega) hend (itemOf low :: found)
    (opened + (t.width + Token.totalWidth (ts.take n))) (read + n + 1) (List.cons_ne_nil _ _))
  · refine (members_single ht (hlow rest) (hhead rest)).trans ?_
    rw [List.drop_append_of_le_length hn, List.take_append_of_le_length hn]
  · simp only [List.length_cons]
    omega

end member

/-- A member and what is left after it settle what is read of a class. -/
theorem decided_member {t : Token} {found : List ClassItem} (ht : t = .close → found = [])
    (hclose : Token.close ∉ ts) (opened read : Nat) (hdecided : DecidedUpTo ts.length) :
    Decided (fun rest => members opened found read (t :: ts ++ .close :: rest)) (Complete read (t :: ts)) := by
  rcases decided_element t hclose with ⟨⟨low, n⟩, hn, hlow⟩ | herror
  · by_cases hhyphen : (ts.drop n).head? = some (.plain '-')
    · obtain ⟨us, hus⟩ := List.head?_eq_some_iff.mp hhyphen
      cases us with
      | nil => exact decided_hyphen ht hn hlow opened read hus
      | cons u us => exact decided_range ht hn hlow opened read hclose hus hdecided
    · exact decided_single ht hn hlow opened read hclose hhyphen hdecided
  · refine .error fun rest => ?_
    obtain ⟨trouble, he⟩ := herror rest
    exact ⟨trouble, members_error ht he⟩

theorem decidedUpTo (length : Nat) : DecidedUpTo length := by
  -- the induction is on the number of tokens: an element takes some that follow it
  induction length with
  | zero =>
    intro us hlength _ found opened read hfound
    obtain rfl := List.length_eq_zero_iff.mp (Nat.le_zero.mp hlength)
    exact .ok (a := (found.reverse, read + 1)) rfl fun rest => members_close hfound
  | succ length ih =>
    intro us hlength hclose found opened read hfound
    cases us with
    | nil => exact .ok (a := (found.reverse, read + 1)) rfl fun rest => members_close hfound
    | cons u us =>
      have hle : us.length ≤ length := Nat.le_of_succ_le_succ hlength
      rw [List.mem_cons, not_or] at hclose
      exact decided_member (absurd · (Ne.symm hclose.1)) hclose.2 opened read fun vs hvs =>
        ih vs (Nat.le_trans hvs hle)

/-- The members before the end of a class settle what is read of it, wherever it stands. -/
theorem decided_members (hclose : Token.close ∉ ts.tail) (hne : ts ≠ []) (opened read : Nat) :
    Decided (fun rest => members opened [] read (ts ++ .close :: rest)) (Complete read ts) := by
  obtain ⟨t, us, rfl⟩ := List.exists_cons_of_ne_nil hne
  exact decided_member (fun _ => rfl) hclose opened read (decidedUpTo us.length)

/-- What stands between the brackets of a class: it is not empty, holds no token that would close the class, which
one in front does not, and does not negate it. -/
structure Delimited (negated : Bool) (ts : List Token) : Prop where
  nonempty : ts ≠ []
  inner : Token.close ∉ ts.tail
  caret : negated = false → ts.head? ≠ some (.plain '^')

/-- The members of a class: they are not empty, hold no token that would close the class, and do not negate
it. -/
structure IsMembers (negated : Bool) (ts : List Token) : Prop where
  nonempty : ts ≠ []
  inner : Token.close ∉ ts
  caret : negated = false → ts.head? ≠ some (.plain '^')

theorem IsMembers.delimited {negated : Bool} (h : IsMembers negated ts) : Delimited negated ts where
  nonempty := h.nonempty
  inner hclose := h.inner (List.mem_of_mem_tail hclose)
  caret := h.caret

/-- The token that negates a class. -/
def negation (negated : Bool) : List Token := if negated then [.plain '^'] else []

/-- To read a class is to read its members, after what negates it. -/
theorem read_of_members {negated : Bool} (h : Delimited negated ts) (rest : List Token) :
    read (negation negated ++ ts ++ .close :: rest) =
      (members (1 + (negation negated).length) [] (negation negated).length (ts ++ .close :: rest)).map
        fun found => { negated := negated, items := found.1, count := found.2 } := by
  cases negated with
  | true => rfl
  | false =>
    obtain ⟨t, us, rfl⟩ := List.exists_cons_of_ne_nil h.nonempty
    have hcaret : t ≠ .plain '^' := fun he => h.caret rfl (by rw [he]; rfl)
    simp only [negation, Bool.false_eq_true, if_false, List.nil_append, List.cons_append, read]
    split
    · next he => exact absurd (List.cons.inj he).1 hcaret
    · rfl

/-- What is read of a class is settled by its members. -/
theorem decided_read {negated : Bool} (h : Delimited negated ts) :
    Decided (fun rest => read (negation negated ++ ts ++ .close :: rest)) fun reading =>
      reading.negated = negated ∧ reading.count = (negation negated).length + ts.length + 1 := by
  refine Decided.congr ?_ (read_of_members h)
  rcases decided_members h.inner h.nonempty (1 + (negation negated).length) (negation negated).length with
    ⟨found, hcount, hfound⟩ | herror
  · refine .ok (a := { negated := negated, items := found.1, count := found.2 }) ⟨rfl, hcount⟩ ?_
    exact fun rest => congrArg (Except.map _) (hfound rest)
  · refine .error fun rest => ?_
    obtain ⟨trouble, he⟩ := herror rest
    exact ⟨trouble, congrArg (Except.map _) he⟩

end Bracket

/-! ## 4. Classes as items -/

/-- Tokens are refused wherever they stand. -/
def Fails (ts : List Token) : Prop :=
  ∀ (s : State) (rest : List Token), s.frame.verbose = false →
    ∃ trouble, readTokens s (ts ++ rest) = .error trouble

/-- The tokens of a class. -/
def bracketed (negated : Bool) (ts : List Token) : List Token :=
  .plain '[' :: (Bracket.negation negated ++ ts ++ [.close])

theorem bracketed_proper {negated : Bool} {ts : List Token} (h : ∀ t ∈ ts, t.IsProper) :
    ∀ t ∈ bracketed negated ts, t.IsProper := by
  have hnegation : ∀ t ∈ Bracket.negation negated, t.IsProper := by
    cases negated <;> simp [Bracket.negation, Token.IsProper]
  have hopen : Token.IsProper (.plain (.char '[')) := show CodePoint.char '[' ≠ '\\' by decide
  have hclose : Token.close.IsProper := show CodePoint.char ']' ≠ '\\' by decide
  exact List.forall_mem_cons.mpr ⟨hopen, List.forall_mem_append.mpr
    ⟨List.forall_mem_append.mpr ⟨hnegation, h⟩, List.forall_mem_singleton.mpr hclose⟩⟩

/-- What follows the opening bracket of a class, in front of other tokens. -/
theorem bracketed_append (negated : Bool) (ts rest : List Token) :
    bracketed negated ts ++ rest =
      .plain '[' :: (Bracket.negation negated ++ ts ++ .close :: rest) := by
  simp [bracketed]

theorem step_bracket {s : State} (hs : s.frame.verbose = false) (rest : List Token) :
    step s (.plain '[') rest = (Bracket.read rest).map fun reading =>
      (s.push (.charClass reading.negated reading.items), reading.count) := by
  unfold step
  simp only [hs, Bool.false_and, Bool.false_eq_true, if_false]
  cases Bracket.read rest <;> rfl

section bracketed

variable {negated : Bool} {ts : List Token}

/-- A class that is read up to its end is one item that can be repeated. -/
theorem readAsAtom_of_read {items : List ClassItem} {count : Nat}
    (hcount : count = (Bracket.negation negated).length + ts.length + 1)
    (hread : ∀ rest, Bracket.read (Bracket.negation negated ++ ts ++ .close :: rest) =
      .ok { negated := negated, items := items, count := count }) :
    ReadAsAtom (bracketed negated ts) (.charClass negated items) := by
  intro s rest hs
  have hdrop : (Bracket.negation negated ++ ts ++ .close :: rest).drop count = rest := by
    have hlength : count = (Bracket.negation negated ++ ts ++ [Token.close]).length := by
      simp [hcount, Nat.add_assoc]
    rw [hlength, List.append_cons _ _ rest]
    exact List.drop_left
  have hstep := step_bracket hs (Bracket.negation negated ++ ts ++ .close :: rest)
  rw [hread rest] at hstep
  rw [bracketed_append, readTokens_cons hstep, hdrop]

/-- One that is not read is refused. -/
theorem fails_of_read (herror : ∀ rest, ∃ trouble,
    Bracket.read (Bracket.negation negated ++ ts ++ .close :: rest) = .error trouble) :
    Fails (bracketed negated ts) := by
  intro s rest hs
  obtain ⟨trouble, he⟩ := herror rest
  have hstep := step_bracket hs (Bracket.negation negated ++ ts ++ .close :: rest)
  rw [he] at hstep
  refine ⟨trouble, ?_⟩
  rw [bracketed_append, readTokens, hstep]
  rfl

/-- The tokens of a class are one item that can be repeated, or they are refused wherever they stand. -/
theorem readAsAtom_bracketed (h : Bracket.Delimited negated ts) :
    (∃ items, ReadAsAtom (bracketed negated ts) (.charClass negated items)) ∨
      Fails (bracketed negated ts) := by
  rcases Bracket.decided_read h with ⟨⟨_, items, count⟩, ⟨rfl, hcount⟩, hread⟩ | herror
  · exact .inl ⟨items, readAsAtom_of_read hcount hread⟩
  · exact .inr (fails_of_read herror)

end bracketed

end SkipPath.Regex
