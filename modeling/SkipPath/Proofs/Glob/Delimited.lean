import SkipPath.Proofs.Glob.Classes

/-!
Where a class ends, in a glob and as it is written.

In a glob the bracket that closes a class is found by one scan (`classEnd?`), which takes a name in `[:` and `:]` with
all that is in it, whether there is such a name or not.  What is written for the class comes from another scan, which
takes only the names it knows and goes through any other character by character.  Still no backslash is left over at
the end of what is written, and every bracket in it has a backslash of its own (`bracketsEscaped_members`).

Texts of that kind are given by a small grammar (`BracketsEscaped`).  A reader that takes each backslash together with
the character behind it passes over them, whatever follows (`BracketsEscaped.firstClose?_append`), so that it ends the
class at the last character that is written for it.  The reader of regular expressions, which also takes digits and
names together with their escapes, ends it there too, unless it refuses it (`decided_convertClass`).
-/

namespace SkipPath.Glob

open Regex

/-! ## 1. Texts without a bare bracket -/

/-- Texts in which each bracket stands behind a backslash of its own, and each backslash in front of a character. -/
inductive BracketsEscaped : Text → Prop
  | nil : BracketsEscaped []
  | escape {c : CodePoint} {t : Text} : BracketsEscaped t → BracketsEscaped ('\\' :: c :: t)
  | plain {c : CodePoint} {t : Text} : c ∉ [.char '\\', .char '[', .char ']'] → BracketsEscaped t →
      BracketsEscaped (c :: t)

/-- The position of the first `]` for a reader that takes each backslash together with the character behind it. -/
def firstClose? : Text → Option Nat
  | [] => none
  | ['\\'] => none
  | '\\' :: _ :: rest => (firstClose? rest).map (· + 2)
  | c :: rest => if c = ']' then some 0 else (firstClose? rest).map (· + 1)

theorem firstClose?_cons {c : CodePoint} (hbackslash : c ≠ '\\') (hclose : c ≠ ']') (t : Text) :
    firstClose? (c :: t) = (firstClose? t).map (· + 1) := by
  rw [firstClose?, if_neg hclose]
  · exact fun he => absurd he hbackslash
  · exact fun _ _ he => absurd he hbackslash

/-- Such a text is passed over: the first bracket is the one behind it. -/
theorem BracketsEscaped.firstClose?_append {t : Text} (h : BracketsEscaped t) (rest : Text) :
    firstClose? (t ++ .char ']' :: rest) = some t.length := by
  induction h with
  | nil => rfl
  | escape _ ih => simp [firstClose?, ih]
  | plain hc _ ih =>
    simp only [List.mem_cons, List.not_mem_nil, or_false, not_or] at hc
    rw [List.cons_append, firstClose?_cons hc.1 hc.2.2, ih]
    rfl

/-- A text is of this kind if its tokens are: none is a bracket, and no backslash is left. -/
theorem bracketsEscaped_of_scan {t : Text} (hpaired : (Token.scan t).2 = false)
    (hbare : ∀ b : CodePoint, b = '[' ∨ b = ']' → Token.plain b ∉ (Token.scan t).1) : BracketsEscaped t := by
  fun_induction Token.scan t with
  | case1 => exact .nil
  | case2 => cases hpaired
  | case3 c rest tokens dangling hscan ih =>
    simp only [hscan, List.mem_cons, reduceCtorEq, false_or] at ih hbare
    exact .escape (ih hpaired hbare)
  | case4 c rest hlone hescape tokens dangling hscan ih =>
    simp only [hscan, List.mem_cons, Token.plain.injEq, not_or] at ih hbare
    refine .plain ?_ (ih hpaired fun b hb => (hbare b hb).2)
    have hopen := (hbare '[' (.inl rfl)).1
    have hclose := (hbare ']' (.inr rfl)).1
    simp [ne_backslash hlone hescape, Ne.symm hopen, Ne.symm hclose]

/-! ## 2. The end of a class -/

/-- The position of the bracket that closes the class opened at a position. -/
def classEnd? (t : Text) (start : Nat) : Option Nat :=
  (closeClass (t.drop (start + 1))).map fun (body, _) => start + 1 + body.length

/-- A class as it is written in a regular expression, and its members there. -/
structure IsWritten (negated : Bool) (written members : Text) : Prop where
  text : written = .char '[' :: (if negated then [.char '^'] else []) ++ members ++ [.char ']']
  nonempty : members ≠ []
  escaped : BracketsEscaped members
  /-- The members do not negate it. -/
  caret : negated = false → members.head? ≠ some (.char '^')

/-- A reader that takes backslashes in pairs ends the class at its last character, whatever follows. -/
theorem IsWritten.firstClose?_append {negated : Bool} {written members : Text} (h : IsWritten negated written members)
    (rest : Text) : firstClose? (written ++ rest) = some (written.length - 1) := by
  have hmembers := h.escaped.firstClose?_append rest
  rw [h.text]
  cases negated with
  | false => simp [firstClose?_cons, hmembers]
  | true => simp [firstClose?_cons, hmembers]

section closed

variable {t body after : Text} (h : closeClass t = some (body, after))
include h

/-- What is written for the members of a class holds no bare bracket. -/
theorem bracketsEscaped_members : BracketsEscaped (convertMembers (normalMembers (splitNegation body).2)) := by
  obtain ⟨hpaired, hne, -⟩ := closeClass_members h
  exact bracketsEscaped_of_scan (normalMembers_kept hpaired hne).1 fun b hb => bracket_not_mem_scan hb _

theorem isWritten_convertClass : IsWritten (splitNegation body).1 (convertClass body)
    (convertMembers (normalMembers (splitNegation body).2)) := by
  obtain ⟨hpaired, hne, hcaret⟩ := closeClass_members h
  obtain ⟨-, hnormal, hhead⟩ := normalMembers_kept hpaired hne
  have hconverted := convertMembers_head (normalMembers (splitNegation body).2)
  exact {
    text := rfl
    nonempty := fun hnil => hnormal (hconverted.2 hnil)
    escaped := bracketsEscaped_members h
    caret := fun hnegated hstart => hcaret hnegated (hhead (hconverted.1 hstart)) }

/-- A class is cut out of a glob as one piece. -/
theorem pieces_of_closeClass : pieces ('[' :: t) = .charClass body :: pieces after := by
  rw [pieces]
  split
  · next he =>
    obtain ⟨rfl, rfl⟩ := Prod.mk.inj (Option.some.inj (h.symm.trans he))
    rfl
  · next he => cases h.symm.trans he

/-- The reader of regular expressions decides about a class by what is written for it, and takes all of that or
refuses it. -/
theorem decided_convertClass :
    Decided (fun rest => Bracket.read ((Token.scan (convertClass body)).1.tail ++ rest)) fun reading =>
      reading.negated = (splitNegation body).1 ∧
        reading.count = (Token.scan (convertClass body)).1.tail.length := by
  have hscan : (Token.scan (convertClass body)).1 = bracketed (splitNegation body).1 (memberTokens body) := by
    rw [← texts_memberTokens h, Token.scan_texts (bracketed_proper (memberTokens_proper body))]
  have hlength : (bracketed (splitNegation body).1 (memberTokens body)).tail.length =
      (Bracket.negation (splitNegation body).1).length + (memberTokens body).length + 1 := by
    simp [bracketed, Nat.add_assoc]
  rw [hscan, hlength]
  refine Decided.congr (Bracket.decided_read (isMembers_memberTokens h).delimited) fun rest => ?_
  simp [bracketed]

end closed

/-! ## 3. Classes by their positions -/

/-- A class with this body is written so that it ends at the last character written for it. -/
structure DelimitsItself (body : Text) : Prop where
  nonempty : (splitNegation body).2 ≠ []
  written : ∃ members, IsWritten (splitNegation body).1 (convertClass body) members
  closed : ∀ rest, firstClose? (convertClass body ++ rest) = some ((convertClass body).length - 1)
  /-- What is read of it, if it is not refused, is all of it and nothing else. -/
  read : Decided (fun rest => Bracket.read ((Token.scan (convertClass body)).1.tail ++ rest)) fun reading =>
    reading.negated = (splitNegation body).1 ∧ reading.count = (Token.scan (convertClass body)).1.tail.length

theorem delimitsItself_of_closeClass {t body after : Text} (h : closeClass t = some (body, after)) :
    DelimitsItself body where
  nonempty := (closeClass_members h).2.1
  written := ⟨_, isWritten_convertClass h⟩
  closed := (isWritten_convertClass h).firstClose?_append
  read := decided_convertClass h

section positions

variable {t : Text} {start stop : Nat} (hend : classEnd? t start = some stop)
include hend

/-- A class that is closed, by its positions. -/
theorem closeClass_of_classEnd? :
    closeClass (t.drop (start + 1)) = some (t.extract (start + 1) stop, t.drop (stop + 1)) ∧
      t[stop]? = some (.char ']') := by
  obtain ⟨⟨body, after⟩, hclose, rfl⟩ := Option.map_eq_some_iff.mp hend
  have hsplit := closeClass_split hclose
  have hbody : t.extract (start + 1) (start + 1 + body.length) = body := by
    rw [List.extract_eq_take_drop, hsplit, Nat.add_sub_cancel_left, List.take_left]
  have hafter : t.drop (start + 1 + body.length + 1) = after := by
    rw [Nat.add_assoc, ← List.drop_drop, hsplit, ← List.drop_drop, List.drop_left]
    rfl
  have hbracket : t[start + 1 + body.length]? = some (.char ']') := by
    rw [← List.getElem?_drop, hsplit, List.getElem?_append_right (Nat.le_refl _), Nat.sub_self]
    rfl
  rw [hbody, hafter]
  exact ⟨hclose, hbracket⟩

/-- **A class delimits itself.**  The class that is opened at a bracket and closed at another has members between the
two, after what negates it.  It is cut out of the glob as one piece, and written as a class with members in which
every bracket is escaped and no backslash is left over.  So it ends at the last character that is written for it, for
a reader that only pairs backslashes as for the one of regular expressions. -/
theorem class_delimits_itself (hopen : t[start]? = some (.char '[')) :
    start + 1 < stop ∧ t[stop]? = some (.char ']') ∧
    pieces (t.drop start) = .charClass (t.extract (start + 1) stop) :: pieces (t.drop (stop + 1)) ∧
    DelimitsItself (t.extract (start + 1) stop) := by
  obtain ⟨hclose, hbracket⟩ := closeClass_of_classEnd? hend
  have hdelimits := delimitsItself_of_closeClass hclose
  refine ⟨?_, hbracket, ?_, hdelimits⟩
  · by_contra hnot
    have hempty : t.extract (start + 1) stop = [] := by
      rw [List.extract_eq_take_drop, Nat.sub_eq_zero_of_le (Nat.not_lt.mp hnot), List.take_zero]
    exact hdelimits.nonempty (by rw [hempty]; rfl)
  · obtain ⟨hlt, hget⟩ := List.getElem?_eq_some_iff.mp hopen
    rw [List.drop_eq_getElem_cons hlt, hget]
    exact pieces_of_closeClass hclose

end positions

/-- A negated class with a name that there is not, and a backslash in the name: the name is written character by
character, with the backslash in front of a colon and the bracket behind it escaped. -/
theorem class_delimits_itself_unknown_name :
    classEnd? (Text.ofString "a[![:\\:].]b]") 1 = some 9 ∧ (Text.ofString "a[![:\\:].]b]")[1]? = some (.char '[') ∧
    convertClass (Text.ofString "![:\\:].") = Text.ofString "[^\\[:\\:\\]\\.]" ∧
    firstClose? (Text.ofString "[^\\[:\\:\\]\\.]b\\]") = some 11 := by
  have hend : classEnd? (Text.ofString "a[![:\\:].]b]") 1 = some 9 := by decide +kernel
  have hopen : (Text.ofString "a[![:\\:].]b]")[1]? = some (.char '[') := by decide +kernel
  have hconvert : convertClass (Text.ofString "![:\\:].") = Text.ofString "[^\\[:\\:\\]\\.]" := by decide +kernel
  have hclosed := (class_delimits_itself hend hopen).2.2.2.closed (Text.ofString "b\\]")
  have hbody : (Text.ofString "a[![:\\:].]b]").extract 2 9 = Text.ofString "![:\\:]." := by decide +kernel
  rw [hbody, hconvert] at hclosed
  exact ⟨hend, hopen, hconvert, hclosed⟩

end SkipPath.Glob
