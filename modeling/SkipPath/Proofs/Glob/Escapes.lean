import SkipPath.Proofs.Glob.Named
import SkipPath.Proofs.Results

/-!
Escapes within a class.

An escape is put into the class of a regular expression as it is, and there it is the escaped character exactly if
that is no letter or digit, whatever follows it (`element_escape_iff`): a letter or a digit is a kind of characters,
a control character, the beginning of a number or a name, or refused.  With none of these among its escapes, a class
is an expression exactly if its ranges are in order, an escaped hyphen being no sign of a range, and every escape is
a member with one character (`escapes_are_literal`).
-/

namespace SkipPath.Glob

open Regex Regex.Bracket

theorem byNumber_takes {letter : CodePoint} {width n : Nat} {rest : List Token} {meaning : Escape.Meaning}
    (h : Escape.byNumber letter width rest = .ok (meaning, n)) : n = width := by
  simp only [Escape.byNumber] at h
  split_ifs at h
  exact (Prod.mk.inj (Except.ok.inj h)).2.symm

theorem byName_takes {n : Nat} {rest : List Token} {meaning : Escape.Meaning}
    (h : Escape.byName rest = .ok (meaning, n)) : n ≠ 0 := by
  unfold Escape.byName at h
  split at h
  · next rest =>
    obtain ⟨reading, -, h⟩ := bind_eq_ok.mp h
    simp only at h
    split at h
    · rw [← (Prod.mk.inj (Except.ok.inj h)).2]
      exact Nat.succ_ne_zero _
    · cases h
  · cases h

/-- A number or a name takes tokens with it. -/
theorem common?_takes {c : CodePoint} {n : Nat} {rest : List Token} {meaning : Escape.Meaning}
    (h : Escape.common? c rest = some (.ok (meaning, n))) : n ≠ 0 := by
  unfold Escape.common? at h
  split at h
  · exact byNumber_takes (Option.some.inj h) ▸ by decide
  · exact byNumber_takes (Option.some.inj h) ▸ by decide
  · exact byNumber_takes (Option.some.inj h) ▸ by decide
  · exact byName_takes (Option.some.inj h)
  · cases h

/-- The only character with an escape of its own that is itself is the backslash. -/
theorem control?_self {c : CodePoint} (h : Escape.control? c = some c.toNat) : c = '\\' := by
  unfold Escape.control? at h
  split at h <;> first | rfl | cases h

/-- An octal digit stands for another character than itself. -/
theorem byOctal_ne {c : CodePoint} (hc : Token.isOctal c = true) (rest : List Token) :
    Escape.byOctal [c] 0 rest ≠ .ok (.char c.toNat, 0) := by
  intro h
  obtain ⟨hzero, hseven⟩ : '0' ≤ c ∧ c ≤ '7' := by simpa [Token.isOctal] using hc
  have hnumber : 48 ≤ c.toNat := hzero
  have hdigit : Text.isAsciiDigit c = true := by
    have hnine : c ≤ '9' := CodePoint.le_trans hseven (show CodePoint.char '7' ≤ '9' by decide)
    simp [Text.isAsciiDigit, hzero, hnine]
  have hvalue : c.toNat - 48 = c.toNat := by
    simp only [Escape.byOctal] at h
    split_ifs at h
    simpa [Token.number, Token.hexValue, hdigit] using Escape.Meaning.char.inj (Prod.mk.inj (Except.ok.inj h)).1
  omega

theorem byOctal_takes {digits : Text} {count n : Nat} {rest : List Token} {meaning : Escape.Meaning}
    (h : Escape.byOctal digits count rest = .ok (meaning, n)) : n = count := by
  simp only [Escape.byOctal] at h
  split_ifs at h
  exact (Prod.mk.inj (Except.ok.inj h)).2.symm

/-- An escape of a letter or digit is never the letter or digit itself. -/
theorem isSymbol_of_inClass {c : CodePoint} {rest : List Token}
    (h : Escape.inClass c rest = .ok (.char c.toNat, 0)) : IsSymbol c := by
  unfold Escape.inClass at h
  split at h
  · next n hcontrol =>
    obtain rfl := Escape.Meaning.char.inj (Prod.mk.inj (Except.ok.inj h)).1
    rw [control?_self hcontrol]
    decide
  split at h
  · next hbell =>
    subst hbell
    exact absurd (Escape.Meaning.char.inj (Prod.mk.inj (Except.ok.inj h)).1) (by decide)
  split at h
  · cases h
  split at h
  · next reading hcommon =>
    subst h
    exact absurd rfl (common?_takes hcommon)
  split at h
  · next hoctal =>
    have hnone : Token.takePlain Token.isOctal 2 rest = [] := List.length_eq_zero_iff.mp (byOctal_takes h).symm
    rw [hnone] at h
    exact absurd h (byOctal_ne hoctal rest)
  · unfold Escape.plain at h
    split at h
    · cases h
    · next hplain => simpa [IsSymbol] using hplain

/-- An escape in a class is the escaped character exactly if that is no letter or digit, whatever follows. -/
theorem element_escape_iff {c : CodePoint} (rest : List Token) :
    element (.escape c) rest = .ok (.char c.toNat, 0) ↔ IsSymbol c :=
  ⟨isSymbol_of_inClass, fun h => Escape.inClass_symbol h.1 h.2 rest⟩

/-- **Escapes of symbols are literal.**  An escape in a class is read as the escaped character exactly if that is no
letter or digit, whatever stands behind it.  A class with escapes, all of which are of that kind, is an expression
exactly if the ranges in the row of its atoms are in order, in which an escape is an atom with the escaped
character.  Then it finds the characters of the spans of that row, which are those of its components if no hyphen
joins a name. -/
theorem escapes_are_literal {t body after : Text} {x : CodePoint} (hclose : closeClass t = some (body, after))
    (hescaped : .escaped x ∈ elementsOf (splitNegation body).2) :
    (∀ rest, element (.escape x) rest = .ok (.char x.toNat, 0) ↔ IsSymbol x) ∧
    (SymbolsEscaped (elementsOf (splitNegation body).2) →
      ((∃ e, parse (convertClass body) = .ok e) ↔ ∀ s ∈ spans (atomsIn body), s.inOrder = true) ∧
      ∀ e, parse (convertClass body) = .ok e → ∀ c,
        e.search [c] = ((spans (atomsIn body)).any (·.item.holds false c) != (splitNegation body).1) ∧
        (unjoined (elementsOf (splitNegation body).2) = true → e.search [c] = inNamed body c)) := by
  refine ⟨fun rest => element_escape_iff rest, fun hsymbols => ?_⟩
  have hspelled : isOneLetter (splitNegation body).2 = false :=
    isOneLetter_of_element hescaped (show Text.isLetter '\\' = false from rfl)
  refine ⟨⟨fun ⟨e, hparse⟩ => ((parse_elements hclose hspelled hsymbols).mp hparse).1, fun hordered =>
    ⟨_, (parse_elements hclose hspelled hsymbols).mpr ⟨hordered, rfl⟩⟩⟩, fun e hparse c => ?_⟩
  exact ⟨search_elements hclose hspelled hsymbols hparse c,
    fun h => search_unjoined hclose hspelled hsymbols h hparse c⟩

/-- A hyphen and two brackets between letters. -/
theorem escapes_are_literal_hyphen : ∃ e, parse (convertClass (Text.ofString "a\\-z\\]\\[")) = .ok e ∧
    ∀ c, e.search [c] = true ↔ c ∈ [.char 'a', .char '-', .char 'z', .char ']', .char '['] := by
  have helements : elementsOf (splitNegation (Text.ofString "a\\-z\\]\\[")).2 =
      [.plain 'a', .escaped '-', .plain 'z', .escaped ']', .escaped '['] := by decide +kernel
  have hsymbols : SymbolsEscaped [.plain 'a', .escaped '-', .plain 'z', .escaped ']', .escaped '['] := by
    intro c hc
    simp only [List.mem_cons, List.not_mem_nil, or_false, reduceCtorEq, false_or, Element.escaped.injEq] at hc
    rcases hc with rfl | rfl | rfl <;> decide
  have hclose : closeClass (Text.ofString "a\\-z\\]\\[]") = some (Text.ofString "a\\-z\\]\\[", []) := by
    decide +kernel
  have hescaped : .escaped '-' ∈ elementsOf (splitNegation (Text.ofString "a\\-z\\]\\[")).2 := by
    rw [helements]
    decide
  obtain ⟨-, hliteral⟩ := escapes_are_literal hclose hescaped
  obtain ⟨hcompiles, hsearch⟩ := hliteral (by rwa [helements])
  obtain ⟨e, hparse⟩ := hcompiles.mpr (by decide +kernel)
  refine ⟨e, hparse, fun c => ?_⟩
  have hnegated : (splitNegation (Text.ofString "a\\-z\\]\\[")).1 = false := by decide +kernel
  rw [(hsearch e hparse c).2 (by decide +kernel), inNamed, helements, hnegated]
  simp [componentsOf, Component.holds]

/-- The escape of a letter is a kind of characters that the letter is not of. -/
theorem escape_not_literal : ∃ t body after x e, closeClass t = some (body, after) ∧
    (splitNegation body).1 = false ∧ .escaped x ∈ elementsOf (splitNegation body).2 ∧
      parse (convertClass body) = .ok e ∧ e.search [x] = false ∧ e.search ['5'] = true := by
  have hfinds : (parse (convertClass (Text.ofString "\\d"))).toOption.any
      (fun e => !e.search ['d'] && e.search ['5']) = true := by decide +kernel
  obtain ⟨e, hparse, hfinds⟩ := exists_ok _ _ hfinds
  obtain ⟨hletter, hfive⟩ : e.search ['d'] = false ∧ e.search ['5'] = true := by simpa using hfinds
  exact ⟨Text.ofString "\\d]", Text.ofString "\\d", [], 'd', e, by decide +kernel, by decide +kernel,
    by decide +kernel, hparse, hletter, hfive⟩

end SkipPath.Glob
