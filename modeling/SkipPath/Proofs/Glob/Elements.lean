import SkipPath.Proofs.Glob.Plain
import SkipPath.Proofs.Regex.Members

/-!
The elements of any class, and the atoms they are written as.

The members of a class of a glob are characters, escapes, and names (`elementsOf`).  In the class of a regular
expression each of them is written on its own, as one atom or, for a name, as those of the members it stands for
(`scan_elements`).  The escape of a character that is no letter or digit is that character, and what a name stands
for is read alike wherever it is put (`isRead_atoms`).  So a class whose escapes are of that
kind is an expression exactly if the ranges in the row of all atoms are in order, and then it takes the
characters of the spans of that row (`parse_elements`, `search_elements`).
-/

namespace SkipPath.Glob

open Regex Regex.Bracket

/-! ## 1. Elements -/

/-- An element of the members of a class: a character, an escape, or a name with the members it stands for. -/
inductive Element where
  | plain (c : CodePoint)
  | escaped (c : CodePoint)
  | named (members : Text)
deriving DecidableEq

/-- The elements of the members of a class, from left to right. -/
def elementsOf : Text → List Element
  | [] => []
  | ['\\'] => []
  | '\\' :: c :: rest => .escaped c :: elementsOf rest
  | '[' :: rest =>
    match h : namedClass? rest with
    | some (members, after) =>
      have := namedClass?_length h
      .named members :: elementsOf after
    | none => .plain '[' :: elementsOf rest
  | c :: rest => .plain c :: elementsOf rest
termination_by t => t.length
decreasing_by all_goals simp_all <;> omega

namespace Element

/-- The atoms that an element is written as.  The atom of an escape stands for the escaped character. -/
def atoms : Element → List Atom
  | .plain c => [charAtom c]
  | .escaped c => [{ token := .escape c, meaning := .char c.toNat }]
  | .named members => atomsOf (Token.scan members).1

/-- The character that an element begins with. -/
def first : Element → CodePoint
  | .plain c => c
  | .escaped _ => '\\'
  | .named _ => '['

end Element

/-- The atoms of the members of a class. -/
def atomsIn (body : Text) : List Atom := (elementsOf (splitNegation body).2).flatMap Element.atoms

theorem first_mem {t : Text} {element : Element} (h : element ∈ elementsOf t) : element.first ∈ t := by
  fun_induction elementsOf t with
  | case1 => cases h
  | case2 => cases h
  | case3 c rest ih =>
    rcases List.mem_cons.mp h with rfl | hrest
    · exact List.mem_cons_self
    · exact List.mem_cons_of_mem _ (List.mem_cons_of_mem _ (ih hrest))
  | case4 rest members after hnamed _ ih =>
    rcases List.mem_cons.mp h with rfl | hrest
    · exact List.mem_cons_self
    · obtain ⟨name, rfl, -, -⟩ := namedClass?_some hnamed
      simp [ih hrest]
  | case5 rest hnone ih =>
    rcases List.mem_cons.mp h with rfl | hrest
    · exact List.mem_cons_self
    · exact List.mem_cons_of_mem _ (ih hrest)
  | case6 c rest _ _ _ ih =>
    rcases List.mem_cons.mp h with rfl | hrest
    · exact List.mem_cons_self
    · exact List.mem_cons_of_mem _ (ih hrest)

/-- What names stand for is atoms that are read alike everywhere, with ranges in order. -/
theorem namedClasses_atoms : ∀ entry ∈ namedClasses,
    (atomsOf (Token.scan entry.2).1).flatMap Atom.tokens = (Token.scan entry.2).1 ∧
      (∀ a ∈ atomsOf (Token.scan entry.2).1, a.settled = true) ∧
      ∀ s ∈ spans (atomsOf (Token.scan entry.2).1), s.inOrder = true := by
  decide

/-- Every element is written on its own. -/
theorem scan_elements (t : Text) :
    (Token.scan (convertMembers t)).1 = ((elementsOf t).flatMap Element.atoms).flatMap Atom.tokens := by
  fun_induction elementsOf t with
  | case1 =>
    rw [convertMembers]
    rfl
  | case2 => simp [convertMembers, Token.scan]
  | case3 c rest ih =>
    rw [convertMembers, Token.scan_escape, ih]
    rfl
  | case4 rest members after hnamed _ ih =>
    obtain ⟨-, -, -, entry, hentry, rfl⟩ := namedClass?_some hnamed
    have hwritten : convertMembers ('[' :: rest) = entry.2 ++ convertMembers after := by
      rw [convertMembers]
      split
      · next hsome =>
        cases hnamed.symm.trans hsome
        rfl
      · next hnone => cases hnamed.symm.trans hnone
    rw [hwritten, Token.scan_append (namedClasses_scan entry hentry).1, ih, List.flatMap_cons, List.flatMap_append,
      Element.atoms, (namedClasses_atoms entry hentry).1]
  | case5 rest hnone ih =>
    rw [scan_convertMembers_cons (by decide) fun _ => hnone, ih]
    rfl
  | case6 c rest hlone hescape hopen ih =>
    rw [scan_convertMembers_cons (ne_backslash hlone hescape) fun he => absurd he hopen, ih]
    rfl

/-- Members with an escape or a name are no letters only, so that they are left as they are spelled. -/
theorem isOneLetter_of_element {members : Text} {element : Element} (h : element ∈ elementsOf members)
    (hfirst : Text.isLetter element.first = false) : isOneLetter members = false := by
  rw [Bool.eq_false_iff]
  intro hone
  exact absurd ((isOneLetter_iff hone).2 _ (first_mem h)) (by simp [hfirst])

/-! ## 2. What they are read as -/

/-- An escape stands for the escaped character: that is no letter or digit. -/
def IsSymbol (c : CodePoint) : Prop := Text.isAsciiLetter c = false ∧ Text.isAsciiDigit c = false

instance (c : CodePoint) : Decidable (IsSymbol c) := inferInstanceAs (Decidable (_ ∧ _))

/-- Only symbols are escaped among elements. -/
def SymbolsEscaped (elements : List Element) : Prop := ∀ c, .escaped c ∈ elements → IsSymbol c

/-- Names are those of the table. -/
theorem mem_namedClasses_of_mem_elementsOf {t members : Text} (h : .named members ∈ elementsOf t) :
    ∃ entry ∈ namedClasses, entry.2 = members := by
  fun_induction elementsOf t with
  | case1 => cases h
  | case2 => cases h
  | case3 c rest ih => exact ih (by simpa using h)
  | case4 rest members' after hnamed _ ih =>
    rcases List.mem_cons.mp h with heq | hmem
    · obtain ⟨-, -, -, hentry⟩ := namedClass?_some hnamed
      cases heq
      exact hentry
    · exact ih hmem
  | case5 rest hnone ih => exact ih (by simpa using h)
  | case6 c rest _ _ _ ih => exact ih (by simpa using h)

/-- The atoms of an element are read as what they stand for. -/
theorem isRead_atoms {t : Text} (hsymbols : SymbolsEscaped (elementsOf t)) :
    ∀ a ∈ (elementsOf t).flatMap Element.atoms, a.IsRead := by
  intro a ha
  obtain ⟨element, helement, ha⟩ := List.mem_flatMap.mp ha
  cases element with
  | plain c =>
    obtain rfl := List.mem_singleton.mp ha
    exact charAtom_isRead c
  | escaped c =>
    obtain rfl := List.mem_singleton.mp ha
    obtain ⟨hletter, hdigit⟩ := hsymbols c helement
    exact ⟨Escape.inClass_symbol hletter hdigit, nofun⟩
  | named members =>
    obtain ⟨entry, hentry, rfl⟩ := mem_namedClasses_of_mem_elementsOf helement
    exact Atom.isRead_of_settled ((namedClasses_atoms entry hentry).2.1 a ha)

section closed

variable {t body after : Text} (hclose : closeClass t = some (body, after))
  (hspelled : isOneLetter (splitNegation body).2 = false)
  (hsymbols : SymbolsEscaped (elementsOf (splitNegation body).2))

include hspelled in
theorem memberTokens_eq_atoms : memberTokens body = (atomsIn body).flatMap Atom.tokens := by
  rw [memberTokens, normalMembers, hspelled]
  exact scan_elements _

include hclose hspelled hsymbols

/-- A class with symbols as its escapes is an expression exactly if its ranges are in order. -/
theorem parse_elements {e : Expression} : parse (convertClass body) = .ok e ↔
    (∀ s ∈ spans (atomsIn body), s.inOrder = true) ∧
      e = { flags := {}, tree := .charClass (splitNegation body).1 ((spans (atomsIn body)).map Span.item) } := by
  have hmembers := isMembers_memberTokens hclose
  have hproper := memberTokens_proper body
  rw [memberTokens_eq_atoms hspelled] at hmembers hproper
  rw [← texts_memberTokens hclose, memberTokens_eq_atoms hspelled]
  exact parse_bracketed (isRead_atoms hsymbols) hmembers hproper

/-- It finds a character exactly if one of its spans has it, or none if it is negated. -/
theorem search_elements {e : Expression} (hparse : parse (convertClass body) = .ok e) (c : CodePoint) :
    e.search [c] = ((spans (atomsIn body)).any (·.item.holds false c) != (splitNegation body).1) := by
  obtain ⟨-, rfl⟩ := (parse_elements hclose hspelled hsymbols).mp hparse
  exact search_spans _ _ c

end closed

end SkipPath.Glob
