import SkipPath.Proofs.Glob.Elements

/-!
Named classes within a class.

What a name stands for is put in the place of the name, so that a hyphen next to the name may take the first or
the last of these characters as an end of a range.  If no hyphen does (`unjoined`), the spans of the whole row are
those of its components, each on its own (`spans_components`): characters, ranges of two characters, and names,
which have just the characters that a class of nothing but the name has (`named_classes_keep_set`).  In front of a
name, and behind one with a single character as its last member, a hyphen does join (`name_joined`).
-/

namespace SkipPath.Regex.Bracket

/-! ## 1. Rows in two parts -/

/-- How a row of atoms ends: with a range, with a single atom, or with a hyphen after one. -/
inductive Ending where
  | closed
  | single
  | hyphened
deriving DecidableEq

/-- How the last of the spans of a row ends. -/
def ending : List Atom → Ending
  | _ :: hyphen :: high :: rest => if hyphen.isHyphen then ending rest else ending (hyphen :: high :: rest)
  | [_, last] => if last.isHyphen then .hyphened else .single
  | [_] => .single
  | [] => .closed

theorem startsRange_cons {a : Atom} {as : List Atom} (h : startsRange (a :: as) = true) :
    a.isHyphen = true ∧ as ≠ [] := by
  cases as with
  | nil => cases h
  | cons b as => exact ⟨h, List.cons_ne_nil _ _⟩

/-- The spans of a row in two parts that no range joins. -/
theorem spans_append {as bs : List Atom}
    (h : ending as = .closed ∨ ending as = .single ∧ startsRange bs = false) :
    spans (as ++ bs) = spans as ++ spans bs := by
  fun_induction ending as with
  | case1 low hyphen high as hhyphen ih => simp [spans, hhyphen, ih h]
  | case2 low next high as hhyphen ih =>
    have hrest := ih h
    simp only [List.cons_append] at hrest ⊢
    simp [spans, hhyphen, hrest]
  | case3 => simp at h
  | case4 a b hhyphen =>
    obtain hbs : startsRange bs = false := by simpa using h
    have hnext : startsRange (b :: bs) = false := by
      cases bs with
      | nil => rfl
      | cons c bs => exact Bool.eq_false_iff.mpr hhyphen
    rw [List.cons_append, List.singleton_append, spans_cons hnext, spans_cons hbs]
    rfl
  | case5 a =>
    obtain hbs : startsRange bs = false := by simpa using h
    rw [List.singleton_append, spans_cons hbs]
    rfl
  | case6 => rfl

end SkipPath.Regex.Bracket

namespace SkipPath.Glob

open Regex Regex.Bracket

/-! ## 2. Components -/

/-- The character of an element, which may be an end of a range. -/
def Element.char? : Element → Option CodePoint
  | .plain c => some c
  | .escaped c => some c
  | .named _ => none

/-- A component of a class: an element on its own, or the range between two characters. -/
inductive Component where
  | one (element : Element)
  | range (low high : CodePoint)
deriving DecidableEq

/-- The components of a class, from left to right.  A hyphen next to a name is an element as any other. -/
def componentsOf : List Element → List Component
  | low :: hyphen :: high :: rest =>
    match hyphen, low.char?, high.char? with
    | .plain '-', some l, some h => .range l h :: componentsOf rest
    | _, _, _ => .one low :: componentsOf (hyphen :: high :: rest)
  | element :: rest => .one element :: componentsOf rest
  | [] => []

/-- The characters that members have in a class of their own. -/
def namedHolds (members : Text) (c : CodePoint) : Bool :=
  match parse (.char '[' :: members ++ [.char ']']) with
  | .ok e => e.search [c]
  | .error _ => false

namespace Component

/-- The characters of a component. -/
def holds : Component → CodePoint → Bool
  | .one (.plain d), c => c = d
  | .one (.escaped d), c => c = d
  | .one (.named members), c => namedHolds members c
  | .range low high, c => low ≤ c && c ≤ high

/-- A component as spans. -/
def spans : Component → List Span
  | .one element => Bracket.spans element.atoms
  | .range low high => [(Member.range low high).span]

end Component

/-- Whether a character is given by the components of a class. -/
def inNamed (body : Text) (c : CodePoint) : Bool :=
  (componentsOf (elementsOf (splitNegation body).2)).any (·.holds c) != (splitNegation body).1

/-- No hyphen between two elements makes a range with a part of what a name stands for: there is no name behind
it, and a name in front of it ends in a range. -/
def unjoined : List Element → Bool
  | low :: hyphen :: high :: rest =>
    if hyphen = .plain '-' then
      match low.char?, high.char? with
      | some _, some _ => unjoined rest
      | some _, none => false
      | none, _ => ending low.atoms = .closed && unjoined (hyphen :: high :: rest)
    else unjoined (hyphen :: high :: rest)
  | _ :: rest => unjoined rest
  | [] => true

/-! ## 3. Spans of components -/

/-- The names among elements are those of the table. -/
def NamesKnown (elements : List Element) : Prop :=
  ∀ members, .named members ∈ elements → ∃ entry ∈ namedClasses, entry.2 = members

theorem namedClasses_ends : ∀ entry ∈ namedClasses, ending (atomsOf (Token.scan entry.2).1) ≠ .hyphened ∧
    ∃ a ∈ (atomsOf (Token.scan entry.2).1).head?, a.isHyphen = false := by
  decide

section known

variable {element : Element} {elements : List Element}

/-- An element with a character is one atom. -/
theorem Element.atoms_of_char {c : CodePoint} (h : element.char? = some c) :
    ∃ token, element.atoms = [{ token := token, meaning := .char c.toNat }] := by
  cases element with
  | plain d =>
    cases h
    exact ⟨_, rfl⟩
  | escaped d =>
    cases h
    exact ⟨_, rfl⟩
  | named members => cases h

theorem NamesKnown.tail (h : NamesKnown (element :: elements)) : NamesKnown elements :=
  fun members hmem => h members (List.mem_cons_of_mem _ hmem)

/-- No element ends in a hyphen after an atom. -/
theorem ending_atoms (h : NamesKnown (element :: elements)) : ending element.atoms ≠ .hyphened := by
  cases element with
  | plain c => exact nofun
  | escaped c => exact nofun
  | named members =>
    obtain ⟨entry, hentry, rfl⟩ := h members List.mem_cons_self
    exact (namedClasses_ends entry hentry).1

/-- Atoms go on from the one before as a range only behind a hyphen that is an element, and not the last one. -/
theorem startsRange_atoms (h : NamesKnown elements)
    (hstart : startsRange (elements.flatMap Element.atoms) = true) :
    ∃ high rest, elements = .plain '-' :: high :: rest := by
  cases elements with
  | nil => cases hstart
  | cons element elements =>
    cases element with
    | plain c =>
      obtain ⟨hhyphen, hne⟩ : (charAtom c).isHyphen = true ∧ _ := startsRange_cons hstart
      rw [charAtom_isHyphen, decide_eq_true_eq] at hhyphen
      cases elements with
      | nil => exact absurd rfl hne
      | cons high rest => exact ⟨high, rest, by rw [hhyphen]⟩
    | escaped c => exact absurd (startsRange_cons hstart).1 (by simp [Atom.isHyphen])
    | named members =>
      obtain ⟨entry, hentry, rfl⟩ := h members List.mem_cons_self
      obtain ⟨-, a, ha, hhyphen⟩ := namedClasses_ends entry hentry
      obtain ⟨as, has⟩ := List.head?_eq_some_iff.mp ha
      rw [List.flatMap_cons, Element.atoms, has, List.cons_append] at hstart
      exact absurd (startsRange_cons hstart).1 (by simp [hhyphen])

/-- An element that no range joins to what follows has the spans of its own. -/
theorem spans_element (h : NamesKnown (element :: elements))
    (hends : ending element.atoms = .closed ∨ ∀ high rest, elements ≠ .plain '-' :: high :: rest) :
    Bracket.spans ((element :: elements).flatMap Element.atoms) =
      Bracket.spans element.atoms ++ Bracket.spans (elements.flatMap Element.atoms) := by
  rw [List.flatMap_cons]
  refine spans_append ?_
  rcases hends with hclosed | hnext
  · exact .inl hclosed
  · cases hending : ending element.atoms with
    | closed => exact .inl rfl
    | hyphened => exact absurd hending (ending_atoms h)
    | single =>
      refine .inr ⟨rfl, Bool.eq_false_iff.mpr fun hstart => ?_⟩
      obtain ⟨high, rest, he⟩ := startsRange_atoms h.tail hstart
      exact hnext high rest he

/-- Two characters with a hyphen between them are a range. -/
theorem spans_range {low high : Element} {l r : CodePoint} (hlow : low.char? = some l) (hhigh : high.char? = some r) :
    Bracket.spans ((low :: .plain '-' :: high :: elements).flatMap Element.atoms) =
      (Member.range l r).span :: Bracket.spans (elements.flatMap Element.atoms) := by
  obtain ⟨lowToken, hlow⟩ := Element.atoms_of_char hlow
  obtain ⟨highToken, hhigh⟩ := Element.atoms_of_char hhigh
  have hhyphen : (Element.plain '-').atoms = [charAtom '-'] := rfl
  simp only [List.flatMap_cons, hlow, hhyphen, hhigh, List.singleton_append, Bracket.spans, charAtom_isHyphen,
    decide_true, if_true]
  rfl

/-- What does not join the first of elements that are no range of two characters. -/
theorem unjoined_cons {low hyphen high : Element}
    (hno : ∀ l r, hyphen = .plain '-' → low.char? = some l → high.char? = some r → False)
    (h : unjoined (low :: hyphen :: high :: elements) = true) :
    (ending low.atoms = .closed ∨ hyphen ≠ .plain '-') ∧ unjoined (hyphen :: high :: elements) = true := by
  rw [unjoined] at h
  split at h
  · next hhyphen =>
    cases hlow : low.char? with
    | none =>
      rw [hlow, Bool.and_eq_true, decide_eq_true_eq] at h
      exact ⟨.inl h.1, h.2⟩
    | some l =>
      cases hhigh : high.char? with
      | none =>
        rw [hlow, hhigh] at h
        cases h
      | some r => exact absurd hhigh (hno l r hhyphen hlow)
  · next hhyphen => exact ⟨.inr hhyphen, h⟩

/-- The spans of a row are those of its components, if no hyphen joins a name. -/
theorem spans_components (hknown : NamesKnown elements) (h : unjoined elements = true) :
    Bracket.spans (elements.flatMap Element.atoms) = (componentsOf elements).flatMap Component.spans := by
  fun_induction componentsOf elements with
  | case1 low high rest l r hhigh hlow ih =>
    have hrest : unjoined rest = true := by simpa [unjoined, hlow, hhigh] using h
    rw [spans_range hlow hhigh, ih hknown.tail.tail.tail hrest]
    rfl
  | case2 low hyphen high rest hno ih =>
    obtain ⟨hends, hrest⟩ := unjoined_cons hno h
    rw [spans_element hknown (hends.imp_right fun hne high rest he => hne (List.cons.inj he).1),
      ih hknown.tail hrest]
    rfl
  | case3 element rest hshort ih =>
    have hrest : unjoined rest = true := by
      rwa [unjoined] at h
      exact hshort
    rw [spans_element hknown (.inr fun high rest => hshort (.plain '-') high rest), ih hknown.tail hrest]
    rfl
  | case4 => rfl

end known

/-! ## 4. The characters of components -/

theorem namedClasses_members : ∀ entry ∈ namedClasses, (Token.scan entry.2).1 ≠ [] ∧
    (Token.scan entry.2).1.head? ≠ some (.plain '^') := by
  decide

/-- A name has the characters of the spans of what it stands for. -/
theorem namedHolds_eq {entry : Text × Text} (hentry : entry ∈ namedClasses) (c : CodePoint) :
    namedHolds entry.2 c = (Bracket.spans (Element.named entry.2).atoms).any (·.item.holds false c) := by
  obtain ⟨hscan, hclose, -, -⟩ := namedClasses_scan entry hentry
  obtain ⟨hne, hcaret⟩ := namedClasses_members entry hentry
  obtain ⟨htokens, hsettled, hordered⟩ := namedClasses_atoms entry hentry
  have hmembers : IsMembers false ((Element.named entry.2).atoms.flatMap Atom.tokens) := by
    rw [Element.atoms, htokens]
    exact ⟨hne, hclose, fun _ => hcaret⟩
  have hproper : ∀ t ∈ (Element.named entry.2).atoms.flatMap Atom.tokens, t.IsProper := by
    rw [Element.atoms, htokens]
    exact Token.scan_proper entry.2
  have hread : ∀ a ∈ (Element.named entry.2).atoms, a.IsRead := fun a ha => Atom.isRead_of_settled (hsettled a ha)
  have hparse := (parse_bracketed hread hmembers hproper).mpr ⟨hordered, rfl⟩
  have htexts : Token.texts (bracketed false (Token.scan entry.2).1) = .char '[' :: entry.2 ++ [.char ']'] := by
    simp only [bracketed, Token.texts_cons, Token.texts_append, Token.texts_scan hscan]
    rfl
  rw [Element.atoms, htokens, htexts] at hparse
  rw [namedHolds, hparse]
  exact (search_spans false _ c).trans (Bool.bne_false _)

theorem mem_of_mem_componentsOf {element : Element} {elements : List Element}
    (h : .one element ∈ componentsOf elements) : element ∈ elements := by
  fun_induction componentsOf elements with
  | case1 low high rest l r _ _ ih =>
    have hrest : .one element ∈ componentsOf rest := by simpa using h
    exact List.mem_of_mem_drop (i := 3) (ih hrest)
  | case2 low hyphen high rest _ ih =>
    rcases List.mem_cons.mp h with he | hrest
    · cases he
      exact List.mem_cons_self
    · exact List.mem_cons_of_mem _ (ih hrest)
  | case3 other rest _ ih =>
    rcases List.mem_cons.mp h with he | hrest
    · cases he
      exact List.mem_cons_self
    · exact List.mem_cons_of_mem _ (ih hrest)
  | case4 => cases h

/-- A component has the characters of its spans, if these are in order. -/
theorem holds_spans {component : Component} (hknown : ∀ members, component = .one (.named members) →
    ∃ entry ∈ namedClasses, entry.2 = members) (hordered : ∀ s ∈ component.spans, s.inOrder = true) (c : CodePoint) :
    component.spans.any (·.item.holds false c) = component.holds c := by
  have hmember : ∀ m : Member, m.span.inOrder = true → [m.span].any (·.item.holds false c) = m.holds c :=
    fun m hm => by simp [Member.holds_span hm]
  cases component with
  | one element =>
    cases element with
    | plain d => exact hmember (.one d) rfl
    | escaped d => exact hmember (.one d) rfl
    | named members =>
      obtain ⟨entry, hentry, rfl⟩ := hknown members rfl
      exact (namedHolds_eq hentry c).symm
  | range low high => exact hmember (.range low high) (hordered _ List.mem_cons_self)

/-! ## 5. Classes with names -/

section named

variable {t body after : Text} (hclose : closeClass t = some (body, after))
  (hspelled : isOneLetter (splitNegation body).2 = false)
  (hsymbols : SymbolsEscaped (elementsOf (splitNegation body).2))

include hclose hspelled hsymbols in
/-- A class in which no hyphen joins a name has the characters of its components. -/
theorem search_unjoined (h : unjoined (elementsOf (splitNegation body).2) = true) {e : Expression}
    (hparse : parse (convertClass body) = .ok e) (c : CodePoint) : e.search [c] = inNamed body c := by
  have hknown : NamesKnown (elementsOf (splitNegation body).2) := fun _ => mem_namedClasses_of_mem_elementsOf
  have hspans := spans_components hknown h
  have hordered := ((parse_elements hclose hspelled hsymbols).mp hparse).1
  rw [atomsIn, hspans] at hordered
  rw [search_elements hclose hspelled hsymbols hparse, atomsIn, hspans, List.any_flatMap, inNamed]
  congr 1
  exact any_congr_of_mem fun component hcomponent =>
    holds_spans (fun members he => hknown members (mem_of_mem_componentsOf (he ▸ hcomponent)))
      (fun s hs => hordered s (List.mem_flatMap.mpr ⟨component, hcomponent, hs⟩)) c

/-- **Named classes keep their set.**  A class without backslashes but with names, if it is written as an expression,
finds the characters of the spans in the row of what is put in the place of the names.  If no hyphen joins a name,
these are the characters of the names and those that are given by the other members. -/
theorem named_classes_keep_set {e : Expression} (hclose : closeClass t = some (body, after))
    (hbackslash : .char '\\' ∉ body) (hnamed : ∃ members, .named members ∈ elementsOf (splitNegation body).2)
    (hparse : parse (convertClass body) = .ok e) (c : CodePoint) :
    e.search [c] = ((spans (atomsIn body)).any (·.item.holds false c) != (splitNegation body).1) ∧
      (unjoined (elementsOf (splitNegation body).2) = true → e.search [c] = inNamed body c) := by
  obtain ⟨members, hmembers⟩ := hnamed
  have hspelled : isOneLetter (splitNegation body).2 = false :=
    isOneLetter_of_element hmembers (show Text.isLetter '[' = false from rfl)
  have hsymbols : SymbolsEscaped (elementsOf (splitNegation body).2) := fun d hd =>
    absurd ((splitNegation_suffix body).mem (first_mem hd)) hbackslash
  exact ⟨search_elements hclose hspelled hsymbols hparse c,
    fun h => search_unjoined hclose hspelled hsymbols h hparse c⟩

/-- All but digits, a hyphen, two letters and blanks. -/
theorem named_classes_keep_set_negated :
    (parse (convertClass (Text.ofString "![:digit:]-z_[:space:]"))).isOk = true ∧
    ∀ e, parse (convertClass (Text.ofString "![:digit:]-z_[:space:]")) = .ok e →
      e.search ['7'] = false ∧ e.search ['-'] = false ∧ e.search ['p'] = true := by
  refine ⟨by decide +kernel, fun e hparse => ?_⟩
  have hclose : closeClass (Text.ofString "![:digit:]-z_[:space:]]") =
      some (Text.ofString "![:digit:]-z_[:space:]", []) := by
    decide +kernel
  have hsearch := fun c => (named_classes_keep_set hclose (by decide +kernel) ⟨Text.ofString "0-9", by decide +kernel⟩
    hparse c).2 (by decide +kernel)
  simp only [hsearch]
  decide +kernel

/-- A hyphen in front of a name takes the first of the digits as the end of a range. -/
theorem name_joined : ∃ t body after members e, closeClass t = some (body, after) ∧ .char '\\' ∉ body ∧
    .named members ∈ elementsOf (splitNegation body).2 ∧ parse (convertClass body) = .ok e ∧
      inNamed body '5' = true ∧ e.search ['5'] = false := by
  have hclose : closeClass (Text.ofString "+-[:digit:]]") = some (Text.ofString "+-[:digit:]", []) := by
    decide +kernel
  have hspelled : isOneLetter (splitNegation (Text.ofString "+-[:digit:]")).2 = false := by decide +kernel
  have hsymbols : SymbolsEscaped (elementsOf (splitNegation (Text.ofString "+-[:digit:]")).2) := fun c hc =>
    absurd (show CodePoint.char '\\' ∈ _ from first_mem hc) (by decide +kernel)
  have hparse := (parse_elements hclose hspelled hsymbols).mpr ⟨by decide +kernel, rfl⟩
  refine ⟨_, _, _, Text.ofString "0-9", _, hclose, by decide +kernel, by decide +kernel, hparse, by decide +kernel, ?_⟩
  rw [search_elements hclose hspelled hsymbols hparse]
  decide +kernel

end named

end SkipPath.Glob
