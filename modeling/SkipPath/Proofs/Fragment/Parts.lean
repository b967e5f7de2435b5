import SkipPath.Proofs.Glob.Classes
import SkipPath.Proofs.Glob.Translation
import SkipPath.Proofs.Regex.Alternation

/-!
Fragments as rows of parts.

A part of a fragment is one character, any text, or a class with the number of times that a character of it
is taken (`Part`).  Each part is either refused wherever it stands, or read as one item, and then it takes
characters of some kind (`Part.Takes`).  So it is with rows of parts (`refused_of_fails`, `parse_row`): a
fragment is refused if one of its parts is, and otherwise it finds what its parts take one after the other
(`Found`), at the end of the text if a dollar follows.

The fragment of every line that is kept is such a row, with a part for each piece of the line
(`exists_pieces_of_kept`).
-/

namespace SkipPath

namespace Fragment

open Regex Glob

/-! ## 1. Parts -/

/-- How often a character of a kind is taken. -/
inductive Times where
  | once
  | anyNumber
  | atMostOnce
deriving DecidableEq

namespace Times

/-- What says it in an expression. -/
def tokens : Times → List Token
  | .once => []
  | .anyNumber => [.plain '*']
  | .atMostOnce => [.plain '?']

theorem tokens_proper (times : Times) : ∀ t ∈ times.tokens, t.IsProper := by
  cases times <;> simp [tokens, Token.IsProper]

/-- The texts of characters of a kind that are taken so often. -/
def Holds (times : Times) (takes : CodePoint → Bool) (u : Text) : Prop :=
  match times with
  | .once => ∃ c, takes c = true ∧ u = [c]
  | .anyNumber => ∀ c ∈ u, takes c = true
  | .atMostOnce => u.length ≤ 1 ∧ ∀ c ∈ u, takes c = true

end Times

/-- A part of a fragment. -/
inductive Part where
  /-- A character, as the token for it. -/
  | char (t : Token)
  /-- Any text. -/
  | anything
  /-- A class, by its members. -/
  | oneOf (negated : Bool) (members : List Token) (times : Times)
deriving DecidableEq

namespace Part

/-- The tokens of a part. -/
def tokens : Part → List Token
  | .char t => [t]
  | .anything => [.plain '.', .plain '*']
  | .oneOf negated members times => bracketed negated members ++ times.tokens

/-- How often a part takes a character. -/
def times : Part → Times
  | .char _ => .once
  | .anything => .anyNumber
  | .oneOf _ _ times => times

/-- A part as fragments have them: a token that is one character, and a class with members. -/
def IsProper : Part → Prop
  | .char (.plain c) => c ∉ .char '\\' :: operators
  | .char (.escape c) => Text.isAsciiLetter c = false ∧ Text.isAsciiDigit c = false
  | .anything => True
  | .oneOf negated members _ => Bracket.IsMembers negated members ∧ ∀ t ∈ members, t.IsProper

/-- A part is read as one item wherever it stands, and takes characters of a kind. -/
def Takes (p : Part) (takes : CodePoint → Bool) : Prop :=
  ∃ item, ReadAs p.tokens [item] ∧ item.node.Sound ∧
    item.node.Spells {} fun u _ => p.times.Holds takes u

variable {p : Part}

theorem tokens_proper (h : p.IsProper) : ∀ t ∈ p.tokens, t.IsProper := by
  cases p with
  | char t =>
    cases t with
    | plain c =>
      refine List.forall_mem_singleton.mpr fun hc => h ?_
      rw [hc]
      exact List.mem_cons_self
    | escape c => exact List.forall_mem_singleton.mpr trivial
  | anything => simp [tokens, Token.IsProper]
  | oneOf negated members times =>
    exact List.forall_mem_append.mpr ⟨bracketed_proper h.2, times.tokens_proper⟩

/-- A part does not say how the repetition before it chooses. -/
theorem tokens_quiet (h : p.IsProper) (rest : List Token) : ¬ SaysGreed (p.tokens ++ rest) := by
  cases p with
  | char t =>
    cases t with
    | plain c =>
      rintro (he | he)
      · refine h (List.mem_cons_of_mem _ ?_)
        rw [Token.plain.inj (Option.some.inj he)]
        decide
      · refine h (List.mem_cons_of_mem _ ?_)
        rw [Token.plain.inj (Option.some.inj he)]
        decide
    | escape c => simp [SaysGreed, tokens]
  | anything => simp [SaysGreed, tokens]
  | oneOf negated members times => simp [SaysGreed, tokens, bracketed]

/-- A character takes itself. -/
theorem takes_char {t : Token} {c : CodePoint} (ht : t = .plain c ∨ t = .escape c)
    (h : (char t).IsProper) : (char t).Takes (· == c) := by
  have hspells : Node.Spells {} (.char c.toNat) fun u _ => Times.once.Holds (· == c) u := by
    refine (Node.spells_char c).congr fun u rest _ => ?_
    simp [Times.Holds]
  refine ⟨{ node := .char c.toNat }, ?_, fun _ => rfl, hspells⟩
  rcases ht with rfl | rfl
  · exact (readAs_plain fun hc => h (List.mem_cons_of_mem _ hc)).readAs
  · exact (readAs_escape h.1 h.2).readAs

theorem takes_anything : anything.Takes (· != '\n') :=
  ⟨_, readAs_any.star, fun _ => rfl, Node.spells_star fun _ => rfl⟩

/-- A class that is read takes the characters that belong to it, as often as is said. -/
theorem takes_oneOf {negated : Bool} {members : List Token} {items : List ClassItem}
    (h : ReadAsAtom (bracketed negated members) (.charClass negated items)) (times : Times) :
    (oneOf negated members times).Takes (classHolds {} negated items) := by
  cases times with
  | once =>
    refine ⟨{ node := .charClass negated items }, ?_, fun _ => rfl, Node.spells_next fun _ => rfl⟩
    have hread := h.readAs
    rwa [← List.append_nil (bracketed negated members)] at hread
  | anyNumber => exact ⟨_, h.star, fun _ => rfl, Node.spells_star fun _ => rfl⟩
  | atMostOnce => exact ⟨_, h.option, fun _ => rfl, Node.spells_option fun _ => rfl⟩

/-- A part takes characters of some kind, or it is refused wherever it stands. -/
theorem takes_or_fails (h : p.IsProper) : (∃ takes, p.Takes takes) ∨ Fails p.tokens := by
  cases p with
  | char t =>
    cases t with
    | plain c => exact .inl ⟨_, takes_char (.inl rfl) h⟩
    | escape c => exact .inl ⟨_, takes_char (.inr rfl) h⟩
  | anything => exact .inl ⟨_, takes_anything⟩
  | oneOf negated members times =>
    rcases readAsAtom_bracketed h.1.delimited with ⟨items, hread⟩ | hfails
    · exact .inl ⟨_, takes_oneOf hread times⟩
    · refine .inr fun s rest hs => ?_
      obtain ⟨trouble, he⟩ := hfails s (times.tokens ++ rest) hs
      exact ⟨trouble, by rw [tokens, List.append_assoc, he]⟩

/-- No part is both. -/
theorem Takes.not_fails {takes : CodePoint → Bool} (h : p.Takes takes) : ¬ Fails p.tokens := by
  obtain ⟨item, hread, hsound, -⟩ := h
  intro hfails
  obtain ⟨trouble, he⟩ := hfails (State.behind []) [] rfl
  have hend := hread (State.behind []) [] rfl (by simp [SaysGreed])
  have hproblem := hsound [none]
  rw [he, readTokens_end] at hend
  have htree : ofTree (.choice ([].reverse ++ [nodeOf [item]])) =
      .ok { flags := {}, tree := nodeOf [item] } := ofTree_eq_ok.mpr ⟨hproblem, rfl⟩
  rw [htree] at hend
  cases hend

end Part

/-! ## 2. Rows of parts -/

/-- The tokens of parts, with a dollar behind them if they are to be found at the end. -/
def rowTokens (parts : List Part) (ends : Bool) : List Token :=
  parts.flatMap Part.tokens ++ if ends then [.plain '$'] else []

/-- The texts that characters of some kinds make, each taken so often. -/
def RowTakes : List Times → List (CodePoint → Bool) → Text → Prop
  | times :: rest, takes :: more, u => ∃ v w, u = v ++ w ∧ times.Holds takes v ∧ RowTakes rest more w
  | _, _, u => u = []

/-- A text of the row stands in a text, at its end if it has to. -/
def Found (times : List Times) (takes : List (CodePoint → Bool)) (ends : Bool) (t : Text) : Prop :=
  ∃ v u w, t = v ++ u ++ w ∧ RowTakes times takes u ∧ (ends = true → w = [])

section rows

variable {parts : List Part}

theorem rowTokens_proper (h : ∀ p ∈ parts, p.IsProper) (ends : Bool) :
    ∀ t ∈ rowTokens parts ends, t.IsProper := by
  intro t ht
  rcases List.mem_append.mp ht with ht | ht
  · obtain ⟨p, hp, ht⟩ := List.mem_flatMap.mp ht
    exact Part.tokens_proper (h p hp) t ht
  · cases ends with
    | false => cases ht
    | true =>
      rw [List.mem_singleton.mp ht]
      exact (by decide : CodePoint.char '$' ≠ .char '\\')

theorem row_quiet (h : ∀ p ∈ parts, p.IsProper) {rest : List Token} (hrest : ¬ SaysGreed rest) :
    ¬ SaysGreed (parts.flatMap Part.tokens ++ rest) := by
  cases parts with
  | nil => exact hrest
  | cons p parts =>
    rw [List.flatMap_cons, List.append_assoc]
    exact Part.tokens_quiet (h p List.mem_cons_self) _

/-- Each part takes characters of some kind, or one is refused. -/
theorem takes_or_fails (h : ∀ p ∈ parts, p.IsProper) :
    (∃ takes, List.Forall₂ Part.Takes parts takes) ∨ ∃ p ∈ parts, Fails p.tokens := by
  induction parts with
  | nil => exact .inl ⟨[], .nil⟩
  | cons p parts ih =>
    obtain ⟨hp, hparts⟩ := List.forall_mem_cons.mp h
    rcases Part.takes_or_fails hp with ⟨takes, htakes⟩ | hfails
    · rcases ih hparts with ⟨more, hmore⟩ | ⟨q, hq, hfails⟩
      · exact .inl ⟨takes :: more, .cons htakes hmore⟩
      · exact .inr ⟨q, List.mem_cons_of_mem p hq, hfails⟩
    · exact .inr ⟨p, List.mem_cons_self, hfails⟩

/-- If one part is refused, the row is, wherever it stands. -/
theorem fails_row (h : ∀ p ∈ parts, p.IsProper) (hfails : ∃ p ∈ parts, Fails p.tokens) :
    Fails (parts.flatMap Part.tokens) := by
  induction parts with
  | nil =>
    obtain ⟨p, hp, -⟩ := hfails
    cases hp
  | cons p parts ih =>
    obtain ⟨hp, hparts⟩ := List.forall_mem_cons.mp h
    intro s rest hs
    rw [List.flatMap_cons, List.append_assoc]
    rcases Part.takes_or_fails hp with ⟨takes, htakes⟩ | hfailsHere
    · have hrest : ∃ q ∈ parts, Fails q.tokens := by
        obtain ⟨q, hq, hfails⟩ := hfails
        rcases List.mem_cons.mp hq with rfl | hq
        · exact absurd hfails htakes.not_fails
        · exact ⟨q, hq, hfails⟩
      obtain ⟨q, parts', rfl⟩ := List.exists_cons_of_ne_nil (List.ne_nil_of_mem hrest.choose_spec.1)
      obtain ⟨item, hread, -, -⟩ := htakes
      have hquiet : ¬ SaysGreed ((q :: parts').flatMap Part.tokens ++ rest) := by
        rw [List.flatMap_cons, List.append_assoc]
        exact Part.tokens_quiet (hparts q List.mem_cons_self) _
      rw [hread s _ hs hquiet]
      exact ih hparts hrest _ rest ((State.pushAll_verbose s [item]).trans hs)
    · exact hfailsHere s _ hs

/-- A fragment of which a part is refused is no expression. -/
theorem refused_of_fails (h : ∀ p ∈ parts, p.IsProper) (ends : Bool)
    (hfails : ∃ p ∈ parts, Fails p.tokens) (e : Expression) :
    parse (Token.texts (rowTokens parts ends)) ≠ .ok e := by
  intro hparse
  rw [parse_texts (rowTokens_proper h ends)] at hparse
  obtain ⟨trouble, he⟩ := fails_row h hfails {} (if ends then [.plain '$'] else []) rfl
  rw [rowTokens, he] at hparse
  cases hparse

/-- The items of parts that all take characters, and what the items spell one after the other. -/
theorem items_of_takes (h : ∀ p ∈ parts, p.IsProper) {takes : List (CodePoint → Bool)}
    (htakes : List.Forall₂ Part.Takes parts takes) :
    ∃ items : List Item, ReadAs (parts.flatMap Part.tokens) items ∧ (∀ item ∈ items, item.node.Sound) ∧
      ∃ Ls, List.Forall₂ (Node.Spells {}) (items.map (·.node)) Ls ∧
        ∀ u rest, Chain Ls u rest ↔ RowTakes (parts.map Part.times) takes u := by
  induction htakes with
  | nil => exact ⟨[], .nil, by simp, [], .nil, fun u rest => Iff.rfl⟩
  | @cons p takes parts more hp hmore ih =>
    obtain ⟨hproper, hparts⟩ := List.forall_mem_cons.mp h
    obtain ⟨items, hread, hsound, Ls, hspells, hchain⟩ := ih hparts
    obtain ⟨item, hreadHere, hsoundHere, hspellsHere⟩ := hp
    refine ⟨item :: items, ?_, List.forall_mem_cons.mpr ⟨hsoundHere, hsound⟩,
      (fun u _ => p.times.Holds takes u) :: Ls, .cons hspellsHere hspells, fun u rest => ?_⟩
    · rw [List.flatMap_cons]
      exact hreadHere.append hread fun rest hrest => row_quiet hparts hrest
    · simp only [Chain, Then, List.map_cons, RowTakes, hchain]

/-- A fragment whose parts all take characters is read as items wherever it stands, and is allowed. -/
theorem parse_row (h : ∀ p ∈ parts, p.IsProper) (ends : Bool) {takes : List (CodePoint → Bool)}
    (htakes : List.Forall₂ Part.Takes parts takes) :
    (∃ items, ReadAs (rowTokens parts ends) items) ∧
    ∃ e, parse (Token.texts (rowTokens parts ends)) = .ok e ∧ ∀ t, .char '\n' ∉ t →
      (e.search t = true ↔ Found (parts.map Part.times) takes ends t) := by
  obtain ⟨items, hread, hsound, Ls, hspells, hchain⟩ := items_of_takes h htakes
  cases ends with
  | false =>
    rw [rowTokens, if_neg Bool.false_ne_true, List.append_nil]
    have hproper := rowTokens_proper h false
    rw [rowTokens, if_neg Bool.false_ne_true, List.append_nil] at hproper
    refine ⟨⟨items, hread⟩, _, parse_of_readAs hproper hread hsound, fun t ht => ?_⟩
    rw [search_iff (Node.spells_sequence hspells) ht]
    simp only [hchain, Found, Bool.false_eq_true, false_implies, and_true]
  | true =>
    rw [rowTokens, if_pos rfl]
    have hproper := rowTokens_proper h true
    rw [rowTokens, if_pos rfl] at hproper
    have hreadEnd := hread.append readAs_lineEnd fun rest _ => by simp [SaysGreed]
    have hsoundEnd := List.forall_mem_append.mpr
      ⟨hsound, List.forall_mem_singleton.mpr (fun _ => rfl : Item.lineEnd.node.Sound)⟩
    have hspellsEnd : (Node.sequence ((items ++ [Item.lineEnd]).map (·.node))).Spells {}
        (Chain (Ls ++ [fun u rest => u = [] ∧ rest = []])) := by
      rw [List.map_append]
      exact Node.spells_sequence (List.rel_append hspells (.cons Node.spells_lineEnd .nil))
    refine ⟨⟨_, hreadEnd⟩, _, parse_of_readAs hproper hreadEnd hsoundEnd, fun t ht => ?_⟩
    rw [search_iff hspellsEnd ht]
    constructor
    · rintro ⟨v, _, w, rfl, hrow⟩
      obtain ⟨u, _, rfl, hu, _, _, rfl, ⟨rfl, hend⟩, rfl⟩ := chain_append.mp hrow
      rw [List.nil_append] at hend
      exact ⟨v, u, w, by simp, (hchain _ _).mp hu, fun _ => hend⟩
    · rintro ⟨v, u, w, rfl, hu, hend⟩
      rw [hend rfl]
      refine ⟨v, u, [], rfl, chain_append.mpr ⟨u, [], (List.append_nil u).symm, (hchain _ _).mpr hu, ?_⟩⟩
      exact ⟨[], [], rfl, ⟨rfl, rfl⟩, rfl⟩

end rows

/-! ## 3. The parts of a line -/

end Fragment

namespace Glob

open Regex Fragment

namespace Piece

/-- A piece as cutting gives it: a character that stands for itself is no wildcard, and a class is closed. -/
def IsCut : Piece → Prop
  | .literal c => c ∉ [.char '\\', .char '*', .char '?', .char '[']
  | .charClass body => ∃ t after, closeClass t = some (body, after)
  | _ => True

/-- The part of a fragment that a piece is written as. -/
def part : Piece → Part
  | .literal c => .char (if literalEscapes.contains c then .escape c else .plain c)
  | .escaped c => .char (if keptEscapes.contains c then .escape c else .plain c)
  | .loneBackslash => .char (.escape '\\')
  | .star => .oneOf true [.plain '/'] .anyNumber
  | .stars => .anything
  | .question => .oneOf true [.plain '/'] .atMostOnce
  | .openBracket => .char (.escape '[')
  | .charClass body => .oneOf (splitNegation body).1 (memberTokens body) .once

/-- A character that is escaped if it is one of some, as a part. -/
theorem char_proper {escapes : List CodePoint} {c : CodePoint} (hescapes : ∀ d ∈ escapes, d ∈ keptEscapes)
    (hplain : c ∉ escapes → c ∉ .char '\\' :: operators) :
    (Part.char (if escapes.contains c then .escape c else .plain c)).IsProper := by
  split
  · next h => exact keptEscapes_symbols (hescapes c (List.contains_iff_mem.mp h))
  · next h => exact hplain fun hc => h (List.contains_iff_mem.mpr hc)

theorem isMembers_slash : Bracket.IsMembers true [.plain '/'] where
  nonempty := List.cons_ne_nil _ _
  inner := by decide
  caret := nofun

variable {p : Piece}

theorem part_proper (h : p.IsCut) : p.part.IsProper := by
  have hslash : ∀ t ∈ [Token.plain '/'], t.IsProper :=
    List.forall_mem_singleton.mpr (by decide : CodePoint.char '/' ≠ .char '\\')
  cases p with
  | literal c =>
    refine char_proper (fun d hd => List.mem_append_left _ hd) fun hc hop => ?_
    have hall : .char '\\' :: operators ⊆ literalEscapes ++ [.char '\\', .char '*', .char '?', .char '['] := by decide
    exact (List.mem_append.mp (hall hop)).elim hc h
  | escaped c =>
    refine char_proper (fun d hd => hd) fun hc hop => ?_
    have hall : .char '\\' :: operators ⊆ keptEscapes := by decide
    exact hc (hall hop)
  | loneBackslash => exact ⟨rfl, rfl⟩
  | star => exact ⟨isMembers_slash, hslash⟩
  | stars => trivial
  | question => exact ⟨isMembers_slash, hslash⟩
  | openBracket => exact ⟨rfl, rfl⟩
  | charClass body =>
    obtain ⟨t, after, hclose⟩ := h
    exact ⟨isMembers_memberTokens hclose, memberTokens_proper body⟩

theorem texts_part (h : p.IsCut) : Token.texts p.part.tokens = p.render := by
  cases p with
  | literal c =>
    simp only [part, Part.tokens, render, escapeLiteral]
    split <;> rfl
  | escaped c =>
    simp only [part, Part.tokens, render]
    split <;> rfl
  | charClass body =>
    obtain ⟨t, after, hclose⟩ := h
    have htexts := texts_memberTokens hclose
    simpa [part, Part.tokens, Times.tokens, render] using htexts
  | _ => rfl

end Piece

/-- The pieces of any glob. -/
theorem pieces_isCut (t : Text) : ∀ p ∈ pieces t, p.IsCut := by
  fun_induction pieces t with
  | case1 => simp
  | case2 => exact List.forall_mem_singleton.mpr trivial
  | case3 c rest ih => exact List.forall_mem_cons.mpr ⟨trivial, ih⟩
  | case4 rest _ ih => exact List.forall_mem_cons.mpr ⟨trivial, ih⟩
  | case5 rest _ ih => exact List.forall_mem_cons.mpr ⟨trivial, ih⟩
  | case6 rest ih => exact List.forall_mem_cons.mpr ⟨trivial, ih⟩
  | case7 rest body after hclose _ ih => exact List.forall_mem_cons.mpr ⟨⟨rest, after, hclose⟩, ih⟩
  | case8 rest _ ih => exact List.forall_mem_cons.mpr ⟨trivial, ih⟩
  | case9 c rest hlone hescape _ hstar hquestion hbracket ih =>
    refine List.forall_mem_cons.mpr ⟨?_, ih⟩
    simp only [Piece.IsCut, List.mem_cons, List.not_mem_nil, or_false, not_or]
    exact ⟨ne_backslash hlone hescape, hstar, hquestion, hbracket⟩

/-- A piece without a backslash. -/
def Piece.IsUnescaped : Piece → Prop
  | .literal c => c ≠ '\\'
  | .escaped _ | .loneBackslash => False
  | .charClass body => .char '\\' ∉ body
  | _ => True

/-- The pieces of a glob without a backslash. -/
theorem pieces_isUnescaped {t : Text} (h : .char '\\' ∉ t) : ∀ p ∈ pieces t, p.IsUnescaped := by
  fun_induction pieces t with
  | case1 => simp
  | case2 => simp at h
  | case3 c rest => simp at h
  | case4 rest _ ih =>
    refine List.forall_mem_cons.mpr ⟨trivial, ih fun hmem => h ?_⟩
    exact List.mem_cons_of_mem _ (List.mem_cons_of_mem _ (mem_of_mem_dropStars hmem))
  | case5 rest _ ih =>
    exact List.forall_mem_cons.mpr ⟨trivial, ih fun hmem => h (List.mem_cons_of_mem _ hmem)⟩
  | case6 rest ih =>
    exact List.forall_mem_cons.mpr ⟨trivial, ih fun hmem => h (List.mem_cons_of_mem _ hmem)⟩
  | case7 rest body after hclose _ ih =>
    rw [closeClass_split hclose] at h
    simp only [List.mem_cons, List.mem_append, not_or] at h
    exact List.forall_mem_cons.mpr ⟨h.2.1, ih h.2.2.2⟩
  | case8 rest _ ih =>
    exact List.forall_mem_cons.mpr ⟨trivial, ih fun hmem => h (List.mem_cons_of_mem _ hmem)⟩
  | case9 c rest _ _ _ _ _ _ ih =>
    rw [List.mem_cons, not_or] at h
    exact List.forall_mem_cons.mpr ⟨Ne.symm h.1, ih h.2⟩

/-- The bodies of the classes among some pieces. -/
def classesOf (ps : List Piece) : List Text :=
  ps.filterMap fun p => match p with
    | .charClass body => some body
    | _ => none

theorem mem_classesOf {ps : List Piece} {body : Text} : body ∈ classesOf ps ↔ .charClass body ∈ ps := by
  simp only [classesOf, List.mem_filterMap]
  constructor
  · rintro ⟨p, hp, he⟩
    cases p <;> simp_all
  · intro h
    exact ⟨_, h, rfl⟩

/-- The bodies of the classes of a line. -/
def lineClasses (line : Text) : List Text := classesOf (pieces (cutLine line))

/-- The row of parts of some pieces, as a text. -/
theorem texts_parts {ps : List Piece} (h : ∀ p ∈ ps, p.IsCut) (ends : Bool) :
    Token.texts (rowTokens (ps.map Piece.part) ends) =
      ps.flatMap Piece.render ++ if ends then [.char '$'] else [] := by
  have hrender : Token.texts ((ps.map Piece.part).flatMap Part.tokens) = ps.flatMap Piece.render := by
    induction ps with
    | nil => rfl
    | cons p ps ih =>
      obtain ⟨hp, hps⟩ := List.forall_mem_cons.mp h
      rw [List.map_cons, List.flatMap_cons, List.flatMap_cons, Token.texts_append, ih hps,
        Piece.texts_part hp]
  rw [rowTokens, Token.texts_append, hrender]
  cases ends <;> rfl

theorem classesOf_append (ps qs : List Piece) : classesOf (ps ++ qs) = classesOf ps ++ classesOf qs :=
  List.filterMap_append

/-- Pieces that a fragment of a line is written from.  They have the classes of the line, and there is no backslash
in them if there is none in the line. -/
structure Writes (line : Text) (ps : List Piece) (ends : Bool) (fragment : Text) : Prop where
  cut : ∀ p ∈ ps, p.IsCut
  classes : classesOf ps = lineClasses line
  unescaped : .char '\\' ∉ line → ∀ p ∈ ps, p.IsUnescaped
  fragment : fragment = Token.texts (rowTokens (ps.map Piece.part) ends)

section writes

variable {line fragment : Text} {skipDotFolders : Bool}

theorem fragment_of_swapFile (hswap : stripLine line ∈ swapFileGlobs)
    (hkept : (translate line skipDotFolders).outcome = .kept fragment) : fragment = [.char '~', .char '$'] := by
  have hpassed : Rule.settles Rule.all (Working.start line skipDotFolders) = .kept fragment := hkept
  obtain ⟨-, hpassed⟩ := Rule.settles_of_drop rfl rfl hpassed nofun
  obtain ⟨-, hpassed⟩ := Rule.settles_of_drop rfl rfl hpassed nofun
  obtain ⟨-, hpassed⟩ := Rule.settles_of_drop rfl rfl hpassed nofun
  have hkeep : Rule.swapFile.apply (Working.start line skipDotFolders) =
      (Working.start line skipDotFolders).keep ['~', '$'] :=
    if_pos (List.contains_iff_mem.mpr hswap)
  rw [Rule.settles_cons_some (congrArg Working.outcome hkeep)] at hpassed
  exact (Outcome.kept.inj hpassed).symm

/-- A backup file: the line is a star, a tilde and perhaps a dollar. -/
theorem writes_swapFile (hswap : stripLine line ∈ swapFileGlobs) :
    Writes line [.literal '~'] true ['~', '$'] where
  cut := List.forall_mem_singleton.mpr (by decide : CodePoint.char '~' ∉ [.char '\\', .char '*', .char '?', .char '['])
  classes := by
    simp only [swapFileGlobs, List.mem_cons, List.not_mem_nil, or_false] at hswap
    rcases hswap with he | he <;> rw [lineClasses, cutLine, he] <;> decide +kernel
  unescaped _ := List.forall_mem_singleton.mpr (by decide : CodePoint.char '~' ≠ .char '\\')
  fragment := rfl

/-- The pieces of a line that is cut have no backslash if there is none in the line. -/
theorem pieces_cutLine_isUnescaped (h : .char '\\' ∉ line) : ∀ p ∈ pieces (cutLine line), p.IsUnescaped :=
  pieces_isUnescaped fun hmem => h (mem_of_mem_cutLine hmem)

variable {w : Working} (hw : Working.classified (stripLine line) (cutLine line) skipDotFolders = w)

include hw

theorem text_of_classified : w.text = cutLine line := by
  rw [← hw]
  rfl

theorem exists_extension (h : w.isExtension = true) : ∃ rest, cutLine line = .char '*' :: .char '.' :: rest := by
  have hstarts : startsExtension (cutLine line) = true := by
    rw [← hw] at h
    exact (Bool.and_eq_true_iff.mp h).2
  unfold startsExtension at hstarts
  split at hstarts
  · next c rest he => exact ⟨c :: rest, he⟩
  · cases hstarts

/-- An extension: the star in front is left out, and it is a piece of its own. -/
theorem writes_extension (h : w.isExtension = true) :
    ∃ ps, Writes line ps true (anchor (Rule.wildcards.apply w)) := by
  obtain ⟨rest, hrest⟩ := exists_extension hw h
  have hpieces : pieces (cutLine line) = .star :: pieces ('.' :: rest) := by
    rw [hrest, pieces]
    intro more he
    cases he
  refine ⟨pieces ('.' :: rest), pieces_isCut _, by rw [lineClasses, hpieces]; rfl, fun h => ?_, ?_⟩
  · have hunescaped := pieces_cutLine_isUnescaped h
    rw [hpieces] at hunescaped
    exact (List.forall_mem_cons.mp hunescaped).2
  · rw [anchor_extension h, text_of_classified hw, hrest, texts_parts (pieces_isCut _)]
    rfl

/-- A bare word: there is a slash in front of the pieces, and perhaps one behind them. -/
theorem writes_bareWord (hextension : ¬ w.isExtension = true) (h : w.isBareWord = true) :
    ∃ ps, Writes line ps false (anchor (Rule.wildcards.apply w)) := by
  obtain ⟨after, hafter, htail⟩ : ∃ after : List Piece, (∀ p ∈ after, p = .literal '/') ∧
      (if w.line.contains (.char '.') then [] else [.char '/']) = after.flatMap Piece.render := by
    split
    · exact ⟨[], by simp, rfl⟩
    · exact ⟨[.literal '/'], by simp, rfl⟩
  have hslash : Piece.IsCut (.literal (.char '/')) :=
    (by decide : CodePoint.char '/' ∉ [.char '\\', .char '*', .char '?', .char '['])
  have hslashUnescaped : Piece.IsUnescaped (.literal (.char '/')) := (by decide : CodePoint.char '/' ≠ .char '\\')
  have hall : ∀ {P : Piece → Prop}, P (.literal '/') → (∀ p ∈ pieces (cutLine line), P p) →
      ∀ p ∈ .literal '/' :: pieces (cutLine line) ++ after, P p := by
    intro P hhere hpieces
    refine List.forall_mem_append.mpr ⟨List.forall_mem_cons.mpr ⟨hhere, hpieces⟩, fun p hp => ?_⟩
    rw [hafter p hp]
    exact hhere
  have hcut := hall hslash (pieces_isCut (cutLine line))
  refine ⟨.literal '/' :: pieces (cutLine line) ++ after, hcut, ?_, fun hline => ?_, ?_⟩
  · have hnone : classesOf after = [] := by
      refine List.filterMap_eq_nil_iff.mpr fun p hp => ?_
      rw [hafter p hp]
    rw [classesOf_append, hnone, List.append_nil]
    rfl
  · exact hall hslashUnescaped (pieces_cutLine_isUnescaped hline)
  · rw [texts_parts hcut, anchor_bareWord hextension h, text_of_classified hw, htail, List.flatMap_append]
    exact (List.append_nil _).symm

/-- Any other line: its pieces are all that is written. -/
theorem writes_other (hextension : ¬ w.isExtension = true) (hbare : ¬ w.isBareWord = true) :
    Writes line (pieces (cutLine line)) false (anchor (Rule.wildcards.apply w)) where
  cut := pieces_isCut _
  classes := rfl
  unescaped := pieces_cutLine_isUnescaped
  fragment := by
    rw [texts_parts (pieces_isCut _), anchor_other hextension hbare, text_of_classified hw]
    exact (List.append_nil _).symm

end writes

/-- The fragment of a line that is kept is written from pieces. -/
theorem exists_pieces_of_kept {line fragment : Text} {skipDotFolders : Bool}
    (hkept : (translate line skipDotFolders).outcome = .kept fragment) :
    ∃ ps ends, Writes line ps ends fragment := by
  by_cases hswap : stripLine line ∈ swapFileGlobs
  · rw [fragment_of_swapFile hswap hkept]
    exact ⟨_, _, writes_swapFile hswap⟩
  rw [fragment_of_kept hswap hkept]
  by_cases hextension : (Working.classified (stripLine line) (cutLine line) skipDotFolders).isExtension = true
  · obtain ⟨ps, hwrites⟩ := writes_extension rfl hextension
    exact ⟨ps, true, hwrites⟩
  by_cases hbare : (Working.classified (stripLine line) (cutLine line) skipDotFolders).isBareWord = true
  · obtain ⟨ps, hwrites⟩ := writes_bareWord rfl hextension hbare
    exact ⟨ps, false, hwrites⟩
  · exact ⟨_, false, writes_other rfl hextension hbare⟩

end Glob

end SkipPath
