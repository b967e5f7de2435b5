import SkipPath.Glob.Piece
import SkipPath.Proofs.Regex.Language
import SkipPath.Proofs.Regex.Reading

/-!
A glob without classes, as a regular expression, finds what the glob means.

The meaning of a glob is given by itself, character by character (`Means`), without its pieces and without
regular expressions.  The way from there to the regular expression has three steps: a glob means what its
pieces take one after the other (`means_iff`), each piece is read as one item that spells just that
(`Piece.readAs`, `Piece.spells`), and so pieces one after the other are always a regular expression, which
finds what they take (`search_pieces`), at the end of the text if a dollar follows (`search_pieces_end`).
-/

namespace SkipPath.Glob

open Regex

/-! ## 1. The meaning of a glob -/

/-- What a glob without classes means: the texts that it matches. -/
inductive Means : (glob : Text) → Text → Prop where
  | nil : Means [] []
  /-- A backslash and a character: the character. -/
  | escaped {c : CodePoint} {rest u : Text} (h : Means rest u) : Means ('\\' :: c :: rest) (c :: u)
  /-- A backslash at the end: the backslash. -/
  | loneBackslash : Means ['\\'] ['\\']
  /-- One star: any run of characters other than the slash. -/
  | star {rest v u : Text} (hone : rest.head? ≠ some (.char '*')) (hv : .char '/' ∉ v) (h : Means rest u) :
    Means ('*' :: rest) (v ++ u)
  /-- Two stars or more, all of which are taken together: any text. -/
  | stars {rest v u : Text} (h : Means (dropStars rest) u) : Means ('*' :: '*' :: rest) (v ++ u)
  /-- A question mark: at most one character other than the slash. -/
  | question {rest v u : Text} (hone : v.length ≤ 1) (hv : .char '/' ∉ v) (h : Means rest u) :
    Means ('?' :: rest) (v ++ u)
  /-- Any other character: itself. -/
  | plain {c : CodePoint} {rest u : Text} (hc : c ∉ [.char '\\', .char '*', .char '?']) (h : Means rest u) :
    Means (c :: rest) (c :: u)

/-! ## 2. Pieces -/

namespace Piece

/-- A piece of a glob without classes; a character that stands for itself is no wildcard. -/
def IsProper : Piece → Prop
  | .literal c => c ∉ [.char '\\', .char '*', .char '?', .char '[']
  | .charClass _ => False
  | _ => True

/-- The texts that a piece takes. -/
def Takes : Piece → Text → Prop
  | .literal c, v | .escaped c, v => v = [c]
  | .loneBackslash, v => v = [.char '\\']
  | .star, v => .char '/' ∉ v
  | .stars, _ => True
  | .question, v => v.length ≤ 1 ∧ .char '/' ∉ v
  | .openBracket, v => v = [.char '[']
  | .charClass _, _ => False

end Piece

/-- The texts that pieces take one after the other. -/
def TakenBy : List Piece → Text → Prop
  | [], u => u = []
  | p :: ps, u => ∃ v w, u = v ++ w ∧ p.Takes v ∧ TakenBy ps w

theorem takenBy_cons_literal {p : Piece} {c : CodePoint} (hp : ∀ v, p.Takes v ↔ v = [c]) {ps : List Piece}
    {u : Text} : TakenBy (p :: ps) u ↔ ∃ w, u = c :: w ∧ TakenBy ps w := by
  constructor
  · rintro ⟨v, w, rfl, hv, hw⟩
    rw [hp] at hv
    subst hv
    exact ⟨w, rfl, hw⟩
  · rintro ⟨w, rfl, hw⟩
    exact ⟨[c], w, rfl, (hp _).mpr rfl, hw⟩

theorem not_mem_dropStars {c : CodePoint} {t : Text} (h : c ∉ t) : c ∉ dropStars t := by
  fun_induction dropStars t with
  | case1 rest ih => exact ih fun hmem => h (List.mem_cons_of_mem _ hmem)
  | case2 => exact h

/-- A glob without classes means what its pieces take one after the other. -/
theorem means_iff {t : Text} (h : .char '[' ∉ t) {u : Text} : Means t u ↔ TakenBy (pieces t) u := by
  fun_induction pieces t generalizing u with
  | case1 =>
    constructor
    · intro hm
      cases hm
      rfl
    · rintro rfl
      exact .nil
  | case2 =>
    rw [takenBy_cons_literal (c := '\\') fun _ => Iff.rfl]
    constructor
    · intro hm
      cases hm with
      | loneBackslash => exact ⟨[], rfl, rfl⟩
      | plain hc => exact absurd List.mem_cons_self hc
    · rintro ⟨_, rfl, rfl⟩
      exact .loneBackslash
  | case3 c rest ih =>
    rw [takenBy_cons_literal (c := c) fun _ => Iff.rfl]
    have hrest : .char '[' ∉ rest := fun hmem => h (List.mem_cons_of_mem _ (List.mem_cons_of_mem _ hmem))
    constructor
    · intro hm
      cases hm with
      | escaped hm => exact ⟨_, rfl, (ih hrest).mp hm⟩
      | plain hc => exact absurd List.mem_cons_self hc
    · rintro ⟨w, rfl, hw⟩
      exact .escaped ((ih hrest).mpr hw)
  | case4 rest _ ih =>
    have hrest : .char '[' ∉ dropStars rest :=
      not_mem_dropStars fun hmem => h (List.mem_cons_of_mem _ (List.mem_cons_of_mem _ hmem))
    constructor
    · intro hm
      cases hm with
      | star hone => exact absurd rfl hone
      | stars hm => exact ⟨_, _, rfl, trivial, (ih hrest).mp hm⟩
      | plain hc => exact absurd (by decide) hc
    · rintro ⟨v, w, rfl, -, hw⟩
      exact .stars ((ih hrest).mpr hw)
  | case5 rest hone ih =>
    have hrest : .char '[' ∉ rest := fun hmem => h (List.mem_cons_of_mem _ hmem)
    constructor
    · intro hm
      cases hm with
      | star _ hv hm => exact ⟨_, _, rfl, hv, (ih hrest).mp hm⟩
      | stars hm => exact absurd rfl (hone _)
      | plain hc => exact absurd (by decide) hc
    · rintro ⟨v, w, rfl, hv, hw⟩
      refine .star (fun hhead => ?_) hv ((ih hrest).mpr hw)
      obtain ⟨more, hmore⟩ := List.head?_eq_some_iff.mp hhead
      exact hone more hmore
  | case6 rest ih =>
    have hrest : .char '[' ∉ rest := fun hmem => h (List.mem_cons_of_mem _ hmem)
    constructor
    · intro hm
      cases hm with
      | question hone hv hm => exact ⟨_, _, rfl, ⟨hone, hv⟩, (ih hrest).mp hm⟩
      | plain hc => exact absurd (by decide) hc
    · rintro ⟨v, w, rfl, ⟨hone, hv⟩, hw⟩
      exact .question hone hv ((ih hrest).mpr hw)
  | case7 => exact absurd List.mem_cons_self h
  | case8 => exact absurd List.mem_cons_self h
  | case9 c rest hlone hescape hstars hstar hquestion hbracket ih =>
    rw [takenBy_cons_literal (c := c) fun _ => Iff.rfl]
    have hrest : .char '[' ∉ rest := fun hmem => h (List.mem_cons_of_mem _ hmem)
    have hbackslash : c ≠ '\\' := by
      intro hc
      cases rest with
      | nil => exact hlone hc rfl
      | cons d rest => exact hescape d rest hc rfl
    constructor
    · intro hm
      cases hm with
      | escaped => exact absurd rfl hbackslash
      | loneBackslash => exact absurd rfl hbackslash
      | star => exact absurd rfl hstar
      | stars => exact absurd rfl hstar
      | question => exact absurd rfl hquestion
      | plain _ hm => exact ⟨_, rfl, (ih hrest).mp hm⟩
    · rintro ⟨w, rfl, hw⟩
      refine .plain ?_ ((ih hrest).mpr hw)
      simp only [List.mem_cons, List.not_mem_nil, or_false, not_or]
      exact ⟨hbackslash, hstar, hquestion⟩

/-- The pieces of a glob without brackets. -/
theorem pieces_proper {t : Text} (h : .char '[' ∉ t) : ∀ p ∈ pieces t, p.IsProper := by
  fun_induction pieces t with
  | case1 => exact fun _ hp => absurd hp List.not_mem_nil
  | case2 => exact List.forall_mem_singleton.mpr trivial
  | case3 c rest ih =>
    exact List.forall_mem_cons.mpr ⟨trivial, ih fun hmem =>
      h (List.mem_cons_of_mem _ (List.mem_cons_of_mem _ hmem))⟩
  | case4 rest _ ih =>
    exact List.forall_mem_cons.mpr ⟨trivial, ih (not_mem_dropStars fun hmem =>
      h (List.mem_cons_of_mem _ (List.mem_cons_of_mem _ hmem)))⟩
  | case5 rest _ ih =>
    exact List.forall_mem_cons.mpr ⟨trivial, ih fun hmem => h (List.mem_cons_of_mem _ hmem)⟩
  | case6 rest ih =>
    exact List.forall_mem_cons.mpr ⟨trivial, ih fun hmem => h (List.mem_cons_of_mem _ hmem)⟩
  | case7 => exact absurd List.mem_cons_self h
  | case8 => exact absurd List.mem_cons_self h
  | case9 c rest hlone hescape _ hstar hquestion hbracket ih =>
    refine List.forall_mem_cons.mpr ⟨?_, ih fun hmem => h (List.mem_cons_of_mem _ hmem)⟩
    have hbackslash : c ≠ '\\' := by
      intro hc
      cases rest with
      | nil => exact hlone hc rfl
      | cons d rest => exact hescape d rest hc rfl
    simp only [Piece.IsProper, List.mem_cons, List.not_mem_nil, or_false, not_or]
    exact ⟨hbackslash, hstar, hquestion, hbracket⟩

/-! ## 3. Pieces as items -/

/-- The tokens of a character that has to be escaped if it is one of some. -/
def charTokens (escapes : List CodePoint) (c : CodePoint) : List Token :=
  if escapes.contains c then [.escape c] else [.plain c]

section charTokens

variable {escapes : List CodePoint} {c : CodePoint}

theorem texts_charTokens (escapes : List CodePoint) (c : CodePoint) :
    Token.texts (charTokens escapes c) = if escapes.contains c then [.char '\\', c] else [c] := by
  unfold charTokens
  split <;> rfl

/-- What may be escaped is neither a letter nor a digit. -/
theorem keptEscapes_symbols {c : CodePoint} (h : c ∈ keptEscapes) :
    Text.isAsciiLetter c = false ∧ Text.isAsciiDigit c = false := by
  have hall : keptEscapes.all (fun c => !Text.isAsciiLetter c && !Text.isAsciiDigit c) = true := by
    decide
  simpa using List.all_eq_true.mp hall c h

theorem charTokens_proper (hplain : escapes.contains c = false → c ≠ '\\') :
    ∀ t ∈ charTokens escapes c, t.IsProper := by
  unfold charTokens
  split
  · exact List.forall_mem_singleton.mpr trivial
  · next h => exact List.forall_mem_singleton.mpr (hplain (Bool.eq_false_iff.mpr h))

theorem readAs_charTokens (hescapes : ∀ d ∈ escapes, d ∈ keptEscapes)
    (hplain : escapes.contains c = false → c ∉ operators) :
    ReadAs (charTokens escapes c) [{ node := .char c.toNat }] := by
  unfold charTokens
  split
  · next h =>
    have hsymbol := keptEscapes_symbols (hescapes c (List.contains_iff_mem.mp h))
    exact (readAs_escape hsymbol.1 hsymbol.2).readAs
  · next h => exact (readAs_plain (hplain (Bool.eq_false_iff.mpr h))).readAs

theorem charTokens_quiet (hplain : escapes.contains c = false → c ∉ operators) (rest : List Token) :
    ¬ SaysGreed (charTokens escapes c ++ rest) := by
  unfold charTokens
  split
  · exact fun h => h.elim nofun nofun
  · next h =>
    have hop := hplain (Bool.eq_false_iff.mpr h)
    rintro (he | he)
    · exact hop (by rw [Token.plain.inj (Option.some.inj he)]; decide)
    · exact hop (by rw [Token.plain.inj (Option.some.inj he)]; decide)

end charTokens

namespace Piece

/-- The tokens of a piece. -/
def tokens : Piece → List Token
  | .literal c => charTokens literalEscapes c
  | .escaped c => charTokens keptEscapes c
  | .loneBackslash => [.escape '\\']
  | .star => allBut '/' ++ [.plain '*']
  | .stars => [.plain '.'] ++ [.plain '*']
  | .question => allBut '/' ++ [.plain '?']
  | .openBracket => [.escape '[']
  | .charClass _ => []

/-- The item that a piece is read as. -/
def item : Piece → Item
  | .literal c | .escaped c => { node := .char c.toNat }
  | .loneBackslash => { node := .char '\\'.toNat }
  | .star =>
    { node := .repetition .greedy 0 none (.charClass true [.single '/'.toNat]), kind := .repeated }
  | .stars => { node := .repetition .greedy 0 none .any, kind := .repeated }
  | .question =>
    { node := .repetition .greedy 0 (some 1) (.charClass true [.single '/'.toNat]), kind := .repeated }
  | .openBracket => { node := .char '['.toNat }
  | .charClass _ => { node := .empty }

variable {p : Piece}

theorem texts_tokens (h : p.IsProper) : Token.texts p.tokens = p.render := by
  cases p with
  | literal c => exact texts_charTokens literalEscapes c
  | escaped c => exact texts_charTokens keptEscapes c
  | charClass body => exact h.elim
  | _ => rfl

/-- A character that stands for itself and is not escaped is no operator. -/
theorem literal_plain {c : CodePoint} (h : (literal c).IsProper) (hplain : literalEscapes.contains c = false) :
    c ∉ operators := by
  have hall : operators.all (fun c =>
      literalEscapes.contains c || [.char '\\', .char '*', .char '?', .char '['].contains c) = true := by
    decide
  intro hop
  have hc := List.all_eq_true.mp hall c hop
  rw [hplain, Bool.false_or] at hc
  exact h (List.contains_iff_mem.mp hc)

theorem escaped_plain {c : CodePoint} (hplain : keptEscapes.contains c = false) : c ∉ operators := by
  have hall : operators.all keptEscapes.contains = true := by decide
  intro hop
  rw [List.all_eq_true.mp hall c hop] at hplain
  cases hplain

theorem tokens_proper (h : p.IsProper) : ∀ t ∈ p.tokens, t.IsProper := by
  cases p with
  | literal c =>
    exact charTokens_proper fun _ he => h (by rw [he]; exact List.mem_cons_self)
  | escaped c =>
    refine charTokens_proper fun hplain he => ?_
    rw [he] at hplain
    exact absurd hplain (by decide)
  | charClass body => exact h.elim
  | _ => simp [tokens, allBut, Token.IsProper]

/-- A piece is read as its item. -/
theorem readAs (h : p.IsProper) : ReadAs p.tokens [p.item] := by
  cases p with
  | literal c => exact readAs_charTokens (fun _ => List.mem_append_left _) (literal_plain h)
  | escaped c => exact readAs_charTokens (fun _ => id) escaped_plain
  | loneBackslash => exact (readAs_escape rfl rfl).readAs
  | star => exact (readAs_allBut '/').star
  | stars => exact readAs_any.star
  | question => exact (readAs_allBut '/').option
  | openBracket => exact (readAs_escape rfl rfl).readAs
  | charClass body => exact h.elim

/-- A piece does not say how the repetition before it chooses. -/
theorem tokens_quiet (h : p.IsProper) (rest : List Token) : ¬ SaysGreed (p.tokens ++ rest) := by
  cases p with
  | literal c => exact charTokens_quiet (literal_plain h) rest
  | escaped c => exact charTokens_quiet escaped_plain rest
  | charClass body => exact h.elim
  | _ => exact fun he => he.elim nofun nofun

theorem sound (p : Piece) : p.item.node.Sound := by
  cases p <;> exact fun _ => rfl

/-- The item of a piece spells what the piece takes. -/
theorem spells (h : p.IsProper) : p.item.node.Spells {} fun v _ => p.Takes v := by
  have hslash : ∀ v : Text, (∀ c ∈ v, classHolds {} true [.single (CodePoint.toNat '/')] c = true) ↔ .char '/' ∉ v := by
    intro v
    simp only [classHolds_allBut]
    exact ⟨fun hall hmem => hall '/' hmem rfl, fun hnot c hc he => hnot (he ▸ hc)⟩
  cases p with
  | literal c => exact Node.spells_char c
  | escaped c => exact Node.spells_char c
  | loneBackslash => exact Node.spells_char '\\'
  | openBracket => exact Node.spells_char '['
  | star => exact (Node.spells_star fun _ => rfl).congr fun v _ _ => hslash v
  | question =>
    exact (Node.spells_option fun _ => rfl).congr fun v _ _ => and_congr_right fun _ => hslash v
  | stars =>
    refine (Node.spells_star fun _ => rfl).congr fun v rest hv => iff_of_true (fun c hc => ?_) trivial
    have hne : c ≠ '\n' := fun he => hv (List.mem_append_left rest (he ▸ hc))
    simpa using hne
  | charClass body => exact h.elim

end Piece

/-! ## 4. Rows of pieces -/

theorem texts_pieces {ps : List Piece} (h : ∀ p ∈ ps, p.IsProper) :
    Token.texts (ps.flatMap Piece.tokens) = ps.flatMap Piece.render := by
  induction ps with
  | nil => rfl
  | cons p ps ih =>
    obtain ⟨hp, hps⟩ := List.forall_mem_cons.mp h
    rw [List.flatMap_cons, List.flatMap_cons, ← ih hps, ← Piece.texts_tokens hp]
    exact List.flatMap_append

theorem tokens_pieces_proper {ps : List Piece} (h : ∀ p ∈ ps, p.IsProper) :
    ∀ t ∈ ps.flatMap Piece.tokens, t.IsProper := by
  intro t ht
  obtain ⟨p, hp, ht⟩ := List.mem_flatMap.mp ht
  exact Piece.tokens_proper (h p hp) t ht

theorem readAs_pieces {ps : List Piece} (h : ∀ p ∈ ps, p.IsProper) :
    ReadAs (ps.flatMap Piece.tokens) (ps.map Piece.item) :=
  ReadAs.flatMap (fun p hp => Piece.readAs (h p hp)) fun p hp => Piece.tokens_quiet (h p hp)

theorem sound_pieces (ps : List Piece) : ∀ item ∈ ps.map Piece.item, item.node.Sound := by
  intro item hitem
  obtain ⟨p, -, rfl⟩ := List.mem_map.mp hitem
  exact p.sound

/-- What pieces take, as the languages of their items. -/
theorem chain_pieces {ps : List Piece} {u rest : Text} :
    Chain (ps.map fun p v _ => p.Takes v) u rest ↔ TakenBy ps u := by
  induction ps generalizing u with
  | nil => exact Iff.rfl
  | cons p ps ih =>
    show Then (fun v _ => p.Takes v) (Chain (ps.map fun p v _ => p.Takes v)) u rest ↔ _
    simp only [Then, TakenBy, ih]

theorem spells_pieces {ps : List Piece} (h : ∀ p ∈ ps, p.IsProper) :
    List.Forall₂ (Node.Spells {}) ((ps.map Piece.item).map (·.node)) (ps.map fun p v _ => p.Takes v) := by
  induction ps with
  | nil => exact .nil
  | cons p ps ih =>
    obtain ⟨hp, hps⟩ := List.forall_mem_cons.mp h
    exact .cons (Piece.spells hp) (ih hps)

/-- Pieces find what they take, anywhere in a text. -/
theorem search_pieces {ps : List Piece} (h : ∀ p ∈ ps, p.IsProper) :
    ∃ e, parse (ps.flatMap Piece.render) = .ok e ∧ ∀ t, .char '\n' ∉ t →
      (e.search t = true ↔ ∃ v u w, t = v ++ u ++ w ∧ TakenBy ps u) := by
  have hparse := parse_of_readAs (tokens_pieces_proper h) (readAs_pieces h) (sound_pieces ps)
  rw [texts_pieces h] at hparse
  refine ⟨_, hparse, fun t ht => ?_⟩
  rw [search_iff (Node.spells_sequence (spells_pieces h)) ht]
  simp only [chain_pieces]

/-- Pieces with a dollar behind them find what they take at the end of a text. -/
theorem search_pieces_end {ps : List Piece} (h : ∀ p ∈ ps, p.IsProper) :
    ∃ e, parse (ps.flatMap Piece.render ++ [.char '$']) = .ok e ∧ ∀ t, .char '\n' ∉ t →
      (e.search t = true ↔ ∃ v u, t = v ++ u ∧ TakenBy ps u) := by
  have hparse : parse (ps.flatMap Piece.render ++ [.char '$']) =
      .ok { flags := {}, tree := .sequence ((ps.map Piece.item ++ [Item.lineEnd]).map (·.node)) } := by
    have hread := (readAs_pieces h).append readAs_lineEnd fun rest _ he => he.elim nofun nofun
    have hdollar : Token.IsProper (.plain (.char '$')) := show CodePoint.char '$' ≠ '\\' by decide
    have hproper := List.forall_mem_append.mpr
      ⟨tokens_pieces_proper h, List.forall_mem_singleton.mpr hdollar⟩
    have hsound := List.forall_mem_append.mpr
      ⟨sound_pieces ps, List.forall_mem_singleton.mpr (fun _ => rfl : Item.lineEnd.node.Sound)⟩
    rw [← parse_of_readAs hproper hread hsound, ← texts_pieces h]
    congr 1
    simp only [Token.texts, List.flatMap_append, List.flatMap_singleton]
    rfl
  refine ⟨_, hparse, fun t ht => ?_⟩
  have hspells : (Node.sequence ((ps.map Piece.item ++ [Item.lineEnd]).map (·.node))).Spells {}
      (Chain ((ps.map fun p v _ => p.Takes v) ++ [fun u rest => u = [] ∧ rest = []])) := by
    rw [List.map_append]
    exact Node.spells_sequence (List.rel_append (spells_pieces h) (.cons Node.spells_lineEnd .nil))
  rw [search_iff hspells ht]
  constructor
  · rintro ⟨v, _, w, rfl, hchain⟩
    obtain ⟨u, _, rfl, hu, _, _, rfl, ⟨rfl, hend⟩, rfl⟩ := chain_append.mp hchain
    rw [List.nil_append] at hend
    subst hend
    refine ⟨v, u, ?_, chain_pieces.mp hu⟩
    simp
  · rintro ⟨v, u, rfl, hu⟩
    refine ⟨v, u, [], (List.append_nil _).symm, chain_append.mpr ⟨u, [], ?_, ?_, ?_⟩⟩
    · exact (List.append_nil u).symm
    · exact chain_pieces.mpr hu
    · exact ⟨[], [], rfl, ⟨rfl, rfl⟩, rfl⟩

/-- Characters that stand for themselves take just the text that they are. -/
theorem takenBy_literals {t u : Text} : TakenBy (t.map .literal) u ↔ u = t := by
  induction t generalizing u with
  | nil => exact Iff.rfl
  | cons c t ih =>
    rw [List.map_cons, takenBy_cons_literal (c := c) fun _ => Iff.rfl]
    simp only [ih, exists_eq_right]

end SkipPath.Glob
