import SkipPath.Proofs.Glob.Spelling
import SkipPath.Proofs.Regex.Members

/-!
Plain classes and the characters in them.

In a class without backslashes and names the members are read from left to right (`membersOf`): a character, a
hyphen and another character are a range, any other character stands for itself.  The class of a regular
expression is read in the same way, atom by atom (`spans_charAtoms`), since a dot or a bracket is escaped for
it as well within a range, and a hyphen at the end is a member in both.  So the expression that a plain class is
written as takes the characters of the class, if it is an expression (`search_plain`).
-/

namespace SkipPath.Glob

open Regex Regex.Bracket

/-! ## 1. The members of a plain class -/

/-- A member of a class. -/
inductive Member where
  | one (c : CodePoint)
  | range (low high : CodePoint)
deriving Repr, DecidableEq

/-- The members of a class, from left to right. -/
def membersOf : Text → List Member
  | low :: '-' :: high :: rest => .range low high :: membersOf rest
  | c :: rest => .one c :: membersOf rest
  | [] => []

namespace Member

/-- The characters of a member. -/
def holds : Member → CodePoint → Bool
  | .one c, d => d = c
  | .range low high, d => low ≤ d && d ≤ high

/-- A member as classes of regular expressions have it. -/
def span : Member → Span
  | .one c => .one (.char c.toNat)
  | .range low high => .range (.char low.toNat) (.char high.toNat)

/-- A member has the characters of its span, if that is in order. -/
theorem holds_span {m : Member} (h : m.span.inOrder = true) (c : CodePoint) :
    m.span.item.holds false c = m.holds c := by
  cases m with
  | one d => simp [span, Span.item, itemOf, ClassItem.holds, holds, CodePoint.toNat_inj]
  | range low high =>
    have hitem : range? (.char low.toNat) (.char high.toNat) = some (.range low.toNat high.toNat) := by
      refine if_neg fun hlt => ?_
      simp [span, Span.inOrder, range?, hlt] at h
    rw [span, Span.item, hitem]
    rfl

end Member

/-- Whether a character is in the class with a plain body. -/
def inClass (body : Text) (c : CodePoint) : Bool :=
  (membersOf (splitNegation body).2).any (·.holds c) != (splitNegation body).1

/-- A body without backslashes, and in which no name begins. -/
structure IsPlain (body : Text) : Prop where
  backslash : .char '\\' ∉ body
  name : ¬ [.char '[', .char ':'] <:+: body

/-! ## 2. How they are written -/

/-- The token of a member of a plain class. -/
def memberToken (c : CodePoint) : Token := if c ∈ [.char '.', .char '[', .char ']'] then .escape c else .plain c

theorem memberToken_ne_close (c : CodePoint) : memberToken c ≠ .close := by
  unfold memberToken
  split
  · exact nofun
  · next hc =>
    intro he
    exact hc (by rw [Token.plain.inj he]; decide)

theorem memberToken_eq_hyphen {c : CodePoint} : memberToken c = .plain '-' ↔ c = '-' := by
  unfold memberToken
  split
  · next hc =>
    refine iff_of_false nofun ?_
    rintro rfl
    exact absurd hc (by decide)
  · exact ⟨Token.plain.inj, fun he => congrArg Token.plain he⟩

theorem element_memberToken (c : CodePoint) (rest : List Token) :
    Bracket.element (memberToken c) rest = .ok (.char c.toNat, 0) := by
  unfold memberToken
  split
  · next hc =>
    simp only [List.mem_cons, List.not_mem_nil, or_false] at hc
    rcases hc with rfl | rfl | rfl <;> rfl
  · rfl

/-- A character that is no backslash and begins no name is written as its token. -/
theorem scan_convertMembers_cons {c : CodePoint} {t : Text} (hbackslash : c ≠ '\\')
    (hname : c = '[' → namedClass? t = none) :
    (Token.scan (convertMembers (c :: t))).1 = memberToken c :: (Token.scan (convertMembers t)).1 := by
  by_cases hopen : c = '['
  · subst hopen
    rw [convertMembers]
    split
    · next hsome => cases (hname rfl).symm.trans hsome
    · rfl
  by_cases hescaped : c = '.' ∨ c = ']'
  · rw [convertMembers_escaped hescaped, Token.scan_escape]
    rcases hescaped with rfl | rfl <;> rfl
  · have hplain : c ∉ [.char '\\', .char '[', .char '.', .char ']'] := by
      simp only [List.mem_cons, List.not_mem_nil, or_false, not_or] at hescaped ⊢
      exact ⟨hbackslash, hopen, hescaped⟩
    have htoken : memberToken c = .plain c := if_neg fun hmem => by
      simp only [List.mem_cons, List.not_mem_nil, or_false] at hmem hplain
      tauto
    rw [convertMembers_plain hplain, Token.scan_plain hbackslash, htoken]

/-- The members of a plain class are written one by one. -/
theorem scan_convertMembers {t : Text} (hbackslash : .char '\\' ∉ t) (hname : ¬ [.char '[', .char ':'] <:+: t) :
    (Token.scan (convertMembers t)).1 = t.map memberToken := by
  induction t with
  | nil =>
    rw [convertMembers]
    rfl
  | cons c t ih =>
    rw [List.mem_cons, not_or] at hbackslash
    have hrest := ih hbackslash.2 fun h => hname (h.trans (List.suffix_cons c t).isInfix)
    have hnone : c = '[' → namedClass? t = none := by
      rintro rfl
      unfold namedClass?
      split
      · exact absurd (List.prefix_append [CodePoint.char '[', .char ':'] _).isInfix hname
      · rfl
    rw [scan_convertMembers_cons (Ne.symm hbackslash.1) hnone, hrest, List.map_cons]

/-! ## 3. How they are read -/

/-- A character as an atom of a class. -/
def charAtom (c : CodePoint) : Atom := { token := memberToken c, meaning := .char c.toNat }

theorem charAtom_isRead (c : CodePoint) : (charAtom c).IsRead := ⟨element_memberToken c, memberToken_ne_close c⟩

theorem charAtom_isHyphen (c : CodePoint) : (charAtom c).isHyphen = decide (c = '-') :=
  decide_eq_decide.mpr memberToken_eq_hyphen

theorem tokens_charAtoms (t : Text) : (t.map charAtom).flatMap Atom.tokens = t.map memberToken := by
  rw [List.flatMap_map, List.map_eq_flatMap]
  rfl

/-- Characters are read as the members they make. -/
theorem spans_charAtoms (t : Text) : spans (t.map charAtom) = (membersOf t).map Member.span := by
  fun_induction membersOf t with
  | case1 low high t ih =>
    simp only [List.map_cons, spans, charAtom_isHyphen, decide_true, if_true, ih, Member.span]
    rfl
  | case2 c t hno ih =>
    have hnext : startsRange (t.map charAtom) = false := by
      rcases t with _ | ⟨d, _ | ⟨e, t⟩⟩
      · rfl
      · rfl
      · show (charAtom d).isHyphen = false
        rw [charAtom_isHyphen, decide_eq_false_iff_not]
        exact fun he => hno e t (by rw [he])
    rw [List.map_cons, spans_cons hnext, ih]
    rfl
  | case3 => rfl

/-! ## 4. What they match -/

theorem any_congr_of_mem {α : Type} {l : List α} {p q : α → Bool} (h : ∀ a ∈ l, p a = q a) : l.any p = l.any q := by
  rw [Bool.eq_iff_iff, List.any_eq_true, List.any_eq_true]
  exact exists_congr fun a => and_congr_right fun ha => by rw [h a ha]

/-- Without hyphens every character is a member. -/
theorem membersOf_of_no_hyphen {t : Text} (h : .char '-' ∉ t) : membersOf t = t.map .one := by
  fun_induction membersOf t with
  | case1 low high t ih => exact absurd (List.mem_cons_of_mem _ List.mem_cons_self) h
  | case2 c t _ ih => rw [ih fun hmem => h (List.mem_cons_of_mem c hmem), List.map_cons]
  | case3 => rfl

/-- The normal spelling has the same characters. -/
theorem any_holds_normalMembers (members : Text) (c : CodePoint) :
    (membersOf (normalMembers members)).any (·.holds c) = (membersOf members).any (·.holds c) := by
  by_cases hone : isOneLetter members = true
  · have hhyphen : .char '-' ∉ members := fun hmem =>
      absurd ((isOneLetter_iff hone).2 '-' hmem) (by decide)
    have hhyphen' : .char '-' ∉ normalMembers members := fun hmem => hhyphen (mem_normalMembers.mp hmem)
    rw [membersOf_of_no_hyphen hhyphen, membersOf_of_no_hyphen hhyphen', Bool.eq_iff_iff]
    simp only [List.any_map, List.any_eq_true, Function.comp_apply, mem_normalMembers]
  · rw [normalMembers, if_neg hone]

section plain

variable {t body after : Text} (hclose : closeClass t = some (body, after)) (hplain : IsPlain body)

include hplain in
/-- The members of a plain class in their normal spelling are written one by one. -/
theorem memberTokens_of_plain :
    memberTokens body = (normalMembers (splitNegation body).2).map memberToken := by
  have hsuffix := splitNegation_suffix body
  have hbackslash : .char '\\' ∉ (splitNegation body).2 := fun hmem => hplain.backslash (hsuffix.mem hmem)
  refine scan_convertMembers (fun hmem => hbackslash (mem_normalMembers.mp hmem)) fun hname => ?_
  by_cases hone : isOneLetter (splitNegation body).2 = true
  · have hopen : .char '[' ∈ (splitNegation body).2 := mem_normalMembers.mp (hname.mem List.mem_cons_self)
    exact absurd ((isOneLetter_iff hone).2 '[' hopen) (by decide)
  · rw [normalMembers, if_neg hone] at hname
    exact hplain.name (hname.trans hsuffix.isInfix)

include hclose hplain in
/-- The expression of a plain class finds just the characters in the class. -/
theorem search_plain {e : Expression} (hparse : parse (convertClass body) = .ok e) (c : CodePoint) :
    e.search [c] = inClass body c := by
  have htokens : memberTokens body = ((normalMembers (splitNegation body).2).map charAtom).flatMap Atom.tokens := by
    rw [memberTokens_of_plain hplain, tokens_charAtoms]
  have hmembers := isMembers_memberTokens hclose
  have hproper := memberTokens_proper body
  rw [htokens] at hmembers hproper
  rw [← texts_memberTokens hclose, htokens] at hparse
  obtain ⟨hordered, rfl⟩ :=
    (parse_bracketed (List.forall_mem_map.mpr fun c _ => charAtom_isRead c) hmembers hproper).mp hparse
  refine (search_spans _ _ c).trans ?_
  rw [spans_charAtoms] at hordered ⊢
  rw [inClass, ← any_holds_normalMembers, List.any_map]
  congr 1
  exact any_congr_of_mem fun m hm => Member.holds_span (hordered _ (List.mem_map_of_mem hm)) c

end plain

/-- **Plain classes keep their set.**  If the expression that a plain class is written as is one at all, it finds a
character exactly if that is in the class.  Two classes of spellings of one letter with the same set are written
alike exactly if they are the same, or if none of them is an exception. -/
theorem plain_classes_keep_set (body : Text) :
    (∀ t after, closeClass t = some (body, after) → IsPlain body →
      ∀ e, parse (convertClass body) = .ok e → ∀ c, e.search [c] = true ↔ inClass body c = true) ∧
    ∀ body', (splitNegation body).1 = (splitNegation body').1 →
      Alike (splitNegation body).2 → Alike (splitNegation body').2 →
      (∀ c, c ∈ (splitNegation body).2 ↔ c ∈ (splitNegation body').2) →
      (convertClass body = convertClass body' ↔
        (splitNegation body).2 = (splitNegation body').2 ∨
          Recognized (splitNegation body).2 ∧ Recognized (splitNegation body').2) := by
  refine ⟨fun t after hclose hplain e hparse c => ?_, fun body' => convertClass_eq_iff⟩
  rw [search_plain hclose hplain hparse]

/-- A negated class with a bracket in front and a range, and two classes of one letter. -/
theorem plain_classes_keep_set_ranges :
    (∀ e, parse (convertClass (Text.ofString "!]a-c")) = .ok e →
      e.search [']'] = false ∧ e.search ['b'] = false ∧ e.search ['d'] = true) ∧
    (parse (convertClass (Text.ofString "!]a-c"))).isOk = true ∧
    convertClass (Text.ofString "bB") = convertClass (Text.ofString "BbB") := by
  have hclose : closeClass (Text.ofString "!]a-c]") = some (Text.ofString "!]a-c", []) := by decide +kernel
  have hplain : IsPlain (Text.ofString "!]a-c") := ⟨by decide +kernel, by decide +kernel⟩
  refine ⟨fun e hparse => ?_, by decide +kernel, ?_⟩
  · have hsearch := (plain_classes_keep_set _).1 _ _ hclose hplain e hparse
    simp only [← Bool.not_eq_true, hsearch]
    decide +kernel
  · have hbody : (splitNegation (Text.ofString "bB")).2 = [.char 'b', .char 'B'] := by decide +kernel
    have hbody' : (splitNegation (Text.ofString "BbB")).2 = [.char 'B', .char 'b', .char 'B'] := by decide +kernel
    have halike : ∀ members : Text, (∀ c ∈ members, c = 'b' ∨ c = 'B') → Alike members := fun _ =>
      alike_of_pair (by decide +kernel) (by decide +kernel) (by decide +kernel)
    refine ((plain_classes_keep_set (Text.ofString "bB")).2 (Text.ofString "BbB") (by decide +kernel)
      (halike _ (by simp [hbody])) (halike _ (by simp [hbody'])) ?_).mpr (.inr ?_)
    · intro c
      simp only [hbody, hbody', List.mem_cons, List.not_mem_nil, or_false]
      tauto
    · decide +kernel

/-- Two classes of the same two letters are not written alike: one of them ends in a capital sigma. -/
theorem sigma_spelled_apart :
    ∃ body body', closeClass (body ++ [.char ']']) = some (body, []) ∧
      closeClass (body' ++ [.char ']']) = some (body', []) ∧
      Alike body ∧ Alike body' ∧ (∀ c, c ∈ body ↔ c ∈ body') ∧ convertClass body ≠ convertClass body' := by
  have hsigmas : ∀ members : Text, (∀ c ∈ members, c = 'σ' ∨ c = 'Σ') → Alike members := fun _ =>
    alike_of_pair (by decide +kernel) (by decide +kernel) (by decide +kernel)
  have halike : Alike ['σ', 'Σ'] := hsigmas _ (by simp)
  have halike' : Alike ['Σ', 'σ'] := hsigmas _ (by simp)
  have hsame : ∀ c : CodePoint, c ∈ [.char 'σ', .char 'Σ'] ↔ c ∈ [.char 'Σ', .char 'σ'] :=
    fun c => by simp [or_comm]
  refine ⟨['σ', 'Σ'], ['Σ', 'σ'], by decide +kernel, by decide +kernel, halike, halike', hsame, fun heq => ?_⟩
  have hiff : convertClass ['σ', 'Σ'] = convertClass ['Σ', 'σ'] ↔
      (['σ', 'Σ'] : Text) = ['Σ', 'σ'] ∨ Recognized ['σ', 'Σ'] ∧ Recognized ['Σ', 'σ'] :=
    @convertClass_eq_iff ['σ', 'Σ'] ['Σ', 'σ'] rfl halike halike' hsame
  rcases hiff.mp heq with hequal | hrecognized
  · exact absurd hequal (by decide)
  · exact absurd hrecognized.1 (by decide)

end SkipPath.Glob
