import SkipPath.Proofs.Fragment.Merge
import SkipPath.Proofs.Fragment.Parts

/-!
Fragments in the form of a shell, as rows of parts.

Writing the separators of a shell goes by characters, but where no slash is escaped it comes to the same as
going by tokens: each slash gives way to the tokens of the separator (`texts_separate`).  A row of parts is
then a row of parts again, in which a slash outside of classes is a part for each token of the separator,
and a class has them among its members (`IsFragment.forShell`).  So a fragment in the form of a shell is a
branch of an alternation if it is an expression at all (`IsFragment.branch`).
-/

namespace SkipPath.Fragment

open Regex Glob

/-! ## 1. Tokens -/

/-- A token with the slash written as some others. -/
def separateToken (sep : List Token) : Token → List Token
  | .plain c => if c = '/' then sep else [.plain c]
  | .escape c => [.escape c]

/-- The tokens of a separator are slashes or escaped backslashes, and there are some. -/
structure IsSeparator (sep : List Token) : Prop where
  nonempty : sep ≠ []
  tokens : ∀ t ∈ sep, t = .plain '/' ∨ t = .escape '\\'

/-- The tokens of the separator of a shell. -/
def separatorTokens (shell : Shell) (forwardSlash : Bool) : List Token :=
  (Token.scan (shell.separator forwardSlash)).1

section separatorTokens

variable (shell : Shell) (forwardSlash : Bool)

theorem isSeparator_separatorTokens : IsSeparator (separatorTokens shell forwardSlash) := by
  cases forwardSlash <;> cases shell <;> constructor <;> decide

theorem texts_separatorTokens :
    Token.texts (separatorTokens shell forwardSlash) = shell.separator forwardSlash := by
  cases forwardSlash <;> cases shell <;> rfl

end separatorTokens

/-- Writing separators goes by tokens where no slash is escaped. -/
theorem texts_separate (sep : List Token) {ts : List Token} (h : Token.escape '/' ∉ ts) :
    (Token.texts ts).flatMap (separate (Token.texts sep)) =
      Token.texts (ts.flatMap (separateToken sep)) := by
  induction ts with
  | nil => rfl
  | cons t ts ih =>
    rw [List.mem_cons, not_or] at h
    rw [Token.texts_cons, List.flatMap_append, ih h.2, List.flatMap_cons, Token.texts_append]
    congr 1
    cases t with
    | plain c =>
      rw [separateToken, Token.text, List.flatMap_singleton, separate]
      split
      · rfl
      · rfl
    | escape c =>
      have hc : c ≠ '/' := by
        rintro rfl
        exact h.1 rfl
      simp [separateToken, Token.text, separate, hc, Token.texts]

section separateToken

variable {sep ts : List Token} {t : Token}

theorem mem_separate (hsep : IsSeparator sep) (h : t ∈ ts.flatMap (separateToken sep)) :
    t ∈ ts ∨ t = .escape '\\' := by
  obtain ⟨u, hu, ht⟩ := List.mem_flatMap.mp h
  cases u with
  | plain c =>
    rw [separateToken] at ht
    split at ht
    · next hc =>
      rcases hsep.tokens t ht with rfl | rfl
      · exact .inl (hc ▸ hu)
      · exact .inr rfl
    · rw [List.mem_singleton.mp ht]
      exact .inl hu
  | escape c =>
    rw [List.mem_singleton.mp ht]
    exact .inl hu

theorem separateToken_ne_nil (hsep : IsSeparator sep) (t : Token) : separateToken sep t ≠ [] := by
  cases t with
  | plain c =>
    rw [separateToken]
    split
    · exact hsep.nonempty
    · exact List.cons_ne_nil _ _
  | escape c => exact List.cons_ne_nil _ _

/-- Tokens without slashes stay as they are. -/
theorem flatMap_separate_of_no_slash (h : .plain '/' ∉ ts) : ts.flatMap (separateToken sep) = ts := by
  induction ts with
  | nil => rfl
  | cons t ts ih =>
    rw [List.mem_cons, not_or] at h
    rw [List.flatMap_cons, ih h.2]
    cases t with
    | plain c =>
      have hc : c ≠ '/' := by
        rintro rfl
        exact h.1 rfl
      rw [separateToken, if_neg hc]
      rfl
    | escape c => rfl

/-- The members of a class stay members when separators are written among them. -/
theorem isMembers_separate (hsep : IsSeparator sep) {negated : Bool} (h : Bracket.IsMembers negated ts) :
    Bracket.IsMembers negated (ts.flatMap (separateToken sep)) := by
  obtain ⟨t, us, rfl⟩ := List.exists_cons_of_ne_nil h.nonempty
  refine ⟨?_, fun hclose => ?_, fun hnegated hcaret => ?_⟩
  · rw [List.flatMap_cons]
    exact List.append_ne_nil_of_left_ne_nil (separateToken_ne_nil hsep t) _
  · rcases mem_separate hsep hclose with hclose | he
    · exact h.inner hclose
    · cases he
  · rw [List.flatMap_cons, List.head?_append_of_ne_nil _ (separateToken_ne_nil hsep t)] at hcaret
    have hmem : .plain '^' ∈ [t].flatMap (separateToken sep) := by
      simpa using List.mem_of_mem_head? hcaret
    rcases mem_separate hsep hmem with hmem | he
    · exact h.caret hnegated (by rw [List.mem_singleton.mp hmem]; rfl)
    · cases he

end separateToken

/-! ## 2. Parts -/

namespace Part

/-- A part with the slash written as some tokens. -/
def separate (sep : List Token) : Part → List Part
  | .char t => (separateToken sep t).map .char
  | .anything => [.anything]
  | .oneOf negated members times => [.oneOf negated (members.flatMap (separateToken sep)) times]

variable {sep : List Token}

theorem tokens_separate (sep : List Token) (p : Part) :
    (p.separate sep).flatMap tokens = p.tokens.flatMap (separateToken sep) := by
  cases p with
  | char t =>
    rw [separate, List.flatMap_map, tokens, List.flatMap_singleton]
    exact List.flatMap_singleton' _
  | anything => rfl
  | oneOf negated members times =>
    have htimes : .plain '/' ∉ times.tokens := by cases times <;> decide
    have hnegation : .plain '/' ∉ Bracket.negation negated := by cases negated <;> decide
    simp only [separate, tokens, bracketed, List.flatMap_append, List.flatMap_cons,
      List.flatMap_nil, flatMap_separate_of_no_slash htimes, flatMap_separate_of_no_slash hnegation,
      List.append_nil]
    rfl

theorem separate_proper (hsep : IsSeparator sep) {p : Part} (h : p.IsProper) :
    ∀ q ∈ p.separate sep, q.IsProper := by
  have hbackslash : (char (.escape '\\')).IsProper := ⟨rfl, rfl⟩
  cases p with
  | char t =>
    intro q hq
    obtain ⟨u, hu, rfl⟩ := List.mem_map.mp hq
    have hmem : u ∈ [t].flatMap (separateToken sep) := by simpa using hu
    rcases mem_separate hsep hmem with hmem | rfl
    · rw [List.mem_singleton.mp hmem]
      exact h
    · exact hbackslash
  | anything => exact List.forall_mem_singleton.mpr trivial
  | oneOf negated members times =>
    refine List.forall_mem_singleton.mpr ⟨isMembers_separate hsep h.1, fun t ht => ?_⟩
    rcases mem_separate hsep ht with ht | rfl
    · exact h.2 t ht
    · trivial

end Part

/-- A row of parts with separators is a row of parts. -/
theorem rowTokens_separate (sep : List Token) (parts : List Part) (ends : Bool) :
    rowTokens (parts.flatMap (Part.separate sep)) ends =
      (rowTokens parts ends).flatMap (separateToken sep) := by
  have hdollar : (if ends then [.plain '$'] else [] : List Token).flatMap (separateToken sep) =
      if ends then [.plain '$'] else [] :=
    flatMap_separate_of_no_slash (by cases ends <;> decide)
  simp only [rowTokens, List.flatMap_append, hdollar, List.flatMap_assoc, Part.tokens_separate]

/-! ## 3. Fragments -/

/-- A text that is a row of parts. -/
def IsFragment (t : Text) : Prop :=
  ∃ parts ends, (∀ p ∈ parts, p.IsProper) ∧ t = Token.texts (rowTokens parts ends)

/-- A text in which no backslash stands before a slash. -/
def EscapesNoSlash (t : Text) : Prop := .escape '/' ∉ (Token.scan t).1

instance (t : Text) : Decidable (EscapesNoSlash t) :=
  inferInstanceAs (Decidable (.escape '/' ∉ (Token.scan t).1))

theorem isFragment_of_kept {line fragment : Text} {skipDotFolders : Bool}
    (hkept : (translate line skipDotFolders).outcome = .kept fragment) : IsFragment fragment := by
  obtain ⟨ps, ends, hcut, -, -, rfl⟩ := exists_pieces_of_kept hkept
  refine ⟨ps.map Piece.part, ends, fun p hp => ?_, rfl⟩
  obtain ⟨piece, hpiece, rfl⟩ := List.mem_map.mp hp
  exact Piece.part_proper (hcut piece hpiece)

theorem forShell_slash {shell : Shell} {forwardSlash : Bool} (h : shell.separator forwardSlash = [.char '/'])
    (t : Text) : forShell shell forwardSlash t = t := by
  have hchar : ∀ c, separate ['/'] c = [c] := by
    intro c
    unfold separate
    split
    · next hc => rw [hc]
    · rfl
  rw [forShell, h, List.flatMap_congr fun c _ => hchar c, List.flatMap_singleton']

/-- A fragment in the form of a shell is a fragment, unless that breaks an escape. -/
theorem IsFragment.forShell {shell : Shell} {forwardSlash : Bool} {t : Text} (h : IsFragment t)
    (hslash : shell.separator forwardSlash = [.char '/'] ∨ EscapesNoSlash t) :
    IsFragment (forShell shell forwardSlash t) := by
  rcases hslash with hslash | hslash
  · rwa [forShell_slash hslash]
  · obtain ⟨parts, ends, hproper, rfl⟩ := h
    rw [EscapesNoSlash, Token.scan_texts (rowTokens_proper hproper ends)] at hslash
    let sep := separatorTokens shell forwardSlash
    have hsep : IsSeparator sep := isSeparator_separatorTokens shell forwardSlash
    refine ⟨parts.flatMap (Part.separate sep), ends, fun q hq => ?_, ?_⟩
    · obtain ⟨p, hp, hq⟩ := List.mem_flatMap.mp hq
      exact Part.separate_proper hsep (hproper p hp) q hq
    · rw [Fragment.forShell, ← texts_separatorTokens, texts_separate sep hslash, rowTokens_separate]

/-- A fragment that is an expression is a branch of an alternation. -/
theorem IsFragment.branch {t : Text} (h : IsFragment t) (hok : (parse t).isOk = true) :
    ∃ b : Branch, b.text = t := by
  obtain ⟨parts, ends, hproper, rfl⟩ := h
  rcases takes_or_fails hproper with ⟨takes, htakes⟩ | hfails
  · obtain ⟨⟨items, hread⟩, e, hparse, -⟩ := parse_row hproper ends htakes
    exact exists_branch (rowTokens_proper hproper ends) hread hparse
  · cases hparse : parse (Token.texts (rowTokens parts ends)) with
    | ok e => exact absurd hparse (refused_of_fails hproper ends hfails e)
    | error refusal =>
      rw [hparse] at hok
      cases hok

end SkipPath.Fragment
