import SkipPath.Proofs.Fragment.Rows
import SkipPath.Proofs.Fragment.Separators

/-!
What the separators of the command prompt leave of a fragment.

For the command prompt of Windows each slash of a fragment is written as an escaped backslash, and the paths
come with backslashes.  If the line has no backslash of its own, this makes no difference to the pieces of a line
other than classes: whatever such a piece takes of a path, its form for the command prompt takes of the path with
backslashes (`exists_reads`).  A class may have a slash as the end of a range, or a range with the slash in it, and
then it may be refused in one form only, or take other characters.  So it all depends on the classes of the
line: it is preserved exactly if all of them are, or if it is refused in both forms, or if it finds no path in
either (`preserved_iff`).
-/

namespace SkipPath.Fragment

open Regex Glob

/-! ## 1. Paths with slashes and with backslashes -/

/-- A character of a path that is written with slashes. -/
def IsPathChar (c : CodePoint) : Prop := c ≠ '\n' ∧ c ≠ '\\'

/-- A path that is written with slashes. -/
def IsPath (t : Text) : Prop := ∀ c ∈ t, IsPathChar c

/-- A character with the slash as a backslash. -/
def backslash (c : CodePoint) : CodePoint := if c = '/' then '\\' else c

instance (t : Text) : Decidable (IsPath t) :=
  List.decidableBAll (fun c : CodePoint => c ≠ '\n' ∧ c ≠ '\\') t

/-- A path with backslashes for slashes. -/
def backslashed (t : Text) : Text := t.map backslash

/-- A fragment in the form of the command prompt. -/
def forCmd (t : Text) : Text := forShell .cmd false t

/-- A fragment is refused in both forms, or the two forms find the same paths. -/
def Preserved (t : Text) : Prop :=
  (parse t).isOk = false ∧ (parse (forCmd t)).isOk = false ∨
    ∃ e e', parse t = .ok e ∧ parse (forCmd t) = .ok e' ∧
      ∀ path, IsPath path → (e.search path = true ↔ e'.search (backslashed path) = true)

/-- Neither form of a fragment finds a path. -/
def FindsNoPath (t : Text) : Prop :=
  ∃ e e', parse t = .ok e ∧ parse (forCmd t) = .ok e' ∧
    ∀ path, IsPath path → e.search path = false ∧ e'.search (backslashed path) = false

/-- Whether a fragment is an expression that finds a path. -/
def finds (t path : Text) : Bool := (parse t).toOption.any (·.search path)

theorem finds_of_refused {t : Text} (h : (parse t).isOk = false) (path : Text) : finds t path = false := by
  unfold finds
  cases hparse : parse t with
  | ok e =>
    rw [hparse] at h
    cases h
  | error refusal => rfl

theorem Preserved.finds_eq {t path : Text} (h : Preserved t) (hpath : IsPath path) :
    finds t path = finds (forCmd t) (backslashed path) := by
  rcases h with ⟨hfirst, hsecond⟩ | ⟨e, e', hparse, hparse', hsame⟩
  · rw [finds_of_refused hfirst, finds_of_refused hsecond]
  · rw [finds, finds, hparse, hparse']
    exact Bool.eq_iff_iff.mpr (hsame path hpath)

theorem FindsNoPath.finds_eq_false {t path : Text} (h : FindsNoPath t) (hpath : IsPath path) :
    finds t path = false := by
  obtain ⟨e, _, hparse, _, hnone⟩ := h
  rw [finds, hparse]
  exact (hnone path hpath).1

theorem newline_not_mem {t : Text} (h : IsPath t) : .char '\n' ∉ t := fun hmem => (h _ hmem).1 rfl

theorem newline_not_mem_backslashed {t : Text} (h : IsPath t) : .char '\n' ∉ backslashed t := by
  intro hmem
  obtain ⟨c, hc, he⟩ := List.mem_map.mp hmem
  unfold backslash at he
  split at he
  · cases he
  · exact (h c hc).1 he

theorem backslash_eq_iff {c d : CodePoint} (hc : IsPathChar c) (hd : d ≠ '\\') (hslash : d ≠ '/') :
    backslash c = d ↔ c = d := by
  unfold backslash
  split
  · next h =>
    subst h
    exact iff_of_false (Ne.symm hd) (Ne.symm hslash)
  · exact Iff.rfl

theorem backslash_eq_backslash_iff {c : CodePoint} (hc : IsPathChar c) : backslash c = '\\' ↔ c = '/' := by
  unfold backslash
  split
  · next h => exact iff_of_true rfl h
  · next h => exact iff_of_false hc.2 h

/-! ## 2. Parts -/

namespace Part

/-- A part in the form of the command prompt. -/
def inCmd : Part → Part
  | .char (.plain c) => .char (if c = '/' then .escape '\\' else .plain c)
  | .char (.escape c) => .char (.escape c)
  | .anything => .anything
  | .oneOf negated members times =>
    .oneOf negated (members.flatMap (separateToken [.escape '\\'])) times

theorem isSeparator_backslash : IsSeparator [.escape '\\'] := by
  constructor <;> decide

theorem separate_eq_inCmd (p : Part) : p.separate [.escape '\\'] = [p.inCmd] := by
  cases p with
  | char t =>
    cases t with
    | plain c =>
      simp only [separate, separateToken, inCmd]
      split <;> rfl
    | escape c => rfl
  | anything => rfl
  | oneOf negated members times => rfl

theorem inCmd_proper {p : Part} (h : p.IsProper) : p.inCmd.IsProper :=
  separate_proper isSeparator_backslash h _ (by simp [separate_eq_inCmd])

end Part

theorem forCmd_texts {parts : List Part} {ends : Bool} (h : .escape '/' ∉ rowTokens parts ends) :
    forCmd (Token.texts (rowTokens parts ends)) = Token.texts (rowTokens (parts.map Part.inCmd) ends) := by
  have hseparator : Shell.cmd.separator false = Token.texts [.escape '\\'] := rfl
  have hparts : parts.flatMap (Part.separate [.escape '\\']) = parts.map Part.inCmd := by
    rw [List.map_eq_flatMap]
    exact List.flatMap_congr fun p _ => p.separate_eq_inCmd
  rw [forCmd, forShell, hseparator, texts_separate _ h, ← rowTokens_separate, hparts]

/-- A row of parts is an expression exactly if each part takes characters of some kind. -/
theorem isOk_row_iff {parts : List Part} (h : ∀ p ∈ parts, p.IsProper) (ends : Bool) :
    (parse (Token.texts (rowTokens parts ends))).isOk = true ↔ ∀ p ∈ parts, ∃ takes, p.Takes takes := by
  constructor
  · intro hok p hp
    rcases Part.takes_or_fails (h p hp) with htakes | hfails
    · exact htakes
    · cases hparse : parse (Token.texts (rowTokens parts ends)) with
      | ok e => exact absurd hparse (refused_of_fails h ends ⟨p, hp, hfails⟩ e)
      | error refusal =>
        rw [hparse] at hok
        cases hok
  · intro hall
    rcases takes_or_fails h with ⟨takes, htakes⟩ | ⟨p, hp, hfails⟩
    · obtain ⟨-, e, hparse, -⟩ := parse_row h ends htakes
      rw [hparse]
      rfl
    · obtain ⟨takes, htakes⟩ := hall p hp
      exact absurd hfails htakes.not_fails

/-! ## 3. Pieces -/

/-- The class of any character but one, which stands in it as one token. -/
theorem readAsAtom_allBut {t : Token} {c : CodePoint} (h : ∀ rest, Bracket.element t rest = .ok (.char c.toNat, 0)) :
    ReadAsAtom (bracketed true [t]) (.charClass true [.single c.toNat]) := by
  intro s rest hs
  have hmembers : Bracket.members 2 [] 1 (t :: .close :: rest) = .ok ([.single c.toNat], 3) := by
    simp [Bracket.members, h, Bracket.itemOf, Token.close]
  have hread : Bracket.read (.plain '^' :: t :: .close :: rest) =
      .ok { negated := true, items := [.single c.toNat], count := 3 } := by
    show (Bracket.members 2 [] 1 (t :: .close :: rest) >>= fun reading => _) = _
    rw [hmembers]
    rfl
  have hstep := step_bracket hs (.plain '^' :: t :: .close :: rest)
  rw [hread] at hstep
  exact readTokens_cons hstep

/-- Both forms of a piece take characters, in paths that are written with slashes and with backslashes; they take
the same ones unless the piece is a class. -/
structure Reads (p : Piece) (pair : Pair) : Prop where
  times : pair.times = p.part.times
  first : p.part.Takes pair.first
  second : ∃ takes, p.part.inCmd.Takes takes ∧ pair.second = takes ∘ backslash
  same : (∀ body, p ≠ .charClass body) → pair.Agrees IsPathChar

theorem reads_of_part {p : Piece} {part : Part} {first second : CodePoint → Bool} (h : p.part = part)
    (hfirst : part.Takes first) (hsecond : part.inCmd.Takes second)
    (hsame : ∀ c, IsPathChar c → (first c = true ↔ second (backslash c) = true)) : ∃ pair, Reads p pair := by
  subst h
  exact ⟨⟨_, first, second ∘ backslash⟩, rfl, hfirst, ⟨second, hsecond, rfl⟩, fun _ => hsame⟩

/-- Any character but the slash is any character but the backslash for the command prompt. -/
theorem reads_allBut {p : Piece} {times : Times} (h : p.part = .oneOf true [.plain '/'] times) :
    ∃ pair, Reads p pair := by
  have hfirst := Part.takes_oneOf (readAsAtom_allBut (t := .plain '/') (c := '/') fun _ => rfl) times
  have hsecond := Part.takes_oneOf (readAsAtom_allBut (t := .escape '\\') (c := '\\') fun _ => rfl) times
  refine reads_of_part h hfirst hsecond fun c hc => ?_
  rw [classHolds_allBut, classHolds_allBut, ne_eq, ne_eq, backslash_eq_backslash_iff hc]

/-- A character stands for itself in both forms, or it is the slash. -/
theorem reads_char {p : Piece} {t : Token} {c : CodePoint} (h : p.part = .char t) (ht : t = .plain c ∨ t = .escape c)
    (hproper : p.part.IsProper) (hbackslash : c ≠ '\\') (hslash : t ≠ .escape '/') : ∃ pair, Reads p pair := by
  rw [h] at hproper
  have hfirst := Part.takes_char ht hproper
  by_cases hc : c = '/'
  · subst hc
    have ht := ht.resolve_right hslash
    subst ht
    have hsecond := Part.takes_char (t := .escape '\\') (.inr rfl) ⟨rfl, rfl⟩
    exact reads_of_part h hfirst hsecond fun d hd => by simp [backslash_eq_backslash_iff hd]
  · have hsame : (Part.char t).inCmd = .char t := by
      rcases ht with rfl | rfl
      · simp [Part.inCmd, hc]
      · rfl
    have hsecond : (Part.char t).inCmd.Takes (· == c) := by
      rw [hsame]
      exact hfirst
    exact reads_of_part h hfirst hsecond fun d hd => by simp [backslash_eq_iff hd hbackslash hc]

/-- A piece without a backslash that is no class is read in both forms. -/
theorem exists_reads {p : Piece} (hcut : p.IsCut) (hplain : p.IsUnescaped)
    (hclass : ∀ body, p ≠ .charClass body) : ∃ pair, Reads p pair := by
  cases p with
  | literal c =>
    by_cases hc : literalEscapes.contains c = true
    · refine reads_char (t := .escape c) (by simp only [Piece.part, hc, if_true]) (.inr rfl)
        (Piece.part_proper hcut) hplain ?_
      rintro he
      cases he
      exact absurd hc (by decide)
    · exact reads_char (t := .plain c) (by simp only [Piece.part, hc]; rfl) (.inl rfl)
        (Piece.part_proper hcut) hplain (by simp)
  | escaped c => exact hplain.elim
  | loneBackslash => exact hplain.elim
  | star => exact reads_allBut rfl
  | stars =>
    refine reads_of_part rfl Part.takes_anything Part.takes_anything fun c hc => ?_
    have hbreak : backslash c ≠ '\n' := by
      unfold backslash
      split
      · decide
      · exact hc.1
    simp [hc.1, hbreak]
  | question => exact reads_allBut rfl
  | openBracket =>
    exact reads_char (t := .escape '[') rfl (.inr rfl) ⟨rfl, rfl⟩ (by decide) (by decide)
  | charClass body => exact absurd rfl (hclass body)

/-- A class is read in both forms if neither is refused. -/
theorem exists_reads_class {body : Text} (hfirst : ∃ takes, (Piece.charClass body).part.Takes takes)
    (hsecond : ∃ takes, (Piece.charClass body).part.inCmd.Takes takes) :
    ∃ pair, Reads (.charClass body) pair := by
  obtain ⟨first, hfirst⟩ := hfirst
  obtain ⟨second, hsecond⟩ := hsecond
  exact ⟨⟨.once, first, second ∘ backslash⟩, rfl, hfirst, ⟨second, hsecond, rfl⟩,
    fun hclass => absurd rfl (hclass body)⟩

/-- No slash is escaped in a piece without a backslash. -/
theorem escaped_slash_not_mem_tokens {p : Piece} (hplain : p.IsUnescaped) : .escape '/' ∉ p.part.tokens := by
  cases p with
  | literal c =>
    simp only [Piece.part, Part.tokens, List.mem_singleton]
    split
    · next hc =>
      intro he
      cases he
      exact absurd hc (by decide)
    · simp
  | escaped c => exact hplain.elim
  | loneBackslash => exact hplain.elim
  | star => decide
  | stars => decide
  | question => decide
  | openBracket => decide
  | charClass body =>
    have hmembers := escaped_slash_not_mem_memberTokens hplain
    have hnegation : ∀ negated, .escape '/' ∉ Bracket.negation negated := by
      rintro (_ | _) <;> decide
    simp [Piece.part, Part.tokens, bracketed, Times.tokens, hmembers, hnegation, Token.close]

/-! ## 4. Rows of pieces -/

/-- The text of a row of pieces. -/
def written (ps : List Piece) (ends : Bool) : Text := Token.texts (rowTokens (ps.map Piece.part) ends)

section pieces

variable {ps : List Piece} (hcut : ∀ p ∈ ps, p.IsCut) (hplain : ∀ p ∈ ps, p.IsUnescaped)

include hplain in
theorem forCmd_written (ends : Bool) :
    forCmd (written ps ends) =
      Token.texts (rowTokens (ps.map fun p => p.part.inCmd) ends) := by
  have htokens : .escape '/' ∉ rowTokens (ps.map Piece.part) ends := by
    rw [rowTokens, List.mem_append, not_or]
    refine ⟨fun hmem => ?_, by cases ends <;> decide⟩
    obtain ⟨part, hpart, hmem⟩ := List.mem_flatMap.mp hmem
    obtain ⟨p, hp, rfl⟩ := List.mem_map.mp hpart
    exact escaped_slash_not_mem_tokens (hplain p hp) hmem
  rw [written, forCmd_texts htokens, List.map_map]
  rfl

include hcut in
theorem parts_proper : ∀ part ∈ ps.map Piece.part, part.IsProper := by
  intro part hpart
  obtain ⟨p, hp, rfl⟩ := List.mem_map.mp hpart
  exact Piece.part_proper (hcut p hp)

include hcut in
theorem cmdParts_proper : ∀ part ∈ ps.map (fun p => p.part.inCmd), part.IsProper := by
  intro part hpart
  obtain ⟨p, hp, rfl⟩ := List.mem_map.mp hpart
  exact Part.inCmd_proper (Piece.part_proper (hcut p hp))

theorem exists_row (h : ∀ p ∈ ps, ∃ pair, Reads p pair) : ∃ row, List.Forall₂ Reads ps row := by
  induction ps with
  | nil => exact ⟨[], .nil⟩
  | cons p ps ih =>
    obtain ⟨⟨pair, hpair⟩, hps⟩ := List.forall_mem_cons.mp h
    obtain ⟨row, hrow⟩ := ih hps
    exact ⟨pair :: row, .cons hpair hrow⟩

/-- What the parts of pieces that are read in both forms take. -/
theorem takes_of_reads {row : List Pair} (h : List.Forall₂ Reads ps row) :
    (ps.map Piece.part).map Part.times = row.map (·.times) ∧
    (ps.map fun p => p.part.inCmd).map Part.times = row.map (·.times) ∧
    List.Forall₂ Part.Takes (ps.map Piece.part) (row.map (·.first)) ∧
    ∃ takes, List.Forall₂ Part.Takes (ps.map fun p => p.part.inCmd) takes ∧
      row.map (·.second) = takes.map (· ∘ backslash) := by
  induction h with
  | nil => exact ⟨rfl, rfl, .nil, [], .nil, rfl⟩
  | @cons p pair ps row hp _ ih =>
    obtain ⟨htimes, hcmdTimes, hfirst, takes, hsecond, hrow⟩ := ih
    obtain ⟨more, hmore, hpair⟩ := hp.second
    have hcmd : p.part.inCmd.times = pair.times := by
      rw [hp.times]
      cases p.part with
      | char t => cases t <;> rfl
      | anything => rfl
      | oneOf => rfl
    refine ⟨?_, ?_, .cons hp.first hfirst, more :: takes, .cons hmore hsecond, ?_⟩
    · simp only [List.map_cons, htimes, hp.times]
    · simp only [List.map_cons, hcmdTimes, hcmd]
    · simp only [List.map_cons, hrow, hpair]

include hcut hplain in
/-- What the two forms of a row of pieces find, if both are read. -/
theorem search_written {row : List Pair} (h : List.Forall₂ Reads ps row) (ends : Bool) :
    ∃ e e', parse (written ps ends) = .ok e ∧ parse (forCmd (written ps ends)) = .ok e' ∧
      ∀ path, IsPath path →
        (e.search path = true ↔ Found (row.map (·.times)) (row.map (·.first)) ends path) ∧
        (e'.search (backslashed path) = true ↔
          Found (row.map (·.times)) (row.map (·.second)) ends path) := by
  obtain ⟨htimes, hcmdTimes, hfirst, takes, hsecond, hrow⟩ := takes_of_reads h
  obtain ⟨-, e, hparse, hsearch⟩ := parse_row (parts_proper hcut) ends hfirst
  obtain ⟨-, e', hparse', hsearch'⟩ := parse_row (cmdParts_proper hcut) ends hsecond
  refine ⟨e, e', hparse, by rw [forCmd_written hplain]; exact hparse', fun path hpath => ⟨?_, ?_⟩⟩
  · rw [hsearch path (newline_not_mem hpath), htimes]
  · rw [hsearch' _ (newline_not_mem_backslashed hpath), hcmdTimes, backslashed, found_map, hrow]

include hcut hplain in
/-- A row of pieces that are read in both forms is preserved exactly if both find the same. -/
theorem preserved_written_iff {row : List Pair} (h : List.Forall₂ Reads ps row) (ends : Bool) :
    Preserved (written ps ends) ↔ ∀ path, IsPath path →
      (Found (row.map (·.times)) (row.map (·.first)) ends path ↔
        Found (row.map (·.times)) (row.map (·.second)) ends path) := by
  obtain ⟨e, e', hparse, hparse', hsearch⟩ := search_written hcut hplain h ends
  constructor
  · rintro (⟨hrefused, -⟩ | ⟨e₁, e₁', h₁, h₁', hsame⟩)
    · rw [hparse] at hrefused
      cases hrefused
    · rw [hparse] at h₁
      rw [hparse'] at h₁'
      cases h₁
      cases h₁'
      intro path hpath
      rw [← (hsearch path hpath).1, ← (hsearch path hpath).2]
      exact hsame path hpath
  · intro hsame
    refine .inr ⟨e, e', hparse, hparse', fun path hpath => ?_⟩
    rw [(hsearch path hpath).1, (hsearch path hpath).2]
    exact hsame path hpath

/-- What holds of all pieces other than classes holds of all pieces if it holds of the classes. -/
theorem forall_pieces_iff {P : Piece → Prop} (h : ∀ p ∈ ps, (∀ body, p ≠ .charClass body) → P p) :
    (∀ p ∈ ps, P p) ↔ ∀ body ∈ classesOf ps, P (.charClass body) := by
  constructor
  · intro hall body hbody
    exact hall _ (mem_classesOf.mp hbody)
  · intro hclasses p hp
    by_cases hclass : ∃ body, p = .charClass body
    · obtain ⟨body, rfl⟩ := hclass
      exact hclasses body (mem_classesOf.mpr hp)
    · exact h p hp fun body he => hclass ⟨body, he⟩

/-- A class as a row of its own. -/
theorem written_class {body : Text} (h : (Piece.charClass body).IsCut) :
    written [.charClass body] false = convertClass body := by
  rw [written, texts_parts (List.forall_mem_singleton.mpr h)]
  simp [Piece.render]

/-- A class is an expression exactly if it takes characters of some kind, and so it is for the command prompt. -/
theorem isOk_class_iff {body : Text} (hcut : (Piece.charClass body).IsCut)
    (hplain : (Piece.charClass body).IsUnescaped) :
    ((parse (convertClass body)).isOk = true ↔ ∃ takes, (Piece.charClass body).part.Takes takes) ∧
    ((parse (forCmd (convertClass body))).isOk = true ↔
      ∃ takes, (Piece.charClass body).part.inCmd.Takes takes) := by
  have hcuts := List.forall_mem_singleton.mpr hcut
  have hplains := List.forall_mem_singleton.mpr hplain
  rw [← written_class hcut, forCmd_written hplains, written, isOk_row_iff (parts_proper hcuts),
    isOk_row_iff (cmdParts_proper hcuts)]
  simp

include hcut hplain in
/-- A row of pieces is an expression exactly if the classes in it are, and so it is for the command prompt. -/
theorem isOk_written_iff (ends : Bool) :
    ((parse (written ps ends)).isOk = true ↔
      ∀ body ∈ classesOf ps, (parse (convertClass body)).isOk = true) ∧
    ((parse (forCmd (written ps ends))).isOk = true ↔
      ∀ body ∈ classesOf ps, (parse (forCmd (convertClass body))).isOk = true) := by
  have hclass : ∀ body ∈ classesOf ps, _ := fun body hbody =>
    isOk_class_iff (hcut _ (mem_classesOf.mp hbody)) (hplain _ (mem_classesOf.mp hbody))
  have hother : ∀ p ∈ ps, (∀ body, p ≠ .charClass body) →
      (∃ takes, p.part.Takes takes) ∧ ∃ takes, p.part.inCmd.Takes takes := by
    intro p hp hne
    obtain ⟨pair, hpair⟩ := exists_reads (hcut p hp) (hplain p hp) hne
    obtain ⟨takes, htakes, -⟩ := hpair.second
    exact ⟨⟨_, hpair.first⟩, takes, htakes⟩
  rw [forCmd_written hplain, written, isOk_row_iff (parts_proper hcut), isOk_row_iff (cmdParts_proper hcut)]
  simp only [List.forall_mem_map]
  rw [forall_pieces_iff fun p hp hne => (hother p hp hne).1, forall_pieces_iff fun p hp hne => (hother p hp hne).2]
  exact ⟨forall₂_congr fun body hbody => (hclass body hbody).1.symm,
    forall₂_congr fun body hbody => (hclass body hbody).2.symm⟩

include hcut hplain in
/-- Pieces are read in both forms if none of their classes is refused. -/
theorem exists_row_of_isOk (hall : ∀ body ∈ classesOf ps, (parse (convertClass body)).isOk = true ∧
    (parse (forCmd (convertClass body))).isOk = true) : ∃ row, List.Forall₂ Reads ps row := by
  refine exists_row ((forall_pieces_iff fun p hp hne => exists_reads (hcut p hp) (hplain p hp) hne).mpr ?_)
  intro body hbody
  have hpiece := mem_classesOf.mp hbody
  obtain ⟨hok, hokCmd⟩ := isOk_class_iff (hcut _ hpiece) (hplain _ hpiece)
  obtain ⟨h, hcmd⟩ := hall body hbody
  exact exists_reads_class (hok.mp h) (hokCmd.mp hcmd)

/-- A class that is read in both forms is preserved exactly if they take the same characters of paths. -/
theorem preserved_class_iff {body : Text} {pair : Pair} (hcut : (Piece.charClass body).IsCut)
    (hplain : (Piece.charClass body).IsUnescaped) (h : Reads (.charClass body) pair) :
    Preserved (convertClass body) ↔ pair.Agrees IsPathChar := by
  have honce : pair.times = .once := h.times
  rw [← written_class hcut, preserved_written_iff (List.forall_mem_singleton.mpr hcut)
    (List.forall_mem_singleton.mpr hplain) (.cons h .nil)]
  constructor
  · intro hsame c hc
    have hlength : [c].length = (required [pair]).length := by simp [required, honce]
    have hone := hsame [c] (List.forall_mem_singleton.mpr hc)
    rw [found_iff_of_length hlength, found_iff_of_length hlength] at hone
    simpa [required, honce] using hone
  · intro hagrees path hpath
    exact found_congr (List.forall_mem_singleton.mpr hagrees) hpath

end pieces

/-! ## 5. Lines -/

section reads

variable {ps : List Piece} (hcut : ∀ p ∈ ps, p.IsCut) (hplain : ∀ p ∈ ps, p.IsUnescaped)
  {row : List Pair} (h : List.Forall₂ Reads ps row)

include h in
/-- Each place of the two rows is one of a piece. -/
theorem exists_piece {pair : Pair} (hpair : pair ∈ row) : ∃ p ∈ ps, Reads p pair := by
  induction h with
  | nil => cases hpair
  | @cons p pair' ps row hp _ ih =>
    rcases List.mem_cons.mp hpair with rfl | hpair
    · exact ⟨p, List.mem_cons_self, hp⟩
    · obtain ⟨q, hq, hreads⟩ := ih hpair
      exact ⟨q, List.mem_cons_of_mem p hq, hreads⟩

include hcut hplain h in
/-- Two forms agree at each place exactly if the classes are preserved. -/
theorem agrees_iff_preserved : (∀ pair ∈ row, pair.Agrees IsPathChar) ↔
    ∀ body ∈ classesOf ps, Preserved (convertClass body) := by
  induction h with
  | nil => simp [classesOf]
  | @cons p pair ps row hp _ ih =>
    obtain ⟨hcutHere, hcut⟩ := List.forall_mem_cons.mp hcut
    obtain ⟨hplainHere, hplain⟩ := List.forall_mem_cons.mp hplain
    rw [List.forall_mem_cons, ih hcut hplain]
    by_cases hclass : ∃ body, p = .charClass body
    · obtain ⟨body, rfl⟩ := hclass
      have hclasses : classesOf (.charClass body :: ps) = body :: classesOf ps := rfl
      rw [hclasses, List.forall_mem_cons, preserved_class_iff hcutHere hplainHere hp]
    · have hclasses : classesOf (p :: ps) = classesOf ps := by
        cases p <;> first | rfl | exact absurd ⟨_, rfl⟩ hclass
      rw [hclasses]
      exact and_iff_right (hp.same fun body he => hclass ⟨body, he⟩)

include hcut hplain h in
/-- A row of pieces that are read in both forms is preserved exactly if the classes are, unless neither form finds a
path. -/
theorem preserved_written_iff_classes (ends : Bool) :
    Preserved (written ps ends) ↔
      (∀ body ∈ classesOf ps, Preserved (convertClass body)) ∨ FindsNoPath (written ps ends) := by
  rw [preserved_written_iff hcut hplain h ends, ← agrees_iff_preserved hcut hplain h]
  obtain ⟨e, e', hparse, hparse', hsearch⟩ := search_written hcut hplain h ends
  constructor
  · intro hsame
    by_cases hfinds : ∃ path, IsPath path ∧ Found (row.map (·.times)) (row.map (·.first)) ends path
    · -- what is found is found by one character for each class, so that each of them can be varied
      obtain ⟨path, hpath, hfound⟩ := hfinds
      have honce := agree_of_found hsame hpath hfound
      refine .inl fun pair hpair => ?_
      obtain ⟨p, -, hreads⟩ := exists_piece h hpair
      by_cases hclass : ∃ body, p = .charClass body
      · obtain ⟨body, rfl⟩ := hclass
        exact honce pair hpair hreads.times
      · exact hreads.same fun body he => hclass ⟨body, he⟩
    · refine .inr ⟨e, e', hparse, hparse', fun path hpath => ?_⟩
      have hnone : ¬ Found (row.map (·.times)) (row.map (·.first)) ends path :=
        fun hfound => hfinds ⟨path, hpath, hfound⟩
      have hnone' := (not_congr (hsame path hpath)).mp hnone
      rw [← (hsearch path hpath).1] at hnone
      rw [← (hsearch path hpath).2] at hnone'
      exact ⟨Bool.eq_false_iff.mpr hnone, Bool.eq_false_iff.mpr hnone'⟩
  · rintro (hagrees | ⟨e₁, e₁', h₁, h₁', hnone⟩)
    · exact fun path hpath => found_congr hagrees hpath
    · rw [hparse] at h₁
      rw [hparse'] at h₁'
      cases h₁
      cases h₁'
      intro path hpath
      obtain ⟨hfirst, hsecond⟩ := hnone path hpath
      rw [← (hsearch path hpath).1, ← (hsearch path hpath).2, hfirst, hsecond]

end reads

/-- A line without a backslash is preserved exactly if it is refused in both forms, which its classes tell, or if
none of its classes is refused and either all of them are preserved or the line finds no path in either form. -/
theorem preserved_iff {line fragment : Text} {skipDotFolders : Bool} (hline : .char '\\' ∉ line)
    (hkept : (translate line skipDotFolders).outcome = .kept fragment) :
    Preserved fragment ↔
      (∃ body ∈ lineClasses line, (parse (convertClass body)).isOk = false) ∧
          (∃ body ∈ lineClasses line, (parse (forCmd (convertClass body))).isOk = false) ∨
        (∀ body ∈ lineClasses line, (parse (convertClass body)).isOk = true ∧
            (parse (forCmd (convertClass body))).isOk = true) ∧
          ((∀ body ∈ lineClasses line, Preserved (convertClass body)) ∨ FindsNoPath fragment) := by
  obtain ⟨ps, ends, hcut, hclasses, hunescaped, hfragment⟩ := exists_pieces_of_kept hkept
  have hplain := hunescaped hline
  obtain ⟨hfirst, hsecond⟩ := isOk_written_iff hcut hplain ends
  rw [hfragment, ← hclasses, show Token.texts (rowTokens (ps.map Piece.part) ends) = written ps ends from rfl]
  have hrefused : ∀ {P : Text → Bool}, (∃ body ∈ classesOf ps, P body = false) ↔
      ¬ ∀ body ∈ classesOf ps, P body = true := by
    intro P
    simp
  rw [hrefused, hrefused, ← hfirst, ← hsecond]
  by_cases hall : ∀ body ∈ classesOf ps, (parse (convertClass body)).isOk = true ∧
      (parse (forCmd (convertClass body))).isOk = true
  · obtain ⟨row, hrow⟩ := exists_row_of_isOk hcut hplain hall
    have hok := hfirst.mpr fun body hbody => (hall body hbody).1
    rw [preserved_written_iff_classes hcut hplain hrow ends]
    simp only [hok, not_true_eq_false, false_and, false_or, and_iff_right hall]
  · simp only [hall, false_and, or_false, Bool.not_eq_true]
    constructor
    · rintro (hboth | ⟨e, e', hparse, hparse', -⟩)
      · exact hboth
      · -- an expression in both forms has no class that is refused in one
        have hok := hfirst.mp (by rw [hparse]; rfl)
        have hokCmd := hsecond.mp (by rw [hparse']; rfl)
        exact absurd (fun body hbody => ⟨hok body hbody, hokCmd body hbody⟩) hall
    · exact .inl

/-- The class of punctuation begins with a range up to the slash.  For the command prompt this range goes up to the
backslash, and takes capital letters as well. -/
theorem preserved_iff_punctuation :
    (translate (Text.ofString "[[:punct:]]x") true).outcome = .kept (Text.ofString "[!-/:-@\\[-`\x7b-~]x") ∧
      ¬ Preserved (Text.ofString "[!-/:-@\\[-`\x7b-~]x") := by
  have hkept : (translate (Text.ofString "[[:punct:]]x") true).outcome =
      .kept (Text.ofString "[!-/:-@\\[-`\x7b-~]x") := by decide +kernel
  have hclasses : lineClasses (Text.ofString "[[:punct:]]x") = [Text.ofString "[:punct:]"] := by decide +kernel
  refine ⟨hkept, fun hpreserved => ?_⟩
  rcases (preserved_iff (by decide +kernel) hkept).mp hpreserved with hrefused | ⟨-, hsame | hnone⟩
  · rw [hclasses] at hrefused
    exact absurd hrefused.1 (by decide +kernel)
  · rw [hclasses] at hsame
    have hletter : IsPath (Text.ofString "A") := by decide +kernel
    have hfinds := (List.forall_mem_singleton.mp hsame).finds_eq hletter
    exact absurd hfinds (by decide +kernel)
  · have hmark : IsPath (Text.ofString "!x") := by decide +kernel
    exact absurd (hnone.finds_eq_false hmark) (by decide +kernel)

/-- There is a range of characters from the slash to the digit nine, but none from the backslash to it. -/
theorem refused_for_cmd :
    .char '\\' ∉ Text.ofString "[/-9]x" ∧
      (translate (Text.ofString "[/-9]x") true).outcome = .kept (Text.ofString "[/-9]x") ∧
      (parse (Text.ofString "[/-9]x")).isOk = true ∧
      (parse (forCmd (Text.ofString "[/-9]x"))).isOk = false ∧ ¬ Preserved (Text.ofString "[/-9]x") := by
  have hok : (parse (Text.ofString "[/-9]x")).isOk = true := by decide +kernel
  have hrefused : (parse (forCmd (Text.ofString "[/-9]x"))).isOk = false := by decide +kernel
  refine ⟨by decide +kernel, by decide +kernel, hok, hrefused, ?_⟩
  rintro (⟨hboth, -⟩ | ⟨-, e', -, hparse', -⟩)
  · rw [hok] at hboth
    cases hboth
  · rw [hparse'] at hrefused
    cases hrefused

end SkipPath.Fragment
