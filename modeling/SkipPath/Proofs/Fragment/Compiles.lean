import SkipPath.Proofs.Fragment.Preserved

/-!
What can make a fragment fail.

A fragment is a row of parts, and a row is an expression exactly if each of its parts is (`isOk_row_iff`).
Parts that are no classes of the line always are: a character or an escape stands for itself, any text is
taken by the dot, and the class of all characters but the separator is read for every separator
(`takes_allButSeparator`).  So only classes can fail (`compiles_iff_classes`).

In the form of a shell the slash gives way by characters, not by tokens.  That comes to the same where no
slash is escaped, and the only pieces in which one can be are classes (`escaped_slash_not_mem_of_open`): a
backslash in front of a slash in the line is dropped from the fragment.
-/

namespace SkipPath.Fragment

open Regex Glob

/-! ## 1. Parts that are no classes of a line -/

/-- A character stands for itself, as a token of its own or escaped. -/
theorem exists_takes_char {t : Token} (h : (Part.char t).IsProper) : ∃ takes, (Part.char t).Takes takes := by
  cases t with
  | plain c => exact ⟨_, Part.takes_char (.inl rfl) h⟩
  | escape c => exact ⟨_, Part.takes_char (.inr rfl) h⟩

theorem isMembers_separator (shell : Shell) (forwardSlash : Bool) :
    Bracket.IsMembers true (separatorTokens shell forwardSlash) := by
  have hslash := isMembers_separate (isSeparator_separatorTokens shell forwardSlash) Piece.isMembers_slash
  simpa [separateToken] using hslash

/-- The class of all characters but those of the separator is read, also if that has two characters. -/
theorem takes_allButSeparator (shell : Shell) (forwardSlash : Bool) (times : Times) :
    ∃ takes, (Part.oneOf true (separatorTokens shell forwardSlash) times).Takes takes := by
  have hproper : ∀ t ∈ separatorTokens shell forwardSlash, t.IsProper := by
    intro t ht
    rcases (isSeparator_separatorTokens shell forwardSlash).tokens t ht with rfl | rfl
    · exact (by decide : CodePoint.char '/' ≠ .char '\\')
    · trivial
  have hpart : ∀ q ∈ [Part.oneOf true (separatorTokens shell forwardSlash) times], q.IsProper :=
    List.forall_mem_singleton.mpr ⟨isMembers_separator shell forwardSlash, hproper⟩
  refine (isOk_row_iff hpart false).mp ?_ _ List.mem_cons_self
  cases forwardSlash <;> cases shell <;> cases times <;> cbv

section open_piece

variable {p : Piece} (hopen : ∀ body, p ≠ .charClass body)
include hopen

/-- No slash is escaped in a piece that is no class. -/
theorem escaped_slash_not_mem_of_open : .escape '/' ∉ p.part.tokens := by
  have hchar : ∀ (escapes : List CodePoint) c, .char '/' ∉ escapes →
      .escape '/' ∉ (Part.char (if escapes.contains c then .escape c else .plain c)).tokens := by
    intro escapes c hslash
    simp only [Part.tokens, List.mem_singleton]
    split
    · next hc =>
      intro he
      cases he
      exact hslash (List.contains_iff_mem.mp hc)
    · simp
  cases p with
  | literal c => exact hchar _ c (by decide)
  | escaped c => exact hchar _ c (by decide)
  | charClass body => exact absurd rfl (hopen body)
  | _ => decide

/-- In the form of any shell such a piece is a row of parts that are read. -/
theorem takes_separate_of_open (hcut : p.IsCut) (shell : Shell) (forwardSlash : Bool) :
    ∀ q ∈ p.part.separate (separatorTokens shell forwardSlash), ∃ takes, q.Takes takes := by
  have hproper : ∀ q ∈ p.part.separate (separatorTokens shell forwardSlash), q.IsProper :=
    Part.separate_proper (isSeparator_separatorTokens shell forwardSlash) (Piece.part_proper hcut)
  have hchar : ∀ t, p.part = .char t →
      ∀ q ∈ p.part.separate (separatorTokens shell forwardSlash), ∃ takes, q.Takes takes := by
    intro t ht q hq
    have hq' := hproper q hq
    rw [ht] at hq
    obtain ⟨u, -, rfl⟩ := List.mem_map.mp hq
    exact exists_takes_char hq'
  have hallBut : ∀ times, p.part = .oneOf true [.plain '/'] times →
      ∀ q ∈ p.part.separate (separatorTokens shell forwardSlash), ∃ takes, q.Takes takes := by
    intro times ht q hq
    rw [ht, Part.separate, List.flatMap_singleton, separateToken, if_pos rfl] at hq
    rw [List.mem_singleton.mp hq]
    exact takes_allButSeparator shell forwardSlash times
  cases p with
  | literal c => exact hchar _ rfl
  | escaped c => exact hchar _ rfl
  | loneBackslash => exact hchar _ rfl
  | openBracket => exact hchar _ rfl
  | star => exact hallBut _ rfl
  | question => exact hallBut _ rfl
  | stars => exact List.forall_mem_singleton.mpr ⟨_, Part.takes_anything⟩
  | charClass body => exact absurd rfl (hopen body)

end open_piece

/-! ## 2. Rows of pieces -/

section pieces

variable {ps : List Piece} (hcut : ∀ p ∈ ps, p.IsCut)
include hcut

/-- Without classes a row is an expression in the form of any shell. -/
theorem isOk_forShell_written (hnone : classesOf ps = []) (ends : Bool) (shell : Shell) (forwardSlash : Bool) :
    (parse (forShell shell forwardSlash (written ps ends))).isOk = true := by
  have hopen : ∀ p ∈ ps, ∀ body, p ≠ .charClass body := by
    rintro p hp body rfl
    have hmem := mem_classesOf.mpr hp
    rw [hnone] at hmem
    cases hmem
  have hslash : .escape '/' ∉ rowTokens (ps.map Piece.part) ends := by
    rw [rowTokens, List.mem_append, not_or]
    refine ⟨fun hmem => ?_, by cases ends <;> decide⟩
    obtain ⟨part, hpart, hmem⟩ := List.mem_flatMap.mp hmem
    obtain ⟨p, hp, rfl⟩ := List.mem_map.mp hpart
    exact escaped_slash_not_mem_of_open (hopen p hp) hmem
  rw [forShell, written, ← texts_separatorTokens, texts_separate _ hslash, ← rowTokens_separate]
  have hparts : ∀ q ∈ (ps.map Piece.part).flatMap (Part.separate (separatorTokens shell forwardSlash)),
      ∃ p ∈ ps, q ∈ p.part.separate (separatorTokens shell forwardSlash) := by
    intro q hq
    obtain ⟨part, hpart, hq⟩ := List.mem_flatMap.mp hq
    obtain ⟨p, hp, rfl⟩ := List.mem_map.mp hpart
    exact ⟨p, hp, hq⟩
  refine (isOk_row_iff (fun q hq => ?_) ends).mpr fun q hq => ?_
  · obtain ⟨p, hp, hq⟩ := hparts q hq
    exact Part.separate_proper (isSeparator_separatorTokens shell forwardSlash)
      (Piece.part_proper (hcut p hp)) q hq
  · obtain ⟨p, hp, hq⟩ := hparts q hq
    exact takes_separate_of_open (hopen p hp) (hcut p hp) shell forwardSlash q hq

/-- A row is an expression exactly if each class in it is one on its own. -/
theorem isOk_written_iff_classes (ends : Bool) :
    (parse (written ps ends)).isOk = true ↔ ∀ body ∈ classesOf ps, (parse (convertClass body)).isOk = true := by
  have hclass : ∀ body ∈ classesOf ps, ((parse (convertClass body)).isOk = true ↔
      ∃ takes, (Piece.charClass body).part.Takes takes) := by
    intro body hbody
    have hcutClass := List.forall_mem_singleton.mpr (hcut _ (mem_classesOf.mp hbody))
    rw [← written_class (hcut _ (mem_classesOf.mp hbody)), written, isOk_row_iff (parts_proper hcutClass)]
    simp
  have hother : ∀ p ∈ ps, (∀ body, p ≠ .charClass body) → ∃ takes, p.part.Takes takes := by
    intro p hp hopen
    have hcutPiece := List.forall_mem_singleton.mpr (hcut p hp)
    have hnone : classesOf [p] = [] :=
      List.eq_nil_iff_forall_not_mem.mpr fun body hbody =>
        hopen body (List.mem_singleton.mp (mem_classesOf.mp hbody)).symm
    have hok := isOk_forShell_written hcutPiece hnone false .posix true
    rw [forShell_slash rfl, written, isOk_row_iff (parts_proper hcutPiece)] at hok
    exact hok _ List.mem_cons_self
  rw [written, isOk_row_iff (parts_proper hcut), List.forall_mem_map, forall_pieces_iff hother]
  exact forall₂_congr fun body hbody => (hclass body hbody).symm

end pieces

/-! ## 3. Lines -/

/-- A line without an opening bracket has no class. -/
theorem lineClasses_eq_nil {line : Text} (h : .char '[' ∉ line) : lineClasses line = [] := by
  have hpieces : ∀ t : Text, .char '[' ∉ t → classesOf (pieces t) = [] := by
    intro t ht
    fun_induction pieces t with
    | case1 => rfl
    | case2 => rfl
    | case3 c rest ih =>
      exact ih fun hmem => ht (List.mem_cons_of_mem _ (List.mem_cons_of_mem _ hmem))
    | case4 rest _ ih =>
      exact ih fun hmem => ht (List.mem_cons_of_mem _ (List.mem_cons_of_mem _ (mem_of_mem_dropStars hmem)))
    | case5 rest _ ih => exact ih fun hmem => ht (List.mem_cons_of_mem _ hmem)
    | case6 rest ih => exact ih fun hmem => ht (List.mem_cons_of_mem _ hmem)
    | case7 rest body after hclose _ ih => exact absurd List.mem_cons_self ht
    | case8 rest _ ih => exact absurd List.mem_cons_self ht
    | case9 c rest _ _ _ _ _ _ ih => exact ih fun hmem => ht (List.mem_cons_of_mem _ hmem)
  exact hpieces _ fun hmem => h (mem_of_mem_cutLine hmem)

/-- **Only classes can make a fragment fail.**  For every line that is kept: if there is no opening bracket in
it, or none of them opens a class, the fragment is an expression in the form of every shell; and whatever the
line, its fragment is an expression exactly if each of the classes in it is one on its own. -/
theorem compiles_iff_classes {line fragment : Text} {skipDotFolders : Bool}
    (hkept : (translate line skipDotFolders).outcome = .kept fragment) :
    (.char '[' ∉ line ∨ lineClasses line = [] →
      ∀ shell forwardSlash, (parse (forShell shell forwardSlash fragment)).isOk = true) ∧
    ((parse fragment).isOk = true ↔
      ∀ body ∈ lineClasses line, (parse (convertClass body)).isOk = true) := by
  obtain ⟨ps, ends, hcut, hclasses, -, hfragment⟩ := exists_pieces_of_kept hkept
  have hwritten : fragment = written ps ends := hfragment
  rw [hwritten, ← hclasses]
  refine ⟨fun hnone shell forwardSlash => ?_, isOk_written_iff_classes hcut ends⟩
  have hempty : classesOf ps = [] := hnone.elim (fun h => hclasses.trans (lineClasses_eq_nil h)) id
  exact isOk_forShell_written hcut hempty ends shell forwardSlash

/-- A bracket that is never closed, behind an escape, a group and a backslash in front of a slash: no class is
met, and the fragment is an expression in each form. -/
theorem compiles_iff_classes_unclosed :
    .char '[' ∈ Text.ofString "a\\*(b\\/[c?+" ∧
      (translate (Text.ofString "a\\*(b\\/[c?+") true).outcome =
        .kept (Text.ofString "a\\*\\(b/\\[c[^/]?\\+") ∧
      ∀ shell forwardSlash,
        (parse (forShell shell forwardSlash (Text.ofString "a\\*\\(b/\\[c[^/]?\\+"))).isOk = true := by
  have hkept : (translate (Text.ofString "a\\*(b\\/[c?+") true).outcome =
      .kept (Text.ofString "a\\*\\(b/\\[c[^/]?\\+") := by decide +kernel
  have hnone : lineClasses (Text.ofString "a\\*(b\\/[c?+") = [] := by decide +kernel
  exact ⟨by decide +kernel, hkept, (compiles_iff_classes hkept).1 (.inr hnone)⟩

end SkipPath.Fragment
