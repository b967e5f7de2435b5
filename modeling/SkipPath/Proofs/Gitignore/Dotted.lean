import SkipPath.Profile.Compile
import SkipPath.Proofs.Gitignore.Conversion
import SkipPath.Proofs.Glob.Translation
import SkipPath.Proofs.Regex.Members
import SkipPath.Proofs.Results

/-!
Dropping a line that starts with a dot loses nothing.

Where all folders with a dot or a dollar in front are skipped, a line that starts with such a character and goes on
as a name does is dropped (`Glob.outcome_eq_redundantDot_iff`).  By what is documented of `pathspec`, the line
ignores, whatever follows, only paths that have the character at the start or behind a slash
(`Pathspec.Documented.starts`), and that is what the fragment for these folders looks for (`search_dotFolders`).
The library that the program runs with does what is documented (`wildmatch_documented`): the plain characters at the
start of a line are found, as they are, in the paths that the line ignores (`starts_of_ignores`).
-/

namespace SkipPath

open Regex

/-! ## 1. How ignored paths begin -/

/-- A line with a plain character in front ignores only paths with the character at the start or behind a slash. -/
theorem Pathspec.Documented.starts {pathspec : Pathspec} {matchesFrom : Text → Text → Prop}
    (h : pathspec.Documented matchesFrom) {d : CodePoint} (hd : isPlain d = true) {t path : Text}
    {ignores : Text → Bool} (hread : pathspec.fromLines [d :: t] = .ok ignores) (hignored : ignores path = true)
    (hpath : .char '\n' ∉ path) : [.char '/', d] <:+: .char '/' :: path := by
  obtain ⟨above, rest, hsplit, hmatches⟩ := h.levels hread hignored hpath
  obtain ⟨rest', rfl, -⟩ := h.plain hd hmatches
  exact ⟨above, rest', by rw [hsplit]; simp⟩

namespace Gitignore

/-- The pattern in a line, without the mark of one that takes paths out again. -/
def patternIn (line : Text) : Text :=
  let t := trimLine line
  if t.head? = some (.char '!') then t.drop 1 else t

/-- Reading a pattern, by its expression. -/
theorem read_eq (line : Text) :
    Pattern.read line =
      if (trimLine line).isEmpty || (trimLine line).head? = some (.char '#') ||
        trimLine line = [.char '/'] then .ok none
      else (expressionText line (patternIn line)).bind fun
        | none => .ok none
        | some text =>
          match Regex.parse text with
          | .ok expression =>
            .ok (some { excludes := (trimLine line).head? = some (.char '!'), expression := expression })
          | .error refusal => .error (.badExpression text refusal) := rfl

theorem readAll_singleton {line : Text} (h : line ≠ []) :
    readAll [line] = (Pattern.read line).map fun found => [found].filterMap id := by
  have hkept : ([line].filter (!·.isEmpty)) = [line] := by
    rw [List.filter_singleton, List.isEmpty_eq_false_iff.mpr h]
    rfl
  rw [readAll, hkept, List.mapM_cons, List.mapM_nil]
  cases Pattern.read line <;> rfl

/-- Without the slash, or the dot and the slash, in front, a path is still the end of it behind a slash. -/
theorem relativePath_suffix (path : Text) : .char '/' :: relativePath path <:+ .char '/' :: path := by
  unfold relativePath
  split
  · exact List.suffix_cons _ _
  · exact (List.suffix_cons _ _).trans (List.suffix_cons _ _)
  · exact List.suffix_rfl

/-- What is no blank is not taken off the end of a line, nor is anything before it. -/
theorem trimLine_append {d : CodePoint} {u : Text} (hblank : ∀ c ∈ d :: u, Text.isBlank c = false) (t : Text) :
    ∃ t', trimLine (d :: u ++ t) = d :: u ++ t' := by
  unfold trimLine
  split
  · exact ⟨t, rfl⟩
  · have hkept : (d :: u).reverse.dropWhile Text.isBlank = (d :: u).reverse := by
      refine List.dropWhile_eq_self_iff.mpr fun hlength => ?_
      rw [hblank _ (List.mem_reverse.mp (List.getElem_mem hlength))]
      exact Bool.false_ne_true
    rw [Text.trimEnd, Text.dropEndWhile, List.reverse_append, List.dropWhile_append]
    split
    · exact ⟨[], by rw [hkept, List.reverse_reverse, List.append_nil]⟩
    · exact ⟨_, by rw [List.reverse_append, List.reverse_reverse]⟩

/-- A pattern ignores a path only if it takes none out again and its expression finds a match. -/
theorem search_of_ignores {p : Pattern} {path : Text} (h : ignores [p] path = true) :
    p.expression.search (relativePath path) = true := by
  unfold ignores at h
  rw [List.reverse_singleton, List.find?_singleton] at h
  split at h
  · next hfound =>
    split at hfound
    · assumption
    · cases hfound
  · cases h

/-- The pattern that a line is read as has the expression of the line. -/
theorem expression_of_read {line : Text} {p : Pattern} (h : Pattern.read line = .ok (some p)) :
    ∃ text, expressionText line (patternIn line) = .ok (some text) ∧ parse text = .ok p.expression := by
  rw [read_eq] at h
  split at h
  · cases h
  · obtain ⟨found, hfound, h⟩ := bind_eq_ok.mp h
    cases found with
    | none => cases h
    | some text =>
      simp only at h
      split at h
      · next expression hparse =>
        cases h
        exact ⟨text, hfound, hparse⟩
      · cases h

/-- A plain character is neither a blank nor the mark of an exemption, and has no meaning in a segment. -/
theorem of_isPlain {c : CodePoint} (h : Pathspec.isPlain c = true) :
    Text.isBlank c = false ∧ c ≠ '!' ∧ c ∉ specials := by
  simp only [Pathspec.isPlain, Bool.and_eq_true, Bool.not_eq_true', ← Bool.not_eq_true, List.contains_iff_mem] at h
  refine ⟨Bool.eq_false_iff.mpr h.1, fun he => h.2 (by rw [he]; decide), fun hmem => h.2 ?_⟩
  exact List.mem_append_left [.char '!', .char '#'] hmem

/-- A line ignores only paths that have the plain characters in front of it at the start or behind a slash. -/
theorem starts_of_ignores {line path : Text} {patterns : List Pattern} (hread : readAll [line] = .ok patterns)
    (hignored : ignores patterns path = true) (hpath : .char '\n' ∉ path) :
    ∃ above rest, .char '/' :: path = above ++ .char '/' :: rest ∧ line.takeWhile Pathspec.isPlain <+: rest := by
  cases hfront : line.takeWhile Pathspec.isPlain with
  | nil => exact ⟨[], path, rfl, List.nil_prefix⟩
  | cons d u =>
    obtain ⟨t, rfl⟩ : ∃ t, line = d :: u ++ t :=
      ⟨line.dropWhile Pathspec.isPlain, by rw [← hfront, List.takeWhile_append_dropWhile]⟩
    have hplain : ∀ c ∈ d :: u, Pathspec.isPlain c = true := fun c hc =>
      List.mem_takeWhile_imp (hfront.symm ▸ hc)
    rw [readAll_singleton (show d :: u ++ t ≠ [] from List.cons_ne_nil d _)] at hread
    obtain ⟨found, hfound, rfl⟩ := map_eq_ok.mp hread
    cases found with
    | none => cases hignored
    | some p =>
      obtain ⟨text, htext, hparse⟩ := expression_of_read hfound
      obtain ⟨t', htrim⟩ := trimLine_append (fun c hc => (of_isPlain (hplain c hc)).1) t
      have hpattern : patternIn (d :: u ++ t) = d :: u ++ t' := by
        rw [patternIn, htrim]
        exact if_neg fun he => (of_isPlain (hplain d List.mem_cons_self)).2.1 (Option.some.inj he)
      rw [hpattern] at htext
      obtain ⟨front, more, hfront, hmore, rfl⟩ :=
        expressionText_starts (fun c hc => (of_isPlain (hplain c hc)).2.2) htext
      obtain ⟨before, hsuffix⟩ := relativePath_suffix path
      have hrelative : .char '\n' ∉ relativePath path := fun hmem => by
        simpa [hpath] using (relativePath_suffix path).mem (List.mem_cons_of_mem (.char '/') hmem)
      obtain ⟨above, rest, hsplit, hstarts⟩ :=
        plain_behind_slash hfront hmore hparse hrelative (search_of_ignores hignored)
      exact ⟨before ++ above, rest, by rw [← hsuffix, hsplit, List.append_assoc], hstarts⟩

/-- The library that the program runs with does what is documented: from the start of a name on, a line matches what
starts with its plain characters. -/
theorem wildmatch_documented :
    wildmatch.Documented fun line rest => line.takeWhile Pathspec.isPlain <+: rest where
  levels := by
    intro line path decides hread hignored hpath
    have hread : (readAll [line]).map Gitignore.ignores = .ok decides := hread
    obtain ⟨patterns, hpatterns, rfl⟩ := map_eq_ok.mp hread
    exact starts_of_ignores hpatterns hignored hpath
  plain := by
    intro c line rest hc hmatches
    rw [List.takeWhile_cons_of_pos hc] at hmatches
    obtain ⟨more, rfl⟩ := hmatches
    exact ⟨_, rfl, List.prefix_append _ more⟩

end Gitignore

namespace Task

/-! ## 2. What is skipped anyhow -/

/-- The two characters that the fragment for these folders looks for. -/
def dotAtoms : List Bracket.Atom :=
  [{ token := .escape '$', meaning := .char '$'.toNat }, { token := .escape '.', meaning := .char '.'.toNat }]

theorem readAsAtom_dots : ReadAsAtom (bracketed false (dotAtoms.flatMap Bracket.Atom.tokens))
    (.charClass false [.single '$'.toNat, .single '.'.toNat]) := by
  have hread : ∀ a ∈ dotAtoms, a.IsRead := fun a ha =>
    Bracket.Atom.isRead_of_settled ((by decide : ∀ a ∈ dotAtoms, a.settled = true) a ha)
  have hmembers : Bracket.IsMembers false (dotAtoms.flatMap Bracket.Atom.tokens) :=
    ⟨by decide, by decide, by decide⟩
  exact Bracket.readAsAtom_of_spans hread hmembers (by decide)

/-- The fragment for folders with a dot or a dollar in front finds these characters behind a slash. -/
theorem search_dotFolders : ∃ e, parse (dotFolderFragment true) = .ok e ∧
    ∀ t, .char '\n' ∉ t → (e.search t = true ↔ [.char '/', .char '.'] <:+: t ∨ [.char '/', .char '$'] <:+: t) := by
  have hscan : Token.scan (dotFolderFragment true) =
      ([Token.plain '/'] ++ bracketed false (dotAtoms.flatMap Bracket.Atom.tokens), false) := rfl
  have hread := Gitignore.readAs_slash.readAs.append readAsAtom_dots.readAs (by simp [SaysGreed, bracketed])
  obtain ⟨htexts, hproper⟩ := Token.of_scan hscan
  have hparse := parse_of_readAs hproper hread (by simp [Node.Sound, Node.problem?])
  rw [htexts] at hparse
  refine ⟨_, hparse, fun t ht => ?_⟩
  have hdot : ∀ c : CodePoint,
      classHolds {} false [.single '$'.toNat, .single '.'.toNat] c = true ↔ c = '$' ∨ c = '.' := by
    intro c
    have hnumbers : c.toNat = '$'.toNat ∨ c.toNat = '.'.toNat ↔ c = '$' ∨ c = '.' :=
      or_congr (CodePoint.toNat_inj (b := '$')) (CodePoint.toNat_inj (b := '.'))
    simpa [classHolds, spellings, ClassItem.holds] using hnumbers
  have hspells : (Node.sequence [.char '/'.toNat, .charClass false [.single '$'.toNat, .single '.'.toNat]]).Spells {}
      (Chain [fun u _ => u = [.char '/'], fun u _ => ∃ c, classHolds {} false _ c = true ∧ u = [c]]) :=
    Node.spells_sequence (.cons (Node.spells_char '/') (.cons (Node.spells_next fun _ => rfl) .nil))
  refine (search_iff hspells ht).trans ⟨?_, ?_⟩
  · rintro ⟨v, _, w, rfl, _, _, rfl, rfl, _, _, rfl, ⟨c, hc, rfl⟩, rfl⟩
    rcases (hdot c).mp hc with rfl | rfl
    · exact .inr ⟨v, w, rfl⟩
    · exact .inl ⟨v, w, rfl⟩
  · rintro (⟨v, w, rfl⟩ | ⟨v, w, rfl⟩)
    · exact ⟨v, _, w, rfl, ['/'], ['.'], rfl, rfl, ['.'], [], rfl, ⟨'.', (hdot _).mpr (.inr rfl), rfl⟩, rfl⟩
    · exact ⟨v, _, w, rfl, ['/'], ['$'], rfl, rfl, ['$'], [], rfl, ⟨'$', (hdot _).mpr (.inl rfl), rfl⟩, rfl⟩

/-- **Dropping a redundant line loses nothing.**  Each path that a line ignores which is dropped as redundant is found
by the fragment for folders with a dot or a dollar in front, with a slash put before the path. -/
theorem redundant_lines_covered {pathspec : Pathspec} {matchesFrom : Text → Text → Prop}
    (hdocumented : pathspec.Documented matchesFrom) {line path : Text} {ignores : Text → Bool}
    (hdropped : (Glob.translate line true).outcome = .dropped .redundantDot)
    (hread : pathspec.fromLines [(Glob.translate line true).line] = .ok ignores)
    (hignored : ignores path = true) (hpath : .char '\n' ∉ path) :
    ∃ e, parse (dotFolderFragment true) = .ok e ∧ e.search ('/' :: path) = true := by
  obtain ⟨-, hdotted⟩ := Glob.outcome_eq_redundantDot_iff.mp hdropped
  obtain ⟨d, rest, hline, hd⟩ := Glob.startsDotted_head hdotted
  obtain ⟨e, hparse, hsearch⟩ := search_dotFolders
  have hread : pathspec.fromLines [d :: rest] = .ok ignores := hline ▸ hread
  have hslash : .char '\n' ∉ .char '/' :: path := by simpa using hpath
  refine ⟨e, hparse, (hsearch _ hslash).mpr ?_⟩
  rcases hd with rfl | rfl
  · exact .inl (hdocumented.starts (by decide) hread hignored hpath)
  · exact .inr (hdocumented.starts (by decide) hread hignored hpath)

/-- A class and two stars behind the dot, and a file in a folder. -/
theorem redundant_lines_covered_folder :
    (Glob.translate (Text.ofString ".x[!a]/**/c ") true).outcome = .dropped .redundantDot ∧
    ∃ ignores, Gitignore.wildmatch.fromLines [(Glob.translate (Text.ofString ".x[!a]/**/c ") true).line] = .ok ignores ∧
      ignores (Text.ofString ".xb/d/c") = true ∧
      ∃ e, parse (dotFolderFragment true) = .ok e ∧ e.search (Text.ofString "/.xb/d/c") = true := by
  have hdropped : (Glob.translate (Text.ofString ".x[!a]/**/c ") true).outcome = .dropped .redundantDot := by
    decide +kernel
  have hignores : (Gitignore.wildmatch.fromLines
      [(Glob.translate (Text.ofString ".x[!a]/**/c ") true).line]).toOption.any
        (· (Text.ofString ".xb/d/c")) = true := by
    decide +kernel
  obtain ⟨ignores, hread, hignored⟩ := exists_ok _ _ hignores
  exact ⟨hdropped, ignores, hread, hignored,
    redundant_lines_covered Gitignore.wildmatch_documented hdropped hread hignored (by decide +kernel)⟩

end Task

end SkipPath
