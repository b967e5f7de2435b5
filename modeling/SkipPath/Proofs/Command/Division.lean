import SkipPath.Proofs.Command.Check
import SkipPath.Proofs.Loader.Lines
import SkipPath.Proofs.Profile.Breaks
import SkipPath.Proofs.Results

/-!
Two divisions of a file into lines.

Where decisions are compared, `pathspec` is given the parts of the file between all line breaks that
Unicode knows, and the compiler the lines between line feeds.  Every line that is translated holds a part that
the tool does not pass over (`Row.partLines_ne_nil`), so there are at least as many such parts as pattern lines;
hence they are the same exactly if no pattern line is cut and no other line holds such a part
(`divisions_agree_iff`).  A form feed in the middle of a line makes the difference (`divided_at_form_feed`).

What follows about parts follows from two equations: a break separates the parts in front of it from those behind it
(`Row.partLines_append_break`), and a text without a break is its own part (`Row.partLines_of_whole`).
-/

namespace SkipPath

/-! ## 1. Breaks -/

namespace Text

theorem isBlank_of_isBreak {c : CodePoint} (h : isBreak c = true) : isBlank c = true := by
  simp only [isBreak, isBlank, blankRanges, inRanges] at h ⊢
  grind

/-- No part of a text between breaks holds a break. -/
theorem isBreak_of_mem_splitOnP {t part : Text} (hpart : part ∈ t.splitOnP isBreak) {c : CodePoint} (hc : c ∈ part) :
    isBreak c = false := by
  induction t generalizing part with
  | nil =>
    rw [List.splitOnP_nil, List.mem_singleton] at hpart
    subst hpart
    cases hc
  | cons d t ih =>
    rw [List.splitOnP_cons_eq_if_modifyHead] at hpart
    split at hpart
    · rcases List.mem_cons.mp hpart with rfl | hpart
      · cases hc
      · exact ih hpart hc
    · next hd =>
      obtain ⟨first, rest, hparts⟩ := List.exists_cons_of_ne_nil (List.splitOnP_ne_nil isBreak t)
      rw [hparts, List.modifyHead_cons] at hpart
      rcases List.mem_cons.mp hpart with rfl | hpart
      · rcases List.mem_cons.mp hc with rfl | hc
        · exact Bool.eq_false_iff.mpr hd
        · exact ih (hparts ▸ List.mem_cons_self) hc
      · exact ih (hparts ▸ List.mem_cons_of_mem first hpart) hc

/-- A text without a break, or one with a first break in it. -/
@[elab_as_elim]
theorem break_induction {motive : Text → Prop}
    (whole : ∀ t, (∀ c ∈ t, isBreak c = false) → motive t)
    (broken : ∀ x c y, (∀ d ∈ x, isBreak d = false) → isBreak c = true → motive y → motive (x ++ c :: y))
    (t : Text) : motive t := by
  induction hlength : t.length using Nat.strong_induction_on generalizing t with
  | h n ih =>
    cases hfind : t.find? isBreak with
    | none => exact whole t fun c hc => Bool.eq_false_iff.mpr (List.find?_eq_none.mp hfind c hc)
    | some c =>
      obtain ⟨hc, x, y, rfl, hx⟩ := List.find?_eq_some_iff_append.mp hfind
      refine broken x c y (fun d hd => Bool.not_eq_true' _ |>.mp (hx d hd)) hc (ih y.length ?_ y rfl)
      rw [← hlength, List.length_append, List.length_cons]
      omega

theorem trim_cons_blank {c : CodePoint} (hc : isBlank c = true) (t : Text) : trim (c :: t) = trim t := by
  rw [trim, trim, trimStart, List.dropWhile_cons_of_pos hc]
  rfl

theorem mem_of_mem_trim {t : Text} {c : CodePoint} (hc : c ∈ trim t) : c ∈ t := by
  have hsub : (trim t).Sublist (trimStart t) := by
    have h := List.reverse_sublist.mpr (List.dropWhile_sublist (l := (trimStart t).reverse) isBlank)
    rwa [List.reverse_reverse] at h
  exact (List.dropWhile_sublist isBlank).subset (hsub.subset hc)

/-- What starts with something else than a blank loses blanks at its end only, and those once. -/
theorem trim_cons {c : CodePoint} (hc : isBlank c = false) (t : Text) :
    ∃ stem, trim (c :: t) = c :: stem ∧ trim (c :: stem) = c :: stem := by
  obtain ⟨stem, blanks, rfl, hstem, hblanks⟩ := exists_stem hc t
  have hkept : trimEnd (c :: stem ++ []) = c :: stem := hstem.trimEnd_append rfl
  refine ⟨stem, ?_, ?_⟩
  · rw [trim, trimStart_cons hc, ← List.cons_append, hstem.trimEnd_append hblanks]
  · rw [trim, trimStart_cons hc, ← List.append_nil (c :: stem), hkept, List.append_nil]

theorem trim_trim (t : Text) : trim (trim t) = trim t := by
  induction t with
  | nil => rfl
  | cons c t ih =>
    cases hc : isBlank c with
    | true => rw [trim_cons_blank hc, ih]
    | false =>
      obtain ⟨stem, htrim, hkept⟩ := trim_cons hc t
      rw [htrim, hkept]

/-- What is without blanks at its ends starts with the first character that is no blank. -/
theorem head?_trim (t : Text) : (trim t).head? = t.find? (!isBlank ·) := by
  induction t with
  | nil => rfl
  | cons c t ih =>
    cases hc : isBlank c with
    | true => rw [trim_cons_blank hc, ih, List.find?_cons_of_neg (by simp [hc])]
    | false =>
      obtain ⟨stem, htrim, -⟩ := trim_cons hc t
      rw [htrim, List.find?_cons_of_pos (by simp [hc])]
      rfl

end Text

/-! ## 2. Parts that are pattern lines -/

namespace Row

/-- The parts of a text between breaks that are neither blank nor comments. -/
def partLines (t : Text) : List Text := (t.splitOnP Text.isBreak).filter isPatternLine

theorem partLines_nil : partLines [] = [] := by
  rw [partLines, List.splitOnP_nil]
  rfl

theorem partLines_append_break (x : Text) {c : CodePoint} (hc : Text.isBreak c = true) (y : Text) :
    partLines (x ++ c :: y) = partLines x ++ partLines y := by
  rw [partLines, List.splitOnP_append_cons x y hc, List.filter_append]
  rfl

theorem partLines_of_whole {t : Text} (ht : ∀ c ∈ t, Text.isBreak c = false) :
    partLines t = if isPatternLine t then [t] else [] := by
  rw [partLines, List.splitOnP_eq_singleton ht, List.filter_singleton]
  cases isPatternLine t <;> rfl

/-- A pattern line by the first character of it that is no blank. -/
theorem isPatternLine_eq (t : Text) : isPatternLine t = (t.find? (!Text.isBlank ·)).any (· != .char '#') := by
  rw [isPatternLine, ← Text.head?_trim]
  cases Text.trim t with
  | nil => rfl
  | cons c r => rfl

/-- What a text that is cut at a break starts with stands in front of the break, or behind it. -/
theorem isPatternLine_append_break {x y : Text} {c : CodePoint} (hc : Text.isBreak c = true)
    (h : isPatternLine (x ++ c :: y) = true) : isPatternLine x = true ∨ isPatternLine y = true := by
  rw [isPatternLine_eq, List.find?_append,
    List.find?_cons_of_neg (by simp [Text.isBlank_of_isBreak hc])] at h
  rw [isPatternLine_eq, isPatternLine_eq]
  cases hx : x.find? (!Text.isBlank ·) with
  | none =>
    rw [hx, Option.none_or] at h
    exact .inr h
  | some d =>
    rw [hx, Option.some_or] at h
    exact .inl h

/-- A pattern line holds a part that is one. -/
theorem partLines_ne_nil {t : Text} (h : isPatternLine t = true) : partLines t ≠ [] := by
  induction t using Text.break_induction with
  | whole t ht =>
    rw [partLines_of_whole ht, if_pos h]
    exact List.cons_ne_nil t []
  | broken x c y hx hc ih =>
    rw [partLines_append_break x hc]
    rcases isPatternLine_append_break hc h with hpattern | hpattern
    · rw [partLines_of_whole hx, if_pos hpattern]
      exact List.cons_ne_nil x _
    · exact List.append_ne_nil_of_right_ne_nil _ (ih hpattern)

/-- The parts of a text are those of its lines. -/
theorem partLines_of_broken {ls : List Text.EndedLine} (h : Text.Broken ls) :
    partLines (ls.flatMap Text.EndedLine.whole) = (ls.map (·.line)).flatMap partLines := by
  induction h with
  | last hline => simp [Text.EndedLine.whole]
  | @feed line more _ _ _ ih =>
    have hfeed : (Text.EndedLine.whole ⟨line, ['\n']⟩) ++ more.flatMap Text.EndedLine.whole =
        line ++ .char '\n' :: more.flatMap Text.EndedLine.whole := List.append_assoc ..
    rw [List.flatMap_cons, hfeed, partLines_append_break line (by decide), ih]
    rfl
  | @returnFeed line more _ _ ih =>
    have hfeed : (Text.EndedLine.whole ⟨line, ['\r', '\n']⟩) ++ more.flatMap Text.EndedLine.whole =
        line ++ .char '\r' :: ([] ++ .char '\n' :: more.flatMap Text.EndedLine.whole) := List.append_assoc ..
    rw [List.flatMap_cons, hfeed, partLines_append_break line (by decide), partLines_append_break [] (by decide),
      partLines_nil, List.nil_append, ih]
    rfl

theorem partLines_eq_flatMap (t : Text) : partLines t = (Text.splitLines t).flatMap partLines := by
  rw [Text.splitLines_eq_brokenLines, ← partLines_of_broken (Text.broken_brokenLines t),
    Text.flatMap_whole_brokenLines]

/-- Going through a text from its end, a return in front of a line feed makes no part of its own. -/
theorem foldr_breakStep (t : Text) : ∃ first rest rest',
    (t.foldr Text.breakStep (false, [[]])).2 = first :: rest ∧ t.splitOnP Text.isBreak = first :: rest' ∧
    rest.filter isPatternLine = rest'.filter isPatternLine ∧
    ((t.foldr Text.breakStep (false, [[]])).1 = true → first = []) := by
  induction t with
  | nil => exact ⟨[], [], [], rfl, List.splitOnP_nil, rfl, fun h => by cases h⟩
  | cons c t ih =>
    obtain ⟨first, rest, rest', hlines, hparts, hsame, hfeed⟩ := ih
    rw [List.foldr_cons, Text.breakStep, List.splitOnP_cons_eq_if_modifyHead, hlines, hparts]
    split
    · next hpair =>
      obtain ⟨hreturn, hflag⟩ := Bool.and_eq_true_iff.mp hpair
      obtain rfl := of_decide_eq_true hreturn
      obtain rfl := hfeed hflag
      exact ⟨[], rest, [] :: rest', rfl, if_pos rfl, hsame, fun _ => rfl⟩
    · split
      · refine ⟨[], first :: rest, first :: rest', rfl, rfl, ?_, fun _ => rfl⟩
        rw [List.filter_cons, List.filter_cons, hsame]
      · exact ⟨c :: first, rest, rest', rfl, rfl, hsame, fun h => by cases h⟩

/-- Blank parts apart, a text is cut into the same parts whether the pair of return and line feed is one break or
two, and whether a break at its end opens another part. -/
theorem filter_splitAtBreaks (t : Text) : (Text.splitAtBreaks t).filter isPatternLine = partLines t := by
  obtain ⟨first, rest, rest', hlines, hparts, hsame, -⟩ := foldr_breakStep t
  have hcut : partLines t = (t.foldr Text.breakStep (false, [[]])).2.filter isPatternLine := by
    rw [partLines, hlines, hparts, List.filter_cons, List.filter_cons, hsame]
  rw [hcut, Text.splitAtBreaks, Text.dropEmptyLast]
  generalize (t.foldr Text.breakStep (false, [[]])).2 = lines
  split
  · next hlast =>
    obtain ⟨init, rfl⟩ := List.getLast?_eq_some_iff.mp hlast
    rw [List.dropLast_concat, List.filter_append]
    exact (List.append_nil _).symm
  · rfl

end Row

/-! ## 3. A line and its parts -/

namespace Row

theorem isPatternLine_congr {t u : Text} (h : Text.trim t = Text.trim u) : isPatternLine t = isPatternLine u := by
  rw [isPatternLine, isPatternLine, h]

/-- The parts of a text that are pattern lines, without the blanks at their ends. -/
def trimmedParts (t : Text) : List Text := (partLines t).map Text.trim

theorem trimmedParts_append_break (x : Text) {c : CodePoint} (hc : Text.isBreak c = true) (y : Text) :
    trimmedParts (x ++ c :: y) = trimmedParts x ++ trimmedParts y := by
  rw [trimmedParts, partLines_append_break x hc, List.map_append]
  rfl

theorem trimmedParts_of_whole {t : Text} (ht : ∀ c ∈ t, Text.isBreak c = false) :
    trimmedParts t = if isPatternLine t then [Text.trim t] else [] := by
  rw [trimmedParts, partLines_of_whole ht]
  cases isPatternLine t <;> rfl

section blanks

variable {c : CodePoint} (hc : Text.isBlank c = true)
include hc

theorem trimmedParts_cons_of_whole {t : Text} (ht : ∀ d ∈ t, Text.isBreak d = false) :
    trimmedParts (c :: t) = trimmedParts t := by
  cases hbreak : Text.isBreak c with
  | true => exact trimmedParts_append_break [] hbreak t
  | false =>
    have htrim := Text.trim_cons_blank hc t
    rw [trimmedParts_of_whole ht, trimmedParts_of_whole (List.forall_mem_cons.mpr ⟨hbreak, ht⟩),
      isPatternLine_congr htrim, htrim]

/-- A blank in front of a text is no part of it. -/
theorem trimmedParts_cons_blank (t : Text) : trimmedParts (c :: t) = trimmedParts t := by
  induction t using Text.break_induction with
  | whole t ht => exact trimmedParts_cons_of_whole hc ht
  | broken x d y hx hd _ =>
    rw [← List.cons_append, trimmedParts_append_break _ hd, trimmedParts_append_break _ hd,
      trimmedParts_cons_of_whole hc hx]

/-- A blank behind a text is no part of it. -/
theorem trimmedParts_append_blank (t : Text) : trimmedParts (t ++ [c]) = trimmedParts t := by
  induction t using Text.break_induction with
  | whole t ht =>
    cases hbreak : Text.isBreak c with
    | true => exact (trimmedParts_append_break t hbreak []).trans (List.append_nil _)
    | false =>
      have hall : ∀ d ∈ t ++ [c], Text.isBreak d = false :=
        List.forall_mem_append.mpr ⟨ht, List.forall_mem_singleton.mpr hbreak⟩
      have htrim := Text.trim_append_blank hc t
      rw [trimmedParts_of_whole ht, trimmedParts_of_whole hall, isPatternLine_congr htrim, htrim]
  | broken x d y _ hd ih =>
    rw [List.append_assoc, List.cons_append, trimmedParts_append_break _ hd, trimmedParts_append_break _ hd, ih]

end blanks

theorem trimmedParts_trimStart (t : Text) : trimmedParts (Text.trimStart t) = trimmedParts t := by
  induction t with
  | nil => rfl
  | cons c t ih =>
    cases hc : Text.isBlank c with
    | true => rw [trimmedParts_cons_blank hc, ← ih, Text.trimStart, List.dropWhile_cons_of_pos hc, Text.trimStart]
    | false => rw [Text.trimStart_cons hc]

theorem trimmedParts_trimEnd (t : Text) : trimmedParts (Text.trimEnd t) = trimmedParts t := by
  induction t using List.reverseRecOn with
  | nil => rfl
  | append_singleton t c ih =>
    cases hc : Text.isBlank c with
    | true => rw [Text.trimEnd_append_blank hc, ih, trimmedParts_append_blank hc]
    | false =>
      have hfirm : Text.EndsFirm (t ++ [c]) := ⟨c, List.getLast?_concat, hc⟩
      have hkept : Text.trimEnd (t ++ [c] ++ []) = t ++ [c] := hfirm.trimEnd_append rfl
      rw [List.append_nil] at hkept
      rw [hkept]

/-- The blanks at the ends of a text are no part of it. -/
theorem trimmedParts_trim (t : Text) : trimmedParts (Text.trim t) = trimmedParts t := by
  rw [Text.trim, trimmedParts_trimEnd, trimmedParts_trimStart]

/-- Whether a line is the one part of it that is a pattern line, or has no such part and is none itself. -/
def staysWhole (line : Text) : Bool :=
  if isPatternLine line then !line.any Text.isBreak else !(Text.splitAtBreaks line).any isPatternLine

/-- The same, with the blanks at the ends of the line and the part not counted. -/
def staysWholeTrimmed (line : Text) : Bool :=
  if isPatternLine line then !(Text.trim line).any Text.isBreak else !(Text.splitAtBreaks line).any isPatternLine

theorem any_isBreak_eq_false {t : Text} : (!t.any Text.isBreak) = true ↔ ∀ c ∈ t, Text.isBreak c = false := by
  rw [Bool.not_eq_true', List.any_eq_false]
  exact forall₂_congr fun c _ => Bool.not_eq_true _ ▸ Iff.rfl

theorem partLines_eq_nil_iff {t : Text} :
    partLines t = [] ↔ (!(Text.splitAtBreaks t).any isPatternLine) = true := by
  rw [← filter_splitAtBreaks, List.filter_eq_nil_iff, Bool.not_eq_true', List.any_eq_false]

theorem partLines_eq_iff (line : Text) :
    partLines line = [line].filter isPatternLine ↔ staysWhole line = true := by
  rw [staysWhole, List.filter_singleton]
  cases hpattern : isPatternLine line with
  | false => exact partLines_eq_nil_iff
  | true =>
    rw [if_pos rfl, any_isBreak_eq_false]
    constructor
    · intro h c hc
      have hmem : line ∈ partLines line := h ▸ List.mem_singleton_self line
      exact Text.isBreak_of_mem_splitOnP (List.mem_filter.mp hmem).1 hc
    · intro h
      rw [partLines_of_whole h, if_pos hpattern]
      rfl

theorem trimmedParts_eq_iff (line : Text) :
    trimmedParts line = ([line].filter isPatternLine).map Text.trim ↔ staysWholeTrimmed line = true := by
  rw [staysWholeTrimmed, List.filter_singleton]
  cases hpattern : isPatternLine line with
  | false =>
    rw [if_neg Bool.false_ne_true, ← partLines_eq_nil_iff, trimmedParts]
    exact List.map_eq_nil_iff
  | true =>
    rw [if_pos rfl, any_isBreak_eq_false]
    constructor
    · intro h c hc
      have hmem : Text.trim line ∈ trimmedParts line := h ▸ List.mem_singleton_self _
      obtain ⟨part, hpart, htrim⟩ := List.mem_map.mp hmem
      exact Text.isBreak_of_mem_splitOnP (List.mem_filter.mp hpart).1 (Text.mem_of_mem_trim (htrim ▸ hc))
    · intro h
      have htrim := Text.trim_trim line
      rw [← trimmedParts_trim, trimmedParts_of_whole h, isPatternLine_congr htrim, hpattern, htrim]
      rfl

end Row

/-! ## 4. The lines of a file -/

section flatMap

variable {α β : Type} {f g : α → List β}

theorem length_flatMap_le {l : List α} (hle : ∀ a ∈ l, (g a).length ≤ (f a).length) :
    (l.flatMap g).length ≤ (l.flatMap f).length := by
  induction l with
  | nil => exact Nat.le_refl 0
  | cons a l ih =>
    obtain ⟨ha, hl⟩ := List.forall_mem_cons.mp hle
    rw [List.flatMap_cons, List.flatMap_cons, List.length_append, List.length_append]
    exact Nat.add_le_add ha (ih hl)

/-- Two lists that are put together of pieces, of which those of one are never shorter than those of the other, are
the same exactly if their pieces are. -/
theorem flatMap_eq_iff_of_length_le {l : List α} (hle : ∀ a ∈ l, (g a).length ≤ (f a).length) :
    l.flatMap f = l.flatMap g ↔ ∀ a ∈ l, f a = g a := by
  refine ⟨fun h => ?_, fun h => List.flatMap_congr h⟩
  induction l with
  | nil => exact fun a ha => absurd ha List.not_mem_nil
  | cons a l ih =>
    obtain ⟨ha, hl⟩ := List.forall_mem_cons.mp hle
    have hrest := length_flatMap_le hl
    have hlength := congrArg List.length h
    rw [List.flatMap_cons, List.flatMap_cons] at h hlength
    rw [List.length_append, List.length_append] at hlength
    obtain ⟨hfirst, hmore⟩ := List.append_inj h (by omega)
    exact List.forall_mem_cons.mpr ⟨hfirst, ih hl hmore⟩

end flatMap

namespace Row

/-- A line has as many parts that are pattern lines as it has to have. -/
theorem length_filter_le_partLines (line : Text) :
    ([line].filter isPatternLine).length ≤ (partLines line).length := by
  rw [List.filter_singleton]
  cases hpattern : isPatternLine line with
  | false => exact Nat.zero_le _
  | true => exact List.length_pos_iff.mpr (partLines_ne_nil hpattern)

theorem patternLines_eq_flatMap (text : Text) :
    patternLines text = (Text.splitLines text).flatMap fun line => [line].filter isPatternLine := by
  rw [patternLines, ← List.filter_flatMap, List.flatMap_singleton']

theorem partLines_eq_patternLines_iff (text : Text) :
    partLines text = patternLines text ↔ ∀ line ∈ Text.splitLines text, staysWhole line = true := by
  rw [partLines_eq_flatMap, patternLines_eq_flatMap,
    flatMap_eq_iff_of_length_le fun line _ => length_filter_le_partLines line]
  exact forall₂_congr fun line _ => partLines_eq_iff line

theorem trimmedParts_eq_patternLines_iff (text : Text) :
    trimmedParts text = (patternLines text).map Text.trim ↔
      ∀ line ∈ Text.splitLines text, staysWholeTrimmed line = true := by
  rw [trimmedParts, partLines_eq_flatMap, patternLines_eq_flatMap, List.map_flatMap, List.map_flatMap,
    flatMap_eq_iff_of_length_le fun line _ => by
      rw [List.length_map, List.length_map]
      exact length_filter_le_partLines line]
  exact forall₂_congr fun line _ => trimmedParts_eq_iff line

end Row

/-! ## 5. Comparing decisions -/

/-- The two divisions of the text of an ignore file into lines where decisions are compared. -/
structure Command.Divisions (w : Workspace) (root : Path) (text : Text) (task : Task) : Prop where
  /-- `pathspec` is given the parts between line breaks. -/
  given : Command.ignoredBy w root =
    (w.loader.pathspec.fromLines (Text.splitAtBreaks text)).mapError Fault.gitignore
  /-- The profile is made of the verdicts on the pattern lines. -/
  compiled : task.compile.outcome = task.conclude (task.verdicts text)
  translated : (task.verdicts text).map (·.row.raw) = Row.patternLines text
  /-- The pattern lines among the parts are those that are translated exactly if each line stays whole. -/
  agree : (Text.splitAtBreaks text).filter Row.isPatternLine = (task.verdicts text).map (·.row.raw) ↔
    ∀ line ∈ Text.splitLines text, Row.staysWhole line = true
  /-- The same, with the blanks at the ends of lines not counted. -/
  agreeTrimmed :
    ((Text.splitAtBreaks text).filter Row.isPatternLine).map Text.trim = (task.verdicts text).map (·.row.line) ↔
      ∀ line ∈ Text.splitLines text, Row.staysWholeTrimmed line = true

/-- Where decisions are compared, `pathspec` is given the lines that are translated exactly if no pattern
line of the file has a line break in it and no other line has a part that is a pattern line. -/
theorem divisions_agree_iff {w : Workspace} {root : Path} {text : Text} {warnings : List Loader.Warning}
    (hread : w.loader.read w.files root = .ok (.text text warnings)) {task : Task} (htext : task.text = some text)
    {p : Profile} (hok : task.compile.outcome = .ok p) (husable : p.isUsable = true) :
    Command.Divisions w root text task := by
  obtain ⟨hisRead, hgoes, -⟩ := Task.merged_of_usable hok husable
  have hrows : task.rows = Row.patterns text := by rw [Task.rows, if_pos hisRead, htext, Option.getD_some]
  rw [hrows] at hgoes
  have hverdicts : task.verdicts text = (Row.patterns text).map (Verdict.ofRow task.config) := by
    rw [Task.verdicts, Verdict.survey_of_goes hgoes]
  have hraw : (task.verdicts text).map (·.row.raw) = Row.patternLines text := by
    rw [hverdicts, List.map_map, ← Row.raw_patterns]
    rfl
  have hline : (task.verdicts text).map (·.row.line) = (Row.patternLines text).map Text.trim := by
    rw [← hraw, List.map_map]
    rfl
  constructor
  case given =>
    rw [Command.ignoredBy, hread]
    rfl
  case compiled => rw [Task.compile_of_isRead hisRead, hrows, Task.verdicts]
  case translated => exact hraw
  case agree => rw [hraw, Row.filter_splitAtBreaks, Row.partLines_eq_patternLines_iff]
  case agreeTrimmed =>
    rw [hline, Row.filter_splitAtBreaks, ← Row.trimmedParts_eq_patternLines_iff, Row.trimmedParts]

/-- A file with a form feed in a comment, which opens another comment, and with blanks around a line. -/
def Workspace.wholeLines : Workspace := Workspace.holding "*.o\n# note\x0c#\r\n build \n\n"

/-- The text of that file. -/
def Text.wholeLines : Text := Text.ofString "*.o\n# note\x0c#\n build \n\n"

/-- The text of that file is to be compiled. -/
def Task.wholeLines : Task :=
  Workspace.wholeLines.fileTask (Path.ofString "/w/p") .standard Text.wholeLines

theorem divisions_agree_iff_whole :
    ∃ warnings p, Workspace.wholeLines.loader.read Workspace.wholeLines.files (Path.ofString "/w/p") =
        .ok (.text Text.wholeLines warnings) ∧
      Task.wholeLines.compile.outcome = .ok p ∧ p.isUsable = true ∧
      (Text.splitAtBreaks Text.wholeLines).filter Row.isPatternLine =
        (Task.wholeLines.verdicts Text.wholeLines).map (·.row.raw) := by
  have hread : Workspace.wholeLines.loader.read Workspace.wholeLines.files (Path.ofString "/w/p") =
      .ok (.text Text.wholeLines []) := by
    decide +kernel
  obtain ⟨p, hcompile, husable⟩ := exists_ok Task.wholeLines.compile.outcome Profile.isUsable (by decide +kernel)
  have hdivisions := divisions_agree_iff hread rfl hcompile husable
  exact ⟨[], p, hread, hcompile, husable, hdivisions.agree.mpr (by decide +kernel)⟩

/-- A form feed in the middle of a line: `pathspec` is given two lines, and decides otherwise. -/
theorem divided_at_form_feed :
    (Text.splitAtBreaks (Text.ofString "a\x0cb\n")).filter Row.isPatternLine =
      [Text.ofString "a", Text.ofString "b"] ∧
    Row.patternLines (Text.ofString "a\x0cb\n") = [Text.ofString "a\x0cb"] ∧
    ((Command.runCheck {} { root := Text.ofString "/w/p" } [Text.ofString "a"]).on
      (Workspace.holding "a\x0cb\n")).1 = .ok 2 := by
  decide +kernel

end SkipPath
