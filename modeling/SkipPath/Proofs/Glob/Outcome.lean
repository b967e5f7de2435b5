import SkipPath.Proofs.Glob.Translation
import Mathlib.Data.List.Induction

/-!
What becomes of a line, and lines of which the same becomes.

The rules can be put as one formula (`outcome_eq`): four questions about the stripped line, and then a text that is
written out.  A line with a slash in it has no other kind than that, so that nothing but its cut text
counts after the questions (`outcome_of_slash`).

Two spellings of a line with a slash come to the same for that reason (`spellings_alike`).  Stars behind the
last slash are cut off with it, and two stars or more in front of the first slash are cut off up to it; neither
kind of star changes what a line starts with, as far as the questions look at it.
-/

namespace SkipPath.Glob

/-! ## 1. All rules at once -/

namespace Rule

variable {rule : Rule} {rules : List Rule} {w w' : Working}

/-- A rule that settles some lines and leaves the others as they are. -/
theorem settles_cons_ite {condition : Prop} [Decidable condition] {outcome : Outcome}
    (hopen : w.outcome = none) (happly : rule.apply w = if condition then w' else w)
    (hsettled : w'.outcome = some outcome) :
    settles (rule :: rules) w = if condition then outcome else settles rules w := by
  split
  · next h =>
    rw [if_pos h] at happly
    exact settles_cons_some ((congrArg Working.outcome happly).trans hsettled)
  · next h =>
    rw [if_neg h] at happly
    rw [settles_cons_none ((congrArg Working.outcome happly).trans hopen), happly]

end Rule

/-- What becomes of a line, and what is shown of it, comes from its stripped text. -/
theorem translate_eq_iff {line line' : Text} {skipDotFolders : Bool} :
    translate line skipDotFolders = translate line' skipDotFolders ↔ stripLine line = stripLine line' := by
  refine ⟨congrArg Settled.line, fun h => ?_⟩
  rw [translate, translate, Working.start, Working.start, h]

/-- What the rules write for a line that they have not dropped on account of what it starts with. -/
def writtenText (line : Text) (skipDotFolders : Bool) : Text :=
  anchor (Rule.wildcards.apply (Working.classified (stripLine line) (cutLine line) skipDotFolders))

/-- What becomes of a text that is written out. -/
def ofWritten (t : Text) : Outcome :=
  if t.length < minFragmentLength then .dropped .tooShort else .kept t

/-- What becomes of a line: four questions in order, and then what is written for it. -/
theorem outcome_eq (line : Text) (skipDotFolders : Bool) :
    (translate line skipDotFolders).outcome =
      if (stripLine line).isEmpty || (stripLine line).head? = some (.char '#') then .dropped .comment
      else if (stripLine line).head? = some (.char '!') then .dropped .exemption
      else if skipDotFolders && startsDotted (stripLine line) then .dropped .redundantDot
      else if swapFileGlobs.contains (stripLine line) then .kept ['~', '$']
      else ofWritten (writtenText line skipDotFolders) := by
  have hall : (translate line skipDotFolders).outcome =
      Rule.settles Rule.all (Working.start line skipDotFolders) := rfl
  rw [hall, Rule.all, Rule.settles_cons_ite rfl rfl rfl, Rule.settles_cons_ite rfl rfl rfl,
    Rule.settles_cons_ite rfl rfl rfl, Rule.settles_cons_ite rfl rfl rfl, Rule.settles_cons_none rfl,
    Rule.settles_cons_none rfl, Rule.settles_cons_none rfl, Rule.settles_cons_none rfl,
    Rule.settles_cons_none rfl, Rule.settles_cons_some rfl]
  rfl

section slash

variable {line : Text} {skipDotFolders : Bool} (hslash : .char '/' ∈ cutLine line)
include hslash

/-- A line with a slash is neither an extension nor a plain name. -/
theorem writtenText_of_slash : writtenText line skipDotFolders = convert (cutLine line) := by
  have hnone : ¬ (!(cutLine line).contains '/') = true := by
    rw [List.contains_iff_mem.mpr hslash]
    exact Bool.false_ne_true
  exact anchor_other (fun h => hnone (Bool.and_eq_true_iff.mp h).1) fun h =>
    hnone (Bool.and_eq_true_iff.mp h).1

theorem slash_mem_stripLine : .char '/' ∈ stripLine line :=
  mem_of_mem_cutContents (mem_of_mem_cutDoubleStar hslash)

/-- What becomes of a line with a slash goes by what it starts with and by its cut text. -/
theorem outcome_of_slash :
    (translate line skipDotFolders).outcome =
      if (stripLine line).head? = some (.char '#') then .dropped .comment
      else if (stripLine line).head? = some (.char '!') then .dropped .exemption
      else if skipDotFolders && startsDotted (stripLine line) then .dropped .redundantDot
      else ofWritten (convert (cutLine line)) := by
  have hmem := slash_mem_stripLine hslash
  have hempty : (stripLine line).isEmpty = false :=
    List.isEmpty_eq_false_iff.mpr (List.ne_nil_of_mem hmem)
  have hswap : swapFileGlobs.contains (stripLine line) = false := by
    refine Bool.eq_false_iff.mpr fun h => ?_
    have hall : ∀ t ∈ swapFileGlobs, .char '/' ∉ t := by decide
    exact hall _ (List.contains_iff_mem.mp h) hmem
  rw [outcome_eq, hempty, hswap, writtenText_of_slash hslash]
  simp only [Bool.false_or, decide_eq_true_eq, Bool.false_eq_true, if_false]

end slash

end SkipPath.Glob

/-! ## 2. Blanks at the ends -/

namespace SkipPath

namespace Text

variable {t u blanks : Text}

theorem trimStart_append (t : Text) (hu : trimStart u = u) : trimStart (t ++ u) = trimStart t ++ u := by
  rw [trimStart, List.dropWhile_append]
  split
  · next hempty =>
    rw [trimStart, List.isEmpty_iff.mp hempty, List.nil_append]
    exact hu
  · rfl

theorem isAllBlank_take (h : isAllBlank t = true) (n : Nat) : isAllBlank (t.take n) = true :=
  List.all_eq_true.mpr fun c hc => List.all_eq_true.mp h c (List.mem_of_mem_take hc)

theorem trimStart_cons {c : CodePoint} (hc : isBlank c = false) (t : Text) : trimStart (c :: t) = c :: t :=
  List.dropWhile_cons_of_neg (Bool.eq_false_iff.mp hc)

/-- A text that ends in something else than a blank. -/
def EndsFirm (t : Text) : Prop := ∃ c, t.getLast? = some c ∧ isBlank c = false

theorem EndsFirm.append (h : EndsFirm u) (t : Text) : EndsFirm (t ++ u) := by
  obtain ⟨c, hlast, hc⟩ := h
  exact ⟨c, by rw [List.getLast?_append, hlast, Option.some_or], hc⟩

/-- What stays of such a text when the blanks in front are taken off still ends in the same character. -/
theorem EndsFirm.getLast?_trimStart (h : EndsFirm t) : (trimStart t).getLast? = t.getLast? := by
  obtain ⟨c, hlast, hc⟩ := h
  obtain ⟨init, rfl⟩ := List.getLast?_eq_some_iff.mp hlast
  have hfirm : trimStart [c] = [c] := trimStart_cons hc []
  rw [trimStart_append init hfirm, List.getLast?_concat, List.getLast?_concat]

theorem endsFirm_trimStart (h : EndsFirm t) : EndsFirm (trimStart t) := by
  have hlast := h.getLast?_trimStart
  obtain ⟨c, hc, hfirm⟩ := h
  exact ⟨c, hlast.trans hc, hfirm⟩

/-- The blanks behind such a text are all that is taken off its end. -/
theorem EndsFirm.trimEnd_append (h : EndsFirm t) (hblanks : isAllBlank blanks = true) :
    trimEnd (t ++ blanks) = t := by
  obtain ⟨c, hlast, hc⟩ := h
  obtain ⟨init, rfl⟩ := List.getLast?_eq_some_iff.mp hlast
  have hall : ∀ d ∈ blanks.reverse, isBlank d = true := fun d hd =>
    List.all_eq_true.mp hblanks d (List.mem_reverse.mp hd)
  rw [trimEnd, dropEndWhile, List.reverse_append, List.dropWhile_append_of_pos hall, List.reverse_append,
    List.reverse_singleton, List.singleton_append, List.dropWhile_cons_of_neg (Bool.eq_false_iff.mp hc),
    ← List.singleton_append, List.reverse_append, List.reverse_reverse, List.reverse_singleton]

theorem EndsFirm.takeEndWhile_append (h : EndsFirm t) (hblanks : isAllBlank blanks = true) :
    takeEndWhile isBlank (t ++ blanks) = blanks := by
  have hwhole := dropEndWhile_append_takeEndWhile isBlank (t ++ blanks)
  have hstem : dropEndWhile isBlank (t ++ blanks) = t := h.trimEnd_append hblanks
  rw [hstem] at hwhole
  exact List.append_cancel_left hwhole

/-- A text that does not start with a blank is one that does not end in a blank either, and blanks. -/
theorem exists_stem {c : CodePoint} (hc : isBlank c = false) (rest : Text) :
    ∃ stem blanks, rest = stem ++ blanks ∧ EndsFirm (c :: stem) ∧ isAllBlank blanks = true := by
  induction rest using List.reverseRecOn with
  | nil => exact ⟨[], [], rfl, ⟨c, rfl, hc⟩, rfl⟩
  | append_singleton rest d ih =>
    cases hd : isBlank d with
    | false =>
      refine ⟨rest ++ [d], [], (List.append_nil _).symm, ⟨d, ?_, hd⟩, rfl⟩
      rw [← List.cons_append, List.getLast?_concat]
    | true =>
      obtain ⟨stem, blanks, rfl, hstem, hblanks⟩ := ih
      refine ⟨stem, blanks ++ [d], List.append_assoc stem blanks [d], hstem, ?_⟩
      rw [isAllBlank, List.all_append]
      exact Bool.and_eq_true_iff.mpr ⟨hblanks, by rw [List.all_cons, hd]; rfl⟩

end Text

namespace Glob

open Text (EndsFirm)

/-- The blanks behind a line go, but for the first of them where a backslash is in front of it. -/
theorem stripLine_append_blanks {stem blanks : Text} (hstem : EndsFirm stem)
    (hblanks : Text.isAllBlank blanks = true) :
    stripLine (stem ++ blanks) =
      Text.trimStart stem ++ if stem.getLast? = some (.char '\\') then blanks.take 1 else [] := by
  have hfirm := Text.endsFirm_trimStart hstem
  have hstart : Text.trimStart (stem ++ blanks) = Text.trimStart stem ++ blanks := by
    have hne : (Text.trimStart stem).isEmpty = false := by
      obtain ⟨c, hlast, -⟩ := hfirm
      exact List.isEmpty_eq_false_iff.mpr (List.ne_nil_of_mem (List.mem_of_getLast? hlast))
    rw [Text.trimStart, List.dropWhile_append, if_neg]
    · rfl
    · exact Bool.eq_false_iff.mp hne
  rw [stripLine, hstart, hfirm.trimEnd_append hblanks, hfirm.takeEndWhile_append hblanks, hstem.getLast?_trimStart]
  split
  · rfl
  · rw [List.append_nil]

/-- A line that ends in something else than a blank loses only blanks in front. -/
theorem stripLine_of_endsFirm {line : Text} (h : EndsFirm line) : stripLine line = Text.trimStart line := by
  have hstrip := stripLine_append_blanks h (show Text.isAllBlank [] = true from rfl)
  rwa [List.take_nil, ite_self, List.append_nil, List.append_nil] at hstrip

section firm

variable {c d : CodePoint} (hc : Text.isBlank c = false)
include hc

/-- A line keeps the character that it starts with, if that is no blank. -/
theorem stripLine_cons (rest : Text) : ∃ more, stripLine (c :: rest) = c :: more := by
  obtain ⟨stem, blanks, rfl, hstem, hblanks⟩ := Text.exists_stem hc rest
  rw [← List.cons_append, stripLine_append_blanks hstem hblanks, Text.trimStart_cons hc]
  exact ⟨_, rfl⟩

/-- What stands in front of such a line stays there. -/
theorem stripLine_append (hd : Text.isBlank d = false) (front rest : Text) :
    stripLine (d :: front ++ c :: rest) = d :: front ++ stripLine (c :: rest) := by
  obtain ⟨stem, blanks, rfl, hstem, hblanks⟩ := Text.exists_stem hc rest
  have hlast : (d :: front ++ c :: stem).getLast? = (c :: stem).getLast? := by
    obtain ⟨e, hlast, -⟩ := hstem
    rw [List.getLast?_append, hlast, Option.some_or]
  rw [← List.cons_append, ← List.append_assoc, stripLine_append_blanks (hstem.append _) hblanks,
    stripLine_append_blanks hstem hblanks, hlast, Text.trimStart_cons hc, List.cons_append,
    Text.trimStart_cons hd, ← List.cons_append, List.append_assoc]

end firm

/-! ## 3. Stars at the ends -/

theorem dropStars_replicate (k : Nat) (t : Text) : dropStars (List.replicate k (.char '*') ++ t) = dropStars t := by
  induction k with
  | zero => rfl
  | succ k ih =>
    rw [List.replicate_succ, List.cons_append, dropStars]
    exact ih

theorem mem_dropStars {c : CodePoint} {t : Text} (h : c ∈ t) (hc : c ≠ '*') : c ∈ dropStars t := by
  fun_induction dropStars t with
  | case1 rest ih => exact ih ((List.mem_cons.mp h).resolve_left hc)
  | case2 => exact h

/-- Nothing with a character that is neither a star nor a blank is the contents of a folder. -/
theorem isContents_of_mem {c : CodePoint} {t : Text} (h : c ∈ t) (hstar : c ≠ '*') (hblank : Text.isBlank c = false) :
    isContents t = false := by
  refine Bool.eq_false_iff.mpr fun hcontents => Bool.eq_false_iff.mp hblank ?_
  exact List.all_eq_true.mp hcontents c (mem_dropStars h hstar)

/-- A line is cut at its last slash if only stars and blanks follow. -/
theorem cutContents_append_slash (front : Text) {contents : Text} (h : isContents contents = true) :
    cutContents (front ++ .char '/' :: contents) = front ++ [.char '/'] := by
  induction front with
  | nil =>
    rw [List.nil_append, cutContents, h]
    rfl
  | cons c front ih =>
    have hslash : isContents (front ++ .char '/' :: contents) = false :=
      isContents_of_mem List.mem_append_cons_self (by decide) (by decide)
    rw [List.cons_append, cutContents, hslash, Bool.and_false, if_neg Bool.false_ne_true, ih]
    rfl

theorem cutContents_append {front : Text} (h : .char '/' ∉ front) (t : Text) :
    cutContents (front ++ t) = front ++ cutContents t := by
  induction front with
  | nil => rfl
  | cons c front ih =>
    rw [List.mem_cons, not_or] at h
    rw [List.cons_append, cutContents, decide_eq_false (Ne.symm h.1), Bool.false_and,
      if_neg Bool.false_ne_true, ih h.2]
    rfl

theorem cutContents_slash (t : Text) : ∃ rest, cutContents (.char '/' :: t) = .char '/' :: rest := by
  rw [cutContents]
  split
  · exact ⟨[], rfl⟩
  · exact ⟨_, rfl⟩

/-- Two stars or more in front of a slash say no more than the slash. -/
theorem cutDoubleStar_replicate {k : Nat} (hk : 2 ≤ k) (t : Text) :
    cutDoubleStar (List.replicate k (.char '*') ++ .char '/' :: t) = .char '/' :: t := by
  obtain ⟨n, rfl⟩ := Nat.exists_eq_add_of_le' hk
  have hdrop : dropStars (List.replicate n (.char '*') ++ .char '/' :: t) = .char '/' :: t := dropStars_replicate n _
  rw [List.replicate_succ, List.replicate_succ, List.cons_append, List.cons_append, cutDoubleStar, hdrop]
  rfl

/-- Whether a line starts with a dot is seen in its first two characters. -/
theorem startsDotted_cons_cons (c d : CodePoint) (t : Text) : startsDotted (c :: d :: t) = startsDotted [c, d] := by
  by_cases hdot : c = '.'
  · rw [hdot]
    rfl
  by_cases hdollar : c = '$'
  · rw [hdollar]
    rfl
  · simp [startsDotted, hdot, hdollar]

/-- What follows a slash, or anything but a dot, does not count for that. -/
theorem startsDotted_append_cons {c : CodePoint} (hc : c ≠ '.') (front t : Text) :
    startsDotted (front ++ c :: t) = startsDotted (front ++ [c]) := by
  cases front with
  | nil =>
    by_cases hdollar : c = '$'
    · rw [hdollar]
      rfl
    · simp [startsDotted, hc, hdollar]
  | cons d front =>
    cases front with
    | nil => exact startsDotted_cons_cons d c t
    | cons e front => exact (startsDotted_cons_cons d e _).trans (startsDotted_cons_cons d e _).symm

/-! ## 4. Two spellings -/

/-- Lines with a slash that start alike and are cut to the same text come to the same. -/
theorem outcome_congr {line line' : Text} {skipDotFolders : Bool} (hslash : .char '/' ∈ cutLine line)
    (hcut : cutLine line' = cutLine line)
    (hhead : (stripLine line').head? = (stripLine line).head?)
    (hdotted : startsDotted (stripLine line') = startsDotted (stripLine line)) :
    (translate line' skipDotFolders).outcome = (translate line skipDotFolders).outcome := by
  rw [outcome_of_slash hslash, outcome_of_slash (hcut ▸ hslash), hcut, hhead, hdotted]

theorem slash_mem_cutDoubleStar {t : Text} (h : .char '/' ∈ t) : .char '/' ∈ cutDoubleStar t :=
  by_contra fun hnone => hnone (by rwa [cutDoubleStar_of_no_slash hnone])

theorem stripLine_folder (folder : Text) (k : Nat) :
    stripLine (folder ++ .char '/' :: List.replicate k (.char '*')) =
      Text.trimStart folder ++ .char '/' :: List.replicate k (.char '*') := by
  have hfirm : EndsFirm ('/' :: List.replicate k '*') := by
    cases k with
    | zero => exact ⟨'/', rfl, by decide⟩
    | succ k =>
      refine ⟨'*', ?_, by decide⟩
      rw [List.replicate_succ', ← List.cons_append, List.getLast?_concat]
  rw [stripLine_of_endsFirm (hfirm.append folder),
    Text.trimStart_append folder (Text.trimStart_cons (by decide) _)]

theorem cutLine_folder (folder : Text) (k : Nat) :
    cutLine (folder ++ .char '/' :: List.replicate k (.char '*')) =
      cutDoubleStar (Text.trimStart folder ++ [.char '/']) := by
  have hcontents : isContents (List.replicate k '*') = true := by
    have hdrop := dropStars_replicate k []
    rw [List.append_nil] at hdrop
    rw [isContents, hdrop]
    rfl
  rw [cutLine, stripLine_folder, cutContents_append_slash _ hcontents]

/-- A folder with all that it holds is the folder. -/
theorem outcome_folder (folder : Text) (k : Nat) (skipDotFolders : Bool) :
    (translate (folder ++ .char '/' :: List.replicate k (.char '*')) skipDotFolders).outcome =
      (translate (folder ++ [.char '/']) skipDotFolders).outcome := by
  have hstrip : stripLine (folder ++ [.char '/']) = Text.trimStart folder ++ [.char '/'] := stripLine_folder folder 0
  have hcut : cutLine (folder ++ [.char '/']) = cutDoubleStar (Text.trimStart folder ++ [.char '/']) :=
    cutLine_folder folder 0
  refine outcome_congr ?_ ((cutLine_folder folder k).trans hcut.symm) ?_ ?_
  · rw [hcut]
    exact slash_mem_cutDoubleStar List.mem_append_cons_self
  · rw [hstrip, stripLine_folder]
    cases Text.trimStart folder <;> rfl
  · rw [hstrip, stripLine_folder]
    exact startsDotted_append_cons (by decide) _ _

/-- A path at any depth is the path. -/
theorem outcome_anyDepth (path : Text) {k : Nat} (hk : 2 ≤ k) (skipDotFolders : Bool) :
    (translate (List.replicate k (.char '*') ++ .char '/' :: path) skipDotFolders).outcome =
      (translate (.char '/' :: path) skipDotFolders).outcome := by
  have hslash : Text.isBlank '/' = false := by decide
  have hstar : Text.isBlank '*' = false := by decide
  obtain ⟨n, rfl⟩ := Nat.exists_eq_add_of_le' hk
  have hstrip : stripLine (List.replicate (n + 2) (.char '*') ++ .char '/' :: path) =
      List.replicate (n + 2) (.char '*') ++ stripLine (.char '/' :: path) := stripLine_append hslash hstar _ path
  obtain ⟨more, hmore⟩ := stripLine_cons hslash path
  obtain ⟨rest, hrest⟩ := cutContents_slash more
  have hcut : cutLine (.char '/' :: path) = .char '/' :: rest := by
    rw [cutLine, hmore, hrest]
    rfl
  have hdeep : cutLine (List.replicate (n + 2) (.char '*') ++ .char '/' :: path) = .char '/' :: rest := by
    have hnone : CodePoint.char '/' ∉ List.replicate (n + 2) (.char '*') :=
      fun h => absurd (List.eq_of_mem_replicate h) (by decide)
    rw [cutLine, hstrip, hmore, cutContents_append hnone, hrest, cutDoubleStar_replicate hk]
  -- neither line starts with what the questions ask for
  rw [outcome_of_slash (hdeep ▸ List.mem_cons_self), outcome_of_slash (hcut ▸ List.mem_cons_self), hdeep, hcut,
    hstrip, hmore]
  rfl

/-- **Equivalent spellings come to the same.**  Whatever stands in front of it, a slash with stars behind it at the
end of a line comes to what the slash comes to; and whatever stands behind it, a slash with two stars or more
in front of it at the start of a line comes to what the slash comes to. -/
theorem spellings_alike (folder path : Text) (skipDotFolders : Bool) :
    (∀ k, (translate (folder ++ .char '/' :: List.replicate k (.char '*')) skipDotFolders).outcome =
      (translate (folder ++ [.char '/']) skipDotFolders).outcome) ∧
    ∀ k, 2 ≤ k → (translate (List.replicate k (.char '*') ++ .char '/' :: path) skipDotFolders).outcome =
      (translate ('/' :: path) skipDotFolders).outcome :=
  ⟨fun k => outcome_folder folder k skipDotFolders, fun _ hk => outcome_anyDepth path hk skipDotFolders⟩

/-- The folder `.` is not dropped for its dot in either spelling, and a name that starts with a hash makes no comment
of a path at any depth. -/
theorem spellings_alike_dot_and_hash :
    (translate (Text.ofString " ./***") true).outcome = (translate (Text.ofString " ./") true).outcome ∧
    (translate (Text.ofString " ./") true).outcome = .kept (Text.ofString "\\./") ∧
    2 ≤ 4 ∧
    (translate (Text.ofString "****/#notes/**\t") true).outcome =
      (translate (Text.ofString "/#notes/**\t") true).outcome ∧
    (translate (Text.ofString "/#notes/**\t") true).outcome = .kept (Text.ofString "/#notes/") := by
  obtain ⟨hfolder, hpath⟩ := spellings_alike (Text.ofString " .") (Text.ofString "#notes/**\t") true
  exact ⟨hfolder 3, by decide +kernel, by decide, hpath 4 (by decide), by decide +kernel⟩

end Glob

end SkipPath
