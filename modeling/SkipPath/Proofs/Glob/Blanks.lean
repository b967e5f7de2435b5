import SkipPath.Proofs.Export.CommandLine
import SkipPath.Proofs.Glob.Classes
import SkipPath.Proofs.Glob.Outcome

/-!
Blanks at the end of a line.

Blanks at the end do not count unless the first of them is escaped.  Whether it is goes by the number of backslashes
in front of it, of which two at a time are one that is escaped itself: cutting a glob into pieces leaves a lone
backslash exactly if that number is odd (`loneBackslash_mem_iff`).

Stripping looks at the last character only.  So an even number of backslashes keeps the blank as well, and it goes
into the fragment as a character of its own (`outcome_of_backslashes`), since what stands behind a glob without a
lone backslash is cut by itself (`pieces_append`).  All other lines are stripped as they should be
(`blanks_ignored_iff`).
-/

namespace SkipPath

/-! ## 1. The number of backslashes -/

namespace Text

variable {c : CodePoint} {t : Text}

theorem endRun_le_length (t : Text) : t.endRun ≤ t.length := by
  have hwhole := congrArg List.length (dropEnd_append_replicate t)
  rw [List.length_append, List.length_replicate] at hwhole
  omega

theorem endRun_cons (c : CodePoint) (t : Text) :
    endRun (c :: t) = if t.endRun = t.length ∧ c = '\\' then t.endRun + 1 else t.endRun := by
  have hrun : (t.reverse.takeWhile (· == .char '\\')).length = t.endRun := by
    rw [endRun, takeEndWhile, List.length_reverse]
  rw [endRun, takeEndWhile, List.length_reverse, List.reverse_cons, List.takeWhile_append, hrun,
    List.length_reverse]
  by_cases hall : t.endRun = t.length
  · rw [if_pos hall, List.length_append, List.length_reverse, ← hall]
    by_cases hc : c = '\\'
    · rw [if_pos ⟨rfl, hc⟩, hc]
      rfl
    · rw [if_neg fun h => hc h.2, List.takeWhile_cons_of_neg (by rwa [beq_iff_eq])]
      rfl
  · rw [if_neg hall, if_neg fun h => hall h.1, hrun]

theorem endRun_cons_of_ne (hc : c ≠ '\\') (t : Text) : endRun (c :: t) = t.endRun := endRun_append_cons hc [] t

/-- A backslash and the character that it escapes make no difference to whether the number is odd. -/
theorem endRun_escaped (c : CodePoint) (t : Text) : endRun ('\\' :: c :: t) % 2 = t.endRun % 2 := by
  have hle := endRun_le_length t
  rw [endRun_cons, endRun_cons, List.length_cons]
  by_cases hall : t.endRun = t.length ∧ c = '\\'
  · rw [if_pos hall, if_pos ⟨congrArg (· + 1) hall.1, rfl⟩]
    omega
  · rw [if_neg hall, if_neg]
    omega

theorem endRun_trimStart (t : Text) : (trimStart t).endRun = t.endRun := by
  induction t with
  | nil => rfl
  | cons c t ih =>
    cases hc : isBlank c with
    | false => rw [trimStart_cons hc]
    | true =>
      have hbackslash : c ≠ '\\' := by
        rintro rfl
        exact absurd hc (by decide)
      rw [endRun_cons_of_ne hbackslash, ← ih, trimStart, List.dropWhile_cons_of_pos hc]
      rfl

/-- The last two backslashes of a text. -/
theorem exists_init {t : Text} (h : 2 ≤ t.endRun) :
    ∃ init : Text, t = init ++ [.char '\\', .char '\\'] ∧ t.endRun = init.endRun + 2 := by
  obtain ⟨n, hn⟩ := Nat.exists_eq_add_of_le' h
  have hsplit : t = (dropEndWhile (· == .char '\\') t ++ List.replicate n (.char '\\')) ++
      List.replicate 2 (.char '\\') := by
    rw [List.append_assoc, ← List.replicate_add, ← hn, dropEnd_append_replicate]
  exact ⟨_, hsplit, (congrArg endRun hsplit).trans (endRun_append_replicate _ 2)⟩

end Text

namespace Glob

/-! ## 2. A lone backslash -/

theorem endRun_dropStars (t : Text) : (dropStars t).endRun = t.endRun := by
  fun_induction dropStars t with
  | case1 rest ih => rw [ih, Text.endRun_cons_of_ne (by decide)]
  | case2 => rfl

theorem endRun_closeClass {t body after : Text} (h : closeClass t = some (body, after)) :
    t.endRun = after.endRun := by
  rw [closeClass_split h, Text.endRun_append_cons (by decide)]

/-- Cutting leaves a lone backslash if the number of backslashes at the end is odd. -/
theorem loneBackslash_mem_iff {t : Text} : .loneBackslash ∈ pieces t ↔ t.endRun % 2 = 1 := by
  fun_induction pieces t with
  | case1 => simp [Text.endRun, Text.takeEndWhile]
  | case2 => simp [Text.endRun, Text.takeEndWhile]
  | case3 c rest ih => simp [ih, Text.endRun_escaped]
  | case4 rest _ ih =>
    simp [ih, endRun_dropStars, Text.endRun_cons_of_ne]
  | case5 rest _ ih => simp [ih, Text.endRun_cons_of_ne]
  | case6 rest ih => simp [ih, Text.endRun_cons_of_ne]
  | case7 rest body after hclose _ ih =>
    simp [ih, Text.endRun_cons_of_ne, endRun_closeClass hclose]
  | case8 rest _ ih => simp [ih, Text.endRun_cons_of_ne]
  | case9 c rest hlone hescape _ _ _ _ ih =>
    simp [ih, Text.endRun_cons_of_ne (ne_backslash hlone hescape)]

/-! ## 3. Cutting a text and another one behind it -/

section append

variable {u : Text} (hu : .char ']' ∉ u)
include hu

theorem closeMembers_none : closeMembers u = none := by
  refine Option.eq_none_iff_forall_ne_some.mpr fun (body, after) h => hu ?_
  rw [closeMembers_split h]
  exact List.mem_append_cons_self

theorem closeClass_none : closeClass u = none := by
  refine Option.eq_none_iff_forall_ne_some.mpr fun (body, after) h => hu ?_
  rw [closeClass_split h]
  exact List.mem_append_cons_self

theorem splitAtNameEnd_none : splitAtNameEnd u = none := by
  refine Option.eq_none_iff_forall_ne_some.mpr fun (name, after) h => hu ?_
  rw [splitAtNameEnd_split h]
  exact List.mem_append_right _ (List.mem_cons_of_mem _ List.mem_cons_self)

theorem splitAtNameEnd_append (t : Text) :
    splitAtNameEnd (t ++ u) = (splitAtNameEnd t).map (Prod.map id (· ++ u)) := by
  fun_induction splitAtNameEnd t with
  | case1 rest => rfl
  | case2 => exact splitAtNameEnd_none hu
  | case3 c rest hend ih =>
    rw [List.cons_append, splitAtNameEnd, ih, Option.map_map, Option.map_map]
    · rfl
    · rintro more rfl he
      rcases List.append_eq_cons_iff.mp he with ⟨-, rfl⟩ | ⟨more, rfl, -⟩
      · exact hu List.mem_cons_self
      · exact hend more rfl rfl

theorem closeMembers_append (t : Text) :
    closeMembers (t ++ u) = (closeMembers t).map (Prod.map id (· ++ u)) := by
  fun_induction closeMembers t with
  | case1 => exact closeMembers_none hu
  | case2 rest =>
    rw [List.cons_append, closeMembers]
    rfl
  | case3 => exact closeMembers_none fun h => hu ((List.mem_cons.mp h).resolve_left (by decide))
  | case4 c rest ih =>
    rw [List.cons_append, List.cons_append, closeMembers, ih, Option.map_map, Option.map_map]
    rfl
  | case5 rest name more hname _ ih =>
    have hmore : splitAtNameEnd (rest ++ u) = some (name, more ++ u) := by
      rw [splitAtNameEnd_append hu, hname]
      rfl
    rw [List.cons_append, List.cons_append, closeMembers, Option.map_map]
    split
    · next name' more' he =>
      obtain ⟨rfl, rfl⟩ := Prod.mk.inj (Option.some.inj (hmore.symm.trans he))
      rw [ih, Option.map_map]
      rfl
    · next he => cases hmore.symm.trans he
  | case6 rest hnone ih =>
    have hmore : splitAtNameEnd (rest ++ u) = none := by
      rw [splitAtNameEnd_append hu, hnone]
      rfl
    rw [List.cons_append, List.cons_append, closeMembers, Option.map_map]
    split
    · next name' more' he => cases hmore.symm.trans he
    · rw [← List.cons_append, ih, Option.map_map]
      rfl
  | case7 c rest hclose hlone hescape hname ih =>
    cases rest with
    | nil =>
      have hc : .char ']' ∉ c :: u := fun h => (List.mem_cons.mp h).elim (fun he => hclose he.symm) hu
      rw [List.singleton_append, closeMembers_none hc, closeMembers]
      rfl
    | cons d rest =>
      rw [List.cons_append, closeMembers, ih, Option.map_map, Option.map_map]
      · rfl
      · exact hclose
      · exact fun _ h => absurd h (List.cons_ne_nil _ _)
      · rintro e more rfl he
        exact hescape d rest rfl rfl
      · rintro more rfl he
        exact hname rest rfl (by rw [(List.cons.inj he).1])

theorem closeFirst_append (t : Text) : closeFirst (t ++ u) = (closeFirst t).map (Prod.map id (· ++ u)) := by
  fun_cases closeFirst t with
  | case1 rest =>
    rw [List.cons_append, closeFirst, closeMembers_append hu, Option.map_map, Option.map_map]
    rfl
  | case2 rest hfirst =>
    rw [closeFirst, closeMembers_append hu]
    intro more he
    rcases List.append_eq_cons_iff.mp he with ⟨-, rfl⟩ | ⟨more, rfl, -⟩
    · exact hu List.mem_cons_self
    · exact hfirst more rfl

/-- A text behind it without a closing bracket does not change where a class ends. -/
theorem closeClass_append (t : Text) : closeClass (t ++ u) = (closeClass t).map (Prod.map id (· ++ u)) := by
  by_cases hnil : t = []
  · rw [hnil, List.nil_append, closeClass_none hu, closeClass_none List.not_mem_nil]
    rfl
  fun_cases closeClass t with
  | case1 rest =>
    rw [List.cons_append, closeClass, closeFirst_append hu, Option.map_map, Option.map_map]
    rfl
  | case2 rest =>
    rw [List.cons_append, closeClass, closeFirst_append hu, Option.map_map, Option.map_map]
    rfl
  | case3 rest hexclaim hcaret =>
    rw [closeClass, closeFirst_append hu]
    · intro more he
      rcases List.append_eq_cons_iff.mp he with ⟨he, -⟩ | ⟨more, he, -⟩
      · exact hnil he
      · exact hexclaim more he
    · intro more he
      rcases List.append_eq_cons_iff.mp he with ⟨he, -⟩ | ⟨more, he, -⟩
      · exact hnil he
      · exact hcaret more he

end append

theorem dropStars_append {u : Text} (hu : u.head? ≠ some (.char '*')) (t : Text) :
    dropStars (t ++ u) = dropStars t ++ u := by
  fun_induction dropStars t with
  | case1 rest ih =>
    rw [List.cons_append, dropStars]
    exact ih
  | case2 t hstar =>
    rw [dropStars]
    intro more he
    rcases List.append_eq_cons_iff.mp he with ⟨-, rfl⟩ | ⟨more, rfl, -⟩
    · exact hu rfl
    · exact hstar more rfl

/-- What stands behind a text without a lone backslash is cut by itself, if it goes on with no star and closes no
bracket. -/
theorem pieces_append {t u : Text} (hstar : u.head? ≠ some (.char '*')) (hclose : .char ']' ∉ u)
    (hlone : .loneBackslash ∉ pieces t) : pieces (t ++ u) = pieces t ++ pieces u := by
  fun_induction pieces t with
  | case1 => rfl
  | case2 => exact absurd List.mem_cons_self hlone
  | case3 c rest ih =>
    rw [List.cons_append, List.cons_append, pieces, ih fun h => hlone (List.mem_cons_of_mem _ h), List.cons_append]
  | case4 rest _ ih =>
    rw [List.cons_append, List.cons_append, pieces, dropStars_append hstar,
      ih fun h => hlone (List.mem_cons_of_mem _ h), List.cons_append]
  | case5 rest hone ih =>
    rw [List.cons_append, pieces, ih fun h => hlone (List.mem_cons_of_mem _ h), List.cons_append]
    intro more he
    rcases List.append_eq_cons_iff.mp he with ⟨-, rfl⟩ | ⟨more, rfl, -⟩
    · exact hstar rfl
    · exact hone more rfl
  | case6 rest ih =>
    rw [List.cons_append, pieces, ih fun h => hlone (List.mem_cons_of_mem _ h), List.cons_append]
  | case7 rest body after hclosed _ ih =>
    have hsame : closeClass (rest ++ u) = some (body, after ++ u) := by
      rw [closeClass_append hclose, hclosed]
      rfl
    rw [List.cons_append, pieces]
    split
    · next body' after' he =>
      obtain ⟨rfl, rfl⟩ := Prod.mk.inj (Option.some.inj (hsame.symm.trans he))
      rw [ih fun h => hlone (List.mem_cons_of_mem _ h), List.cons_append]
    · next he => cases hsame.symm.trans he
  | case8 rest hopen ih =>
    have hsame : closeClass (rest ++ u) = none := by
      rw [closeClass_append hclose, hopen]
      rfl
    rw [List.cons_append, pieces]
    split
    · next body' after' he => cases hsame.symm.trans he
    · rw [ih fun h => hlone (List.mem_cons_of_mem _ h), List.cons_append]
  | case9 c rest hnone hescape htwo hone hquestion hbracket ih =>
    have hbackslash := ne_backslash hnone hescape
    rw [List.cons_append, pieces, ih fun h => hlone (List.mem_cons_of_mem _ h), List.cons_append]
    · exact fun he => absurd he hbackslash
    · exact fun _ _ he => absurd he hbackslash
    · exact fun _ he => absurd he hone
    · exact hone
    · exact hquestion
    · exact hbracket

/-! ## 4. Blanks behind backslashes -/

variable {u : Text}

/-- A line is not cut in front of a backslash. -/
theorem cutContents_append_backslash (hu : .char '/' ∉ u) (t : Text) :
    cutContents (t ++ .char '\\' :: u) = t ++ .char '\\' :: u := by
  induction t with
  | nil =>
    have hkept :=
      cutContents_append (List.not_mem_cons_of_ne_of_not_mem (by decide : CodePoint.char '/' ≠ .char '\\') hu) []
    rwa [cutContents, List.append_nil] at hkept
  | cons c t ih =>
    have hmore : isContents (t ++ .char '\\' :: u) = false :=
      isContents_of_mem List.mem_append_cons_self (by decide) (by decide)
    rw [List.cons_append, cutContents, hmore, Bool.and_false, if_neg Bool.false_ne_true, ih]

/-- What goes on with neither a star nor a slash is not cut off with the stars in front. -/
theorem cutDoubleStar_append (hstar : u.head? ≠ some (.char '*')) (hslash : u.head? ≠ some (.char '/')) (t : Text) :
    cutDoubleStar (t ++ u) = cutDoubleStar t ++ u := by
  fun_cases cutDoubleStar t with
  | case1 rest after hafter =>
    have hdrop : dropStars (rest ++ u) = .char '/' :: (after ++ u) := by
      rw [dropStars_append hstar, hafter, List.cons_append]
    rw [List.cons_append, List.cons_append, cutDoubleStar, hdrop]
    rfl
  | case2 rest hother =>
    rw [List.cons_append, List.cons_append, cutDoubleStar, dropStars_append hstar]
    split
    · next after hafter =>
      rcases List.append_eq_cons_iff.mp hafter with ⟨-, rfl⟩ | ⟨more, hmore, -⟩
      · exact absurd rfl hslash
      · exact absurd hmore (hother more)
    · rfl
  | case3 t hother =>
    rw [cutDoubleStar]
    intro rest he
    rcases List.append_eq_cons_iff.mp he with ⟨-, rfl⟩ | ⟨more, rfl, hmore⟩
    · exact hstar rfl
    rcases List.append_eq_cons_iff.mp hmore.symm with ⟨-, rfl⟩ | ⟨more, rfl, -⟩
    · exact hstar rfl
    · exact hother more rfl

theorem endRun_cutDoubleStar (t : Text) : (cutDoubleStar t).endRun = t.endRun := by
  fun_cases cutDoubleStar t with
  | case1 rest after hafter =>
    rw [← hafter, endRun_dropStars, Text.endRun_cons_of_ne (by decide), Text.endRun_cons_of_ne (by decide)]
  | case2 => rfl
  | case3 => rfl

/-- Whether a text is an extension is seen in its first three characters. -/
theorem startsExtension_cons (c d e : CodePoint) (t : Text) :
    startsExtension (c :: d :: e :: t) = startsExtension [c, d, e] := by
  by_cases hc : c = '*'
  · by_cases hd : d = '.'
    · rw [hc, hd]
      rfl
    · simp [startsExtension, hd]
  · simp [startsExtension, hc]

theorem startsExtension_append_backslash (t u : Text) :
    startsExtension (t ++ .char '\\' :: u) = startsExtension (t ++ [.char '\\']) := by
  match t with
  | [] => rfl
  | [c] => simp [startsExtension]
  | [c, d] => exact startsExtension_cons c d '\\' u
  | c :: d :: e :: t => exact (startsExtension_cons c d e _).trans (startsExtension_cons c d e _).symm

/-- Blanks are written as they are. -/
theorem convert_blanks (hu : Text.isAllBlank u = true) : convert u = u := by
  have hplain : ∀ c ∈ u, c ∉ literalEscapes ++ [.char '\\', .char '*', .char '?', .char '['] := by
    intro c hc hspecial
    have hnone :
        (literalEscapes ++ [CodePoint.char '\\', .char '*', .char '?', .char '[']).any Text.isBlank = false := by
      decide
    exact List.any_eq_false.mp hnone c hspecial (List.all_eq_true.mp hu c hc)
  have hwritten : ∀ c ∈ u, Piece.render (.literal c) = [c] := by
    intro c hc
    rw [Piece.render, escapeLiteral, if_neg]
    exact fun hliteral => hplain c hc (List.mem_append_left _ (List.contains_iff_mem.mp hliteral))
  rw [convert, pieces_bareWord fun c hc hwild => hplain c hc (List.mem_append_right _ hwild), List.flatMap_map,
    List.flatMap_congr hwritten, List.flatMap_singleton']

/-- A backslash that is escaped is written as it is, and so are blanks behind it. -/
theorem convert_append_backslashes {t : Text} (ht : t.endRun % 2 = 0) (hu : Text.isAllBlank u = true) :
    convert (t ++ .char '\\' :: .char '\\' :: u) = convert t ++ .char '\\' :: .char '\\' :: u := by
  have hclose : .char ']' ∉ .char '\\' :: .char '\\' :: u := by
    have hmem : .char ']' ∉ u := fun h => absurd (List.all_eq_true.mp hu (.char ']') h) (by decide)
    simp [hmem]
  have hlone : .loneBackslash ∉ pieces t := by
    rw [loneBackslash_mem_iff]
    omega
  have hpieces : pieces ('\\' :: '\\' :: u) = .escaped '\\' :: pieces u := by rw [pieces]
  have hstar : List.head? (.char '\\' :: .char '\\' :: u) ≠ some (.char '*') :=
    fun h => absurd (Option.some.inj h) (by decide)
  rw [convert, pieces_append hstar hclose hlone, hpieces, List.flatMap_append, List.flatMap_cons]
  exact congrArg (fun v => convert t ++ .char '\\' :: .char '\\' :: v) (convert_blanks hu)

section backslashes

variable {line init : Text} {skipDotFolders : Bool}

theorem cutLine_of_backslashes (hu : Text.isAllBlank u = true)
    (hstrip : stripLine line = init ++ .char '\\' :: .char '\\' :: u) :
    cutLine line = cutDoubleStar init ++ .char '\\' :: .char '\\' :: u := by
  have hslash : .char '/' ∉ .char '\\' :: u := by
    have hmem : .char '/' ∉ u := fun h => absurd (List.all_eq_true.mp hu (.char '/') h) (by decide)
    simp [hmem]
  rw [cutLine, hstrip, cutContents_append_backslash hslash, cutDoubleStar_append]
  · exact fun h => absurd (Option.some.inj h) (by decide)
  · exact fun h => absurd (Option.some.inj h) (by decide)

theorem isExtension_iff {t : Text} : (Working.classified line t skipDotFolders).isExtension = true ↔
    .char '/' ∉ t ∧ startsExtension t = true := by
  show (!t.contains '/' && startsExtension t) = true ↔ _
  rw [Bool.and_eq_true, Bool.not_eq_true', ← Bool.not_eq_true, List.contains_iff_mem]

/-- What is written for a line that ends in a backslash which is escaped, with blanks behind it that count. -/
theorem exists_written (hrun : init.endRun % 2 = 0) :
    ∃ front ending, (ending = [] ∨ ending = [.char '$']) ∧ ∀ line u skipDotFolders, Text.isAllBlank u = true →
      stripLine line = init ++ .char '\\' :: .char '\\' :: u →
      writtenText line skipDotFolders = front ++ .char '\\' :: .char '\\' :: u ++ ending := by
  have hrun : (cutDoubleStar init).endRun % 2 = 0 := by rwa [endRun_cutDoubleStar]
  have hcut : ∀ line u, Text.isAllBlank u = true → stripLine line = init ++ .char '\\' :: .char '\\' :: u →
    cutLine line = cutDoubleStar init ++ .char '\\' :: .char '\\' :: u := fun line u => cutLine_of_backslashes
  generalize cutDoubleStar init = t at hrun hcut
  -- the blanks make no difference to the kind of the line
  have hkind : ∀ line u skipDotFolders, Text.isAllBlank u = true →
      stripLine line = init ++ .char '\\' :: .char '\\' :: u →
      ((Working.classified (stripLine line) (cutLine line) skipDotFolders).isExtension = true ↔
        .char '/' ∉ t ∧ startsExtension (t ++ [.char '\\']) = true) := by
    intro line u skipDotFolders hu hstrip
    have hslash : .char '/' ∉ u := fun h => absurd (List.all_eq_true.mp hu (.char '/') h) (by decide)
    rw [isExtension_iff, hcut line u hu hstrip, startsExtension_append_backslash]
    simp [hslash]
  by_cases hextension : .char '/' ∉ t ∧ startsExtension (t ++ [.char '\\']) = true
  · obtain ⟨rest, rfl⟩ : ∃ rest, t = .char '*' :: rest := by
      cases t with
      | nil => exact absurd hextension.2 (by decide)
      | cons c rest =>
        refine ⟨rest, ?_⟩
        have hstarts := hextension.2
        unfold startsExtension at hstarts
        split at hstarts
        · next he => rw [(List.cons.inj he).1]
        · cases hstarts
    rw [Text.endRun_cons_of_ne (by decide)] at hrun
    refine ⟨convert rest, ['$'], .inr rfl, fun line u skipDotFolders hu hstrip => ?_⟩
    rw [writtenText, anchor_extension ((hkind line u skipDotFolders hu hstrip).mpr hextension),
      ← convert_append_backslashes hrun hu]
    show convert ((cutLine line).drop 1) ++ [.char '$'] = _
    rw [hcut line u hu hstrip]
    rfl
  · refine ⟨convert t, [], .inl rfl, fun line u skipDotFolders hu hstrip => ?_⟩
    have hbare : ¬ IsBareWord (cutLine line) := by
      rw [hcut line u hu hstrip]
      exact fun hbare => hbare '\\' (by decide) List.mem_append_cons_self
    rw [writtenText, anchor_other (mt (hkind line u skipDotFolders hu hstrip).mp hextension)
      (mt isBareWord_classified.mp hbare), List.append_nil, ← convert_append_backslashes hrun hu]
    exact congrArg convert (hcut line u hu hstrip)

/-- What becomes of such a line: it is dropped for a reason in which the blanks have no part, or kept with them. -/
theorem outcome_of_backslashes (hrun : init.endRun % 2 = 0) (skipDotFolders : Bool) :
    (∃ reason, ∀ line u, Text.isAllBlank u = true → stripLine line = init ++ .char '\\' :: .char '\\' :: u →
      (translate line skipDotFolders).outcome = .dropped reason) ∨
    ∃ front ending, (ending = [] ∨ ending = [.char '$']) ∧ ∀ line u, Text.isAllBlank u = true →
      stripLine line = init ++ .char '\\' :: .char '\\' :: u →
      (translate line skipDotFolders).outcome = .kept (front ++ .char '\\' :: .char '\\' :: u ++ ending) := by
  obtain ⟨front, ending, hending, hwritten⟩ := exists_written hrun
  have houtcome : ∀ line u, Text.isAllBlank u = true → stripLine line = init ++ .char '\\' :: .char '\\' :: u →
      (translate line skipDotFolders).outcome =
        if (init ++ [CodePoint.char '\\']).head? = some (.char '#') then .dropped .comment
        else if (init ++ [CodePoint.char '\\']).head? = some (.char '!') then .dropped .exemption
        else if skipDotFolders && startsDotted (init ++ [.char '\\']) then .dropped .redundantDot
        else .kept (front ++ .char '\\' :: .char '\\' :: u ++ ending) := by
    intro line u hu hstrip
    have hempty : (init ++ .char '\\' :: .char '\\' :: u).isEmpty = false := by simp
    have hhead : (init ++ .char '\\' :: .char '\\' :: u).head? = (init ++ [CodePoint.char '\\']).head? := by
      cases init <;> rfl
    have hswap : swapFileGlobs.contains (init ++ .char '\\' :: .char '\\' :: u) = false := by
      refine Bool.eq_false_iff.mpr fun h => ?_
      have hall : ∀ t ∈ swapFileGlobs, .char '\\' ∉ t := by decide
      exact hall _ (List.contains_iff_mem.mp h) List.mem_append_cons_self
    have hkept : ofWritten (front ++ .char '\\' :: .char '\\' :: u ++ ending) =
        .kept (front ++ .char '\\' :: .char '\\' :: u ++ ending) := by
      refine if_neg ?_
      simp only [List.length_append, List.length_cons, minFragmentLength]
      omega
    rw [outcome_eq, hwritten line u _ hu hstrip, hstrip, hempty, hhead, hswap, hkept,
      startsDotted_append_cons (by decide)]
    simp only [Bool.false_or, decide_eq_true_eq, Bool.false_eq_true, if_false]
  by_cases hcomment : (init ++ [CodePoint.char '\\']).head? = some (.char '#')
  · simp only [if_pos hcomment] at houtcome
    exact .inl ⟨_, houtcome⟩
  by_cases hexemption : (init ++ [CodePoint.char '\\']).head? = some (.char '!')
  · simp only [if_neg hcomment, if_pos hexemption] at houtcome
    exact .inl ⟨_, houtcome⟩
  by_cases hdotted : (skipDotFolders && startsDotted (init ++ [.char '\\'])) = true
  · simp only [if_neg hcomment, if_neg hexemption, if_pos hdotted] at houtcome
    exact .inl ⟨_, houtcome⟩
  · simp only [if_neg hcomment, if_neg hexemption, if_neg hdotted] at houtcome
    exact .inr ⟨front, ending, hending, houtcome⟩

end backslashes

/-! ## 5. Blanks that do not count -/

/-- Blanks behind a line do not count unless the first of them is escaped, and then only that one does. -/
structure IgnoredUnlessEscaped (stem blanks : Text) : Prop where
  escaped : stem.endRun % 2 = 1 → stripLine (stem ++ blanks) = Text.trimStart stem ++ blanks.take 1
  unescaped : stem.endRun % 2 = 0 → stripLine (stem ++ blanks) = Text.trimStart stem ∧
    ∀ skipDotFolders, (translate (stem ++ blanks) skipDotFolders).outcome = (translate stem skipDotFolders).outcome

open Text (EndsFirm)

section blanks

variable {stem blanks : Text} (hstem : EndsFirm stem) (hblanks : Text.isAllBlank blanks = true)
include hstem hblanks

theorem stripLine_of_endRun_ne_zero (hrun : stem.endRun ≠ 0) :
    stripLine (stem ++ blanks) = Text.trimStart stem ++ blanks.take 1 := by
  rw [stripLine_append_blanks hstem hblanks, if_pos]
  exact not_ne_iff.mp (mt Text.endRun_eq_zero_iff.mpr hrun)

theorem stripLine_of_endRun_eq_zero (hrun : stem.endRun = 0) : stripLine (stem ++ blanks) = Text.trimStart stem := by
  rw [stripLine_append_blanks hstem hblanks, if_neg (Text.endRun_eq_zero_iff.mp hrun), List.append_nil]

/-- Without a backslash at the end, and with an odd number of them, blanks are treated as they should be. -/
theorem ignoredUnlessEscaped (hrun : stem.endRun = 0 ∨ stem.endRun % 2 = 1) : IgnoredUnlessEscaped stem blanks where
  escaped hodd := stripLine_of_endRun_ne_zero hstem hblanks fun h => by omega
  unescaped heven := by
    have hstrip : stripLine (stem ++ blanks) = Text.trimStart stem :=
      stripLine_of_endRun_eq_zero hstem hblanks (by omega)
    have hsame : stripLine (stem ++ blanks) = stripLine stem := by rw [hstrip, stripLine_of_endsFirm hstem]
    exact ⟨hstrip, fun skipDotFolders => congrArg Settled.outcome (translate_eq_iff.mpr hsame)⟩

/-- Behind an even number of backslashes the first blank counts, and goes into the fragment. -/
theorem outcome_blank (hrun : 2 ≤ stem.endRun) (heven : stem.endRun % 2 = 0) (skipDotFolders : Bool) :
    (∃ reason, (translate stem skipDotFolders).outcome = .dropped reason ∧
      (translate (stem ++ blanks) skipDotFolders).outcome = .dropped reason) ∨
    ∃ front ending, (ending = [] ∨ ending = [.char '$']) ∧
      (translate stem skipDotFolders).outcome = .kept (front ++ ending) ∧
      (translate (stem ++ blanks) skipDotFolders).outcome = .kept (front ++ blanks.take 1 ++ ending) := by
  obtain ⟨init, hinit, hcount⟩ := @Text.exists_init (Text.trimStart stem) (by rwa [Text.endRun_trimStart])
  rw [Text.endRun_trimStart] at hcount
  have hbare : stripLine stem = init ++ [.char '\\', .char '\\'] := (stripLine_of_endsFirm hstem).trans hinit
  have hblank : stripLine (stem ++ blanks) = init ++ .char '\\' :: .char '\\' :: blanks.take 1 := by
    rw [stripLine_of_endRun_ne_zero hstem hblanks (by omega), hinit, List.append_assoc]
    rfl
  have htake : Text.isAllBlank (blanks.take 1) = true := Text.isAllBlank_take hblanks 1
  rcases outcome_of_backslashes (show init.endRun % 2 = 0 by omega) skipDotFolders with
    ⟨reason, h⟩ | ⟨front, ending, hending, h⟩
  · exact .inl ⟨reason, h stem [] rfl hbare, h _ _ htake hblank⟩
  · refine .inr ⟨front ++ [.char '\\', .char '\\'], ending, hending, h stem [] rfl hbare, ?_⟩
    rw [h _ _ htake hblank, List.append_assoc front [.char '\\', .char '\\']]
    rfl

/-- **Blanks at the end are ignored unless escaped, for all but some numbers of backslashes.**  Behind no backslash
or an odd number of them they are treated as they should be.  Behind an even number of backslashes, which are all
escaped themselves, the first blank is kept as well, and the fragment finds it. -/
theorem blanks_ignored_iff (hne : blanks ≠ []) :
    (IgnoredUnlessEscaped stem blanks ↔ stem.endRun = 0 ∨ stem.endRun % 2 = 1) ∧
    (2 ≤ stem.endRun → stem.endRun % 2 = 0 →
      stripLine (stem ++ blanks) = Text.trimStart stem ++ blanks.take 1 ∧
      ∀ skipDotFolders,
        (∃ reason, (translate stem skipDotFolders).outcome = .dropped reason ∧
          (translate (stem ++ blanks) skipDotFolders).outcome = .dropped reason) ∨
        ∃ front ending, (ending = [] ∨ ending = [.char '$']) ∧
          (translate stem skipDotFolders).outcome = .kept (front ++ ending) ∧
          (translate (stem ++ blanks) skipDotFolders).outcome = .kept (front ++ blanks.take 1 ++ ending)) := by
  refine ⟨⟨fun h => ?_, ignoredUnlessEscaped hstem hblanks⟩, fun hrun heven =>
    ⟨stripLine_of_endRun_ne_zero hstem hblanks (by omega), outcome_blank hstem hblanks hrun heven⟩⟩
  by_contra hother
  have hkept := stripLine_of_endRun_ne_zero hstem hblanks fun hzero => hother (.inl hzero)
  rw [(h.unescaped (by omega)).1] at hkept
  obtain ⟨b, rest, rfl⟩ := List.exists_cons_of_ne_nil hne
  exact absurd (List.self_eq_append_right.mp hkept) (List.cons_ne_nil _ _)

end blanks

/-- A name, three backslashes and two blanks: the first blank is escaped. -/
theorem blanks_ignored_iff_three : EndsFirm (Text.ofString " a\\\\\\") ∧
    Text.isAllBlank (Text.ofString " \t") = true ∧ Text.ofString " \t" ≠ [] ∧
    stripLine (Text.ofString " a\\\\\\ \t") = Text.ofString "a\\\\\\ " := by
  have hstem : EndsFirm (Text.ofString " a\\\\\\") := ⟨'\\', by decide +kernel, by decide⟩
  have hblanks : Text.isAllBlank (Text.ofString " \t") = true := by decide +kernel
  have hne : Text.ofString " \t" ≠ [] := by decide +kernel
  have hignored := (blanks_ignored_iff hstem hblanks hne).1.mpr (.inr (by decide +kernel))
  exact ⟨hstem, hblanks, hne, hignored.escaped (by decide +kernel)⟩

/-- A name, two backslashes and a blank: the blank is not escaped, but it is kept and goes into the fragment. -/
theorem blank_kept_unescaped : EndsFirm (Text.ofString "a\\\\") ∧ Text.isAllBlank [' '] = true ∧
    (Text.ofString "a\\\\").endRun = 2 ∧ ¬ IgnoredUnlessEscaped (Text.ofString "a\\\\") [' '] ∧
    (translate (Text.ofString "a\\\\") true).outcome = .kept (Text.ofString "a\\\\") ∧
    (translate (Text.ofString "a\\\\ ") true).outcome = .kept (Text.ofString "a\\\\ ") := by
  have hstrip : stripLine (Text.ofString "a\\\\" ++ [.char ' ']) ≠ Text.trimStart (Text.ofString "a\\\\") := by
    decide +kernel
  refine ⟨⟨'\\', by decide +kernel, by decide⟩, by decide, by decide +kernel, fun h => ?_, by decide +kernel,
    by decide +kernel⟩
  exact hstrip (h.unescaped (by decide +kernel)).1

end Glob

end SkipPath
