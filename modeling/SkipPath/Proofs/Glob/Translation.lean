import SkipPath.Glob.Settled
import SkipPath.Proofs.Glob.Meaning

/-!
The fragment of a line finds in a path what the line means.

What a line without classes means in a path depends on its kind (`Finds`): an extension is found at the end,
a name as a whole name, and anything else anywhere.  The rules that may drop a line are passed one by one
(`Rule.settles_of_drop`); what the others make of it is then a closed form (`fragment_of_kept`), of
which each kind of line is one case (`translate_search`).
-/

namespace SkipPath.Glob

open Regex

/-! ## 1. What a line finds -/

/-- A star, a dot and the rest of a name. -/
def IsExtension (t : Text) : Prop :=
  .char '/' ∉ t ∧ ∃ c rest, t = .char '*' :: .char '.' :: c :: rest ∧ Text.isWord c = true

/-- One name without wildcards. -/
def IsBareWord (t : Text) : Prop := ∀ c ∈ [.char '/', .char '*', .char '?', .char '[', .char ']', .char '\\'], c ∉ t

/-- What a pattern finds in a path: an extension at the end, a name as a name of a folder (or of any kind if
it looks like a file), and any other pattern anywhere. -/
inductive Finds (t p : Text) : Prop where
  | extension (h : IsExtension t) {before u : Text} (hp : p = before ++ u) (hu : Means (t.drop 1) u)
  | bareWord (h : IsBareWord t) {before after : Text}
    (hp : p = before ++ (.char '/' :: t ++ if .char '.' ∈ t then [] else [.char '/']) ++ after)
  | other (h : ¬ IsExtension t) (h' : ¬ IsBareWord t) {before u after : Text}
    (hp : p = before ++ u ++ after) (hu : Means t u)

/-! ## 2. From the line to the fragment -/

/-- A name without wildcards has a piece for each character. -/
theorem pieces_bareWord {t : Text} (h : ∀ c ∈ t, c ∉ [.char '\\', .char '*', .char '?', .char '[']) :
    pieces t = t.map .literal := by
  induction t with
  | nil => rw [pieces, List.map_nil]
  | cons c t ih =>
    obtain ⟨hc, ht⟩ := List.forall_mem_cons.mp h
    simp only [List.mem_cons, List.not_mem_nil, or_false, not_or] at hc
    rw [List.map_cons, ← ih ht, pieces]
    · exact fun he => absurd he hc.1
    · exact fun d rest he => absurd he hc.1
    · exact fun rest he => absurd he hc.2.1
    · exact hc.2.1
    · exact hc.2.2.1
    · exact hc.2.2.2

/-- What some rules make of a state that none has settled so far. -/
def Rule.settles (rules : List Rule) (w : Working) : Outcome :=
  match (Rule.run rules w).getLast? with
  | some (_, final) => final.outcome.getD (settle final)
  | none => settle w

namespace Rule

variable {rule : Rule} {rules : List Rule} {w : Working} {fragment : Text}

/-- A rule that settles the line is the last. -/
theorem settles_cons_some {outcome : Outcome} (h : (rule.apply w).outcome = some outcome) :
    settles (rule :: rules) w = outcome := by
  simp only [settles, run, h, Option.isSome_some, if_true, List.getLast?_singleton, Option.getD_some]

/-- After a rule that leaves the line open come the others. -/
theorem settles_cons_none (h : (rule.apply w).outcome = none) :
    settles (rule :: rules) w = settles rules (rule.apply w) := by
  simp only [settles, run, h, Option.isSome_none, Bool.false_eq_true, if_false, List.getLast?_cons]
  cases hlast : (run rules (rule.apply w)).getLast? with
  | none => simp only [Option.getD_none, h]
  | some final => simp only [Option.getD_some]

/-- A line that is not dropped for the reason of a rule has passed the rule. -/
theorem settles_of_drop {reason : DropReason} {condition : Prop} [Decidable condition] {outcome : Outcome}
    (hopen : w.outcome = none) (happly : rule.apply w = if condition then w.drop reason else w)
    (h : settles (rule :: rules) w = outcome) (hne : outcome ≠ .dropped reason) :
    ¬ condition ∧ settles rules w = outcome := by
  by_cases hcondition : condition
  · rw [if_pos hcondition] at happly
    rw [settles_cons_some (congrArg Working.outcome happly)] at h
    exact absurd h.symm hne
  · rw [if_neg hcondition] at happly
    rw [settles_cons_none ((congrArg Working.outcome happly).trans hopen), happly] at h
    exact ⟨hcondition, h⟩

/-- What becomes of a line is what some rule makes of it, or else what its length makes of it. -/
theorem settles_induction {P : Outcome → Prop}
    (hrules : ∀ rule ∈ rules, ∀ (w : Working) (outcome : Outcome),
      w.outcome = none → (rule.apply w).outcome = some outcome → P outcome)
    (hsettle : ∀ w, P (settle w)) (hopen : w.outcome = none) : P (settles rules w) := by
  induction rules generalizing w with
  | nil => exact hsettle w
  | cons rule rules ih =>
    obtain ⟨hrule, hrest⟩ := List.forall_mem_cons.mp hrules
    cases houtcome : (rule.apply w).outcome with
    | none =>
      rw [settles_cons_none houtcome]
      exact ih hrest houtcome
    | some outcome =>
      rw [settles_cons_some houtcome]
      exact hrule w outcome hopen houtcome

/-- A rule that drops some lines for a reason makes nothing else of any line. -/
theorem eq_dropped_of_drop {reason : DropReason} {condition : Prop} [Decidable condition]
    {outcome : Outcome} (hopen : w.outcome = none)
    (h : (if condition then w.drop reason else w).outcome = some outcome) :
    outcome = .dropped reason := by
  split at h
  · exact (Option.some.inj h).symm
  · rw [hopen] at h
    cases h

/-- What the rules after those for comments and exemptions can make of a line. -/
inductive Later : Outcome → Prop where
  | redundantDot : Later (.dropped .redundantDot)
  | tooShort : Later (.dropped .tooShort)
  | kept {fragment : Text} (h : minFragmentLength ≤ fragment.length) : Later (.kept fragment)

theorem later_settle (w : Working) : Later (settle w) ∧ settle w ≠ .dropped .redundantDot := by
  unfold settle
  split
  · exact ⟨.tooShort, nofun⟩
  · next hlength => exact ⟨.kept (Nat.not_lt.mp hlength), nofun⟩

theorem later_apply {outcome : Outcome} (hrule : rule ∈ all.drop 3) (hopen : w.outcome = none)
    (h : (rule.apply w).outcome = some outcome) : Later outcome ∧ outcome ≠ .dropped .redundantDot := by
  simp only [all, List.drop_succ_cons, List.drop_zero, List.mem_cons, List.not_mem_nil,
    or_false] at hrule
  rcases hrule with rfl | rfl | rfl | rfl | rfl | rfl | rfl
  · simp only [swapFile] at h
    split at h
    · cases h
      exact ⟨.kept (Nat.le_refl 2), nofun⟩
    · rw [hopen] at h
      cases h
  -- these five leave the line open
  iterate 5 exact absurd (hopen.symm.trans h) nofun
  · rw [← Option.some.inj h]
    exact later_settle _

end Rule

section translate

variable {line : Text} {skipDotFolders : Bool}

theorem head?_stripLine (line : Text) : (stripLine line).head? = (Text.trim line).head? := by
  unfold stripLine Text.trim
  simp only
  split
  · next hlast =>
    have hne : Text.trimEnd (Text.trimStart line) ≠ [] := by
      intro he
      rw [he] at hlast
      cases hlast
    obtain ⟨c, rest, hc⟩ := List.exists_cons_of_ne_nil hne
    rw [hc]
    rfl
  · rfl

/-- What becomes of a line goes by the character that it starts with, and then by the later rules. -/
theorem outcome_cases (line : Text) (skipDotFolders : Bool) :
    ((Text.trim line).head? = none ∨ (Text.trim line).head? = some (.char '#')) ∧
      (translate line skipDotFolders).outcome = .dropped .comment ∨
    (Text.trim line).head? = some (.char '!') ∧
      (translate line skipDotFolders).outcome = .dropped .exemption ∨
    (Text.trim line).head? ≠ some (.char '!') ∧ Rule.Later (translate line skipDotFolders).outcome := by
  have hall : (translate line skipDotFolders).outcome =
      Rule.settles Rule.all (Working.start line skipDotFolders) := rfl
  rw [hall, ← head?_stripLine]
  by_cases hcomment : ((stripLine line).isEmpty || (stripLine line).head? = some (.char '#')) = true
  · have happly : Rule.blankOrComment.apply (Working.start line skipDotFolders) =
        (Working.start line skipDotFolders).drop .comment := if_pos hcomment
    refine .inl ⟨?_, Rule.settles_cons_some (congrArg Working.outcome happly)⟩
    rcases Bool.or_eq_true_iff.mp hcomment with hempty | hhash
    · exact .inl (List.head?_eq_none_iff.mpr (List.isEmpty_iff.mp hempty))
    · exact .inr (of_decide_eq_true hhash)
  have happly : Rule.blankOrComment.apply (Working.start line skipDotFolders) =
      Working.start line skipDotFolders := if_neg hcomment
  rw [Rule.all, Rule.settles_cons_none (congrArg Working.outcome happly), happly]
  by_cases hexempts : (stripLine line).head? = some (.char '!')
  · have happly : Rule.exemption.apply (Working.start line skipDotFolders) =
        (Working.start line skipDotFolders).drop .exemption := if_pos hexempts
    exact .inr (.inl ⟨hexempts, Rule.settles_cons_some (congrArg Working.outcome happly)⟩)
  · have happly : Rule.exemption.apply (Working.start line skipDotFolders) =
        Working.start line skipDotFolders := if_neg hexempts
    rw [Rule.settles_cons_none (congrArg Working.outcome happly), happly]
    refine .inr (.inr ⟨hexempts, Rule.settles_induction ?_ (fun w => (Rule.later_settle w).1) rfl⟩)
    intro rule hrule w outcome hopen h
    rcases List.mem_cons.mp hrule with rfl | hrule
    · rw [Rule.eq_dropped_of_drop hopen h]
      exact .redundantDot
    · exact (Rule.later_apply hrule hopen h).1

/-- A line exempts paths if it starts with an exclamation mark, blanks not counted. -/
theorem outcome_eq_exemption_iff :
    (translate line skipDotFolders).outcome = .dropped .exemption ↔
      (Text.trim line).head? = some (.char '!') := by
  rcases outcome_cases line skipDotFolders with ⟨hhead, he⟩ | ⟨hhead, he⟩ | ⟨hhead, he⟩
  · rw [he]
    refine iff_of_false nofun fun h => ?_
    rcases hhead with hnone | hhash
    · rw [hnone] at h
      cases h
    · rw [hhash] at h
      exact absurd (Option.some.inj h) (by decide)
  · exact iff_of_true he hhead
  · refine iff_of_false (fun h => ?_) hhead
    rw [h] at he
    cases he

theorem startsDotted_head {t : Text} (h : startsDotted t = true) :
    ∃ d rest, t = d :: rest ∧ (d = '.' ∨ d = '$') := by
  unfold startsDotted at h
  split at h
  · exact ⟨'.', _, rfl, .inl rfl⟩
  · exact ⟨'$', _, rfl, .inr rfl⟩
  · cases h

/-- A line is dropped as redundant if it starts with a dot that a word character or a star follows, or with a
dollar, blanks not counted, and folders with a dot are skipped. -/
theorem outcome_eq_redundantDot_iff :
    (translate line skipDotFolders).outcome = .dropped .redundantDot ↔
      skipDotFolders = true ∧ startsDotted (stripLine line) = true := by
  have hall : (translate line skipDotFolders).outcome =
      Rule.settles Rule.all (Working.start line skipDotFolders) := rfl
  rw [hall]
  constructor
  · intro h
    obtain ⟨-, h⟩ := Rule.settles_of_drop rfl rfl h nofun
    obtain ⟨-, h⟩ := Rule.settles_of_drop rfl rfl h nofun
    by_contra hnot
    have happly : Rule.redundantDot.apply (Working.start line skipDotFolders) =
        Working.start line skipDotFolders :=
      if_neg fun hdotted => hnot (Bool.and_eq_true_iff.mp hdotted)
    rw [Rule.settles_cons_none (congrArg Working.outcome happly), happly] at h
    refine Rule.settles_induction (P := (· ≠ .dropped .redundantDot)) (fun rule hrule w outcome hopen h => ?_)
      (fun w => (Rule.later_settle w).2) rfl h
    exact (Rule.later_apply hrule hopen h).2
  · rintro ⟨rfl, hdotted⟩
    obtain ⟨d, rest, hline, hd⟩ := startsDotted_head hdotted
    have hcomment : Rule.blankOrComment.apply (Working.start line true) = Working.start line true := by
      refine if_neg fun h => ?_
      rcases hd with rfl | rfl <;> simp [Working.start, hline] at h
    have hexemption : Rule.exemption.apply (Working.start line true) = Working.start line true := by
      refine if_neg fun h => ?_
      rcases hd with rfl | rfl <;> simp [Working.start, hline] at h
    have hdrops : Rule.redundantDot.apply (Working.start line true) = (Working.start line true).drop .redundantDot :=
      if_pos hdotted
    rw [Rule.all, Rule.settles_cons_none (congrArg Working.outcome hcomment), hcomment,
      Rule.settles_cons_none (congrArg Working.outcome hexemption), hexemption]
    exact Rule.settles_cons_some (congrArg Working.outcome hdrops)

/-- A fragment is never shorter than it has to be. -/
theorem translate_kept_length {fragment : Text}
    (hkept : (translate line skipDotFolders).outcome = .kept fragment) :
    minFragmentLength ≤ fragment.length := by
  rcases outcome_cases line skipDotFolders with ⟨-, he⟩ | ⟨-, he⟩ | ⟨-, he⟩
  · rw [he] at hkept
    cases hkept
  · rw [he] at hkept
    cases hkept
  · rw [hkept] at he
    cases he with
    | kept hlength => exact hlength

end translate

/-- The state when all rules but the last three have been applied. -/
def Working.classified (line t : Text) (skipDotFolders : Bool) : Working :=
  Rule.classify.apply { line := line, text := t, skipDotFolders := skipDotFolders }

/-- What the rules that strip and cut make of a line (`Rule.trailingContents`, `Rule.leadingDoubleStar`). -/
def cutLine (line : Text) : Text := cutDoubleStar (cutContents (stripLine line))

/-- The fragment of a line that is kept, other than that of a backup file. -/
theorem fragment_of_kept {line fragment : Text} {skipDotFolders : Bool}
    (hswap : stripLine line ∉ swapFileGlobs)
    (hkept : (translate line skipDotFolders).outcome = .kept fragment) :
    fragment = anchor (Rule.wildcards.apply
      (Working.classified (stripLine line) (cutLine line) skipDotFolders)) := by
  have hpassed : Rule.settles Rule.all (Working.start line skipDotFolders) = .kept fragment := hkept
  obtain ⟨-, hpassed⟩ := Rule.settles_of_drop rfl rfl hpassed nofun
  obtain ⟨-, hpassed⟩ := Rule.settles_of_drop rfl rfl hpassed nofun
  obtain ⟨-, hpassed⟩ := Rule.settles_of_drop rfl rfl hpassed nofun
  have hopen : Rule.swapFile.apply (Working.start line skipDotFolders) =
      Working.start line skipDotFolders :=
    if_neg fun h => hswap (List.contains_iff_mem.mp h)
  rw [Rule.settles_cons_none (congrArg Working.outcome hopen), hopen, Rule.settles_cons_none rfl,
    Rule.settles_cons_none rfl, Rule.settles_cons_none rfl, Rule.settles_cons_none rfl,
    Rule.settles_cons_none rfl, Rule.settles_cons_some rfl, settle] at hpassed
  split at hpassed
  · cases hpassed
  · exact (Outcome.kept.inj hpassed).symm

section cuts

variable {t : Text} {c : CodePoint}

theorem mem_of_mem_stripLine {line : Text} (h : c ∈ stripLine line) : c ∈ line := by
  have hstart : c ∈ Text.trimStart line → c ∈ line := fun h => (List.dropWhile_sublist _).subset h
  have hwhole := Text.dropEndWhile_append_takeEndWhile Text.isBlank (Text.trimStart line)
  have hbody : c ∈ Text.trimEnd (Text.trimStart line) → c ∈ line := fun h =>
    hstart (hwhole ▸ List.mem_append_left _ h)
  dsimp only [stripLine] at h
  split at h
  · rcases List.mem_append.mp h with h | h
    · exact hbody h
    · exact hstart (hwhole ▸ List.mem_append_right _ (List.mem_of_mem_take h))
  · exact hbody h

theorem mem_of_mem_cutContents (h : c ∈ cutContents t) : c ∈ t := by
  induction t with
  | nil => exact h
  | cons d rest ih =>
    rw [cutContents] at h
    split at h
    · next hd =>
      rw [List.mem_singleton.mp h, ← of_decide_eq_true (Bool.and_eq_true_iff.mp hd).1]
      exact List.mem_cons_self
    · rcases List.mem_cons.mp h with rfl | h
      · exact List.mem_cons_self
      · exact List.mem_cons_of_mem _ (ih h)

theorem mem_of_mem_dropStars (h : c ∈ dropStars t) : c ∈ t :=
  by_contra fun hnot => not_mem_dropStars hnot h

theorem mem_of_mem_cutDoubleStar (h : c ∈ cutDoubleStar t) : c ∈ t := by
  unfold cutDoubleStar at h
  split at h
  · next rest =>
    split at h
    · next after hafter =>
      refine List.mem_cons_of_mem _ (List.mem_cons_of_mem _ (mem_of_mem_dropStars ?_))
      rw [hafter]
      exact h
    · exact h
  · exact h

theorem mem_of_mem_cutLine {line : Text} (h : c ∈ cutLine line) : c ∈ line :=
  mem_of_mem_stripLine (mem_of_mem_cutContents (mem_of_mem_cutDoubleStar h))

/-- A text that is cut keeps the slash that it is cut at. -/
theorem cutContents_of_no_slash (h : .char '/' ∉ cutContents t) : cutContents t = t := by
  induction t with
  | nil => rfl
  | cons d rest ih =>
    rw [cutContents] at h ⊢
    split at h
    · exact absurd List.mem_cons_self h
    · next hd =>
      rw [if_neg hd, ih fun hmem => h (List.mem_cons_of_mem _ hmem)]

theorem cutDoubleStar_of_no_slash (h : .char '/' ∉ cutDoubleStar t) : cutDoubleStar t = t := by
  unfold cutDoubleStar at h ⊢
  split at h
  · split at h
    · exact absurd List.mem_cons_self h
    · rfl
  · rfl

theorem cutLine_of_no_slash {line : Text} (h : .char '/' ∉ cutLine line) : cutLine line = stripLine line := by
  have houter := cutDoubleStar_of_no_slash h
  rw [cutLine, houter]
  rw [cutLine, houter] at h
  exact cutContents_of_no_slash h

end cuts

section kinds

variable {line t : Text} {skipDotFolders : Bool}

theorem startsExtension_iff (h : .char '[' ∉ t) :
    startsExtension t = true ↔ ∃ c rest, t = .char '*' :: .char '.' :: c :: rest ∧ Text.isWord c = true := by
  unfold startsExtension
  split
  · next c rest =>
    have hc : c ≠ '[' := by
      rintro rfl
      exact h (List.mem_cons_of_mem _ (List.mem_cons_of_mem _ List.mem_cons_self))
    rw [decide_eq_false hc, Bool.or_false]
    constructor
    · exact fun hword => ⟨c, rest, rfl, hword⟩
    · rintro ⟨_, _, he, hword⟩
      cases he
      exact hword
  · next hshape =>
    constructor
    · exact fun he => absurd he Bool.false_ne_true
    · rintro ⟨c, rest, rfl, -⟩
      exact absurd rfl (hshape c rest)

theorem isExtension_classified (h : .char '[' ∉ t) :
    (Working.classified line t skipDotFolders).isExtension = true ↔ IsExtension t := by
  show (!t.contains '/' && startsExtension t) = true ↔ _
  rw [Bool.and_eq_true, Bool.not_eq_true', ← Bool.not_eq_true, List.contains_iff_mem,
    startsExtension_iff h]
  exact Iff.rfl

theorem isBareWord_classified :
    (Working.classified line t skipDotFolders).isBareWord = true ↔ IsBareWord t := by
  show (!t.contains '/' && !t.any isGlobChar) = true ↔ _
  simp only [Bool.and_eq_true, Bool.not_eq_true', List.contains_eq_mem, decide_eq_false_iff_not,
    List.any_eq_false, isGlobChar, Bool.or_eq_true, decide_eq_true_eq, not_or, IsBareWord,
    List.forall_mem_cons]
  constructor
  · rintro ⟨hslash, hall⟩
    exact ⟨hslash, fun h => (hall _ h).1.1.1.1 rfl, fun h => (hall _ h).1.1.1.2 rfl,
      fun h => (hall _ h).1.1.2 rfl, fun h => (hall _ h).1.2 rfl, fun h => (hall _ h).2 rfl,
      fun _ h => absurd h List.not_mem_nil⟩
  · rintro ⟨hslash, hstar, hquestion, hopen, hclose, hbackslash, -⟩
    refine ⟨hslash, fun c hc => ⟨⟨⟨⟨?_, ?_⟩, ?_⟩, ?_⟩, ?_⟩⟩ <;> rintro rfl <;> contradiction

theorem not_isBareWord_of_isExtension (h : IsExtension t) : ¬ IsBareWord t := by
  obtain ⟨-, c, rest, rfl, -⟩ := h
  exact fun hbare => hbare '*' (by decide) List.mem_cons_self

end kinds

/-! ## 3. What the fragment finds -/

section kinds

variable {w : Working}

theorem anchor_extension (h : w.isExtension = true) :
    anchor (Rule.wildcards.apply w) = convert (w.text.drop 1) ++ [.char '$'] := by
  simp only [anchor, Rule.wildcards, convertWorking, h, if_true]

theorem anchor_bareWord (h : ¬ w.isExtension = true) (h' : w.isBareWord = true) :
    anchor (Rule.wildcards.apply w) =
      .char '/' :: convert w.text ++ if w.line.contains (.char '.') then [] else [.char '/'] := by
  simp only [anchor, Rule.wildcards, convertWorking, h, h', if_true, if_false, Bool.false_eq_true]

theorem anchor_other (h : ¬ w.isExtension = true) (h' : ¬ w.isBareWord = true) :
    anchor (Rule.wildcards.apply w) = convert w.text := by
  simp only [anchor, Rule.wildcards, convertWorking, h, h', if_false, Bool.false_eq_true]

end kinds

/-- A name between slashes, as pieces. -/
theorem render_bareWord {t : Text} (h : ∀ c ∈ t, c ∉ [.char '\\', .char '*', .char '?', .char '[']) {after : Text}
    (hafter : ∀ c ∈ after, c = '/') :
    ((.char '/' :: t ++ after).map Piece.literal).flatMap Piece.render = .char '/' :: convert t ++ after := by
  have hrender : (after.map Piece.literal).flatMap Piece.render = after := by
    induction after with
    | nil => rfl
    | cons c after ih =>
      obtain ⟨rfl, hrest⟩ := List.forall_mem_cons.mp hafter
      rw [List.map_cons, List.flatMap_cons, ih hrest]
      rfl
  rw [convert, pieces_bareWord h, List.map_append, List.flatMap_append, hrender]
  rfl

/-- A name between slashes finds itself. -/
theorem search_bareWord {t : Text} (h : IsBareWord t) :
    ∃ e, parse (.char '/' :: convert t ++ if .char '.' ∈ t then [] else [.char '/']) = .ok e ∧ ∀ p, .char '\n' ∉ p →
      (e.search p = true ↔
        ∃ before after, p = before ++ (.char '/' :: t ++ if .char '.' ∈ t then [] else [.char '/']) ++ after) := by
  have hplain : ∀ c ∈ t, c ∉ [.char '\\', .char '*', .char '?', .char '['] := by
    intro c hc hwild
    exact h c (by simp only [List.mem_cons, List.not_mem_nil, or_false] at hwild ⊢; tauto) hc
  have hafter : ∀ c ∈ (if .char '.' ∈ t then [] else [.char '/'] : Text), c = .char '/' := by
    intro c hc
    split at hc
    · exact absurd hc List.not_mem_nil
    · exact List.mem_singleton.mp hc
  have hproper : ∀ p ∈ (.char '/' :: t ++ if .char '.' ∈ t then [] else [.char '/'] : Text).map Piece.literal,
      p.IsProper := by
    intro p hp
    obtain ⟨c, hc, rfl⟩ := List.mem_map.mp hp
    rcases List.mem_append.mp hc with hc | hc
    · rcases List.mem_cons.mp hc with rfl | hc
      · exact (by decide : CodePoint.char '/' ∉ [.char '\\', .char '*', .char '?', .char '['])
      · exact hplain c hc
    · rw [hafter c hc]
      exact (by decide : CodePoint.char '/' ∉ [.char '\\', .char '*', .char '?', .char '['])
  obtain ⟨e, hparse, hsearch⟩ := search_pieces hproper
  rw [render_bareWord hplain hafter] at hparse
  refine ⟨e, hparse, fun p hp => (hsearch p hp).trans ⟨?_, ?_⟩⟩
  · rintro ⟨before, u, after, rfl, hu⟩
    exact ⟨before, after, by rw [takenBy_literals.mp hu]⟩
  · rintro ⟨before, after, rfl⟩
    exact ⟨before, _, after, rfl, takenBy_literals.mpr rfl⟩

/-- The fragment of a line that is kept is a regular expression, which finds in a path what the line
means. -/
theorem translate_search {line fragment : Text} {skipDotFolders : Bool} (hbracket : .char '[' ∉ line)
    (hswap : stripLine line ∉ swapFileGlobs)
    (hkept : (translate line skipDotFolders).outcome = .kept fragment) :
    ∃ e, parse fragment = .ok e ∧ ∀ p, .char '\n' ∉ p → (e.search p = true ↔ Finds (cutLine line) p) := by
  have hfragment := fragment_of_kept hswap hkept
  have hnone : .char '[' ∉ cutLine line := fun h => hbracket (mem_of_mem_cutLine h)
  by_cases hextension : IsExtension (cutLine line)
  · rw [anchor_extension ((isExtension_classified hnone).mpr hextension)] at hfragment
    have hdrop : .char '[' ∉ (cutLine line).drop 1 := fun h => hnone (List.mem_of_mem_drop h)
    obtain ⟨e, hparse, hsearch⟩ := search_pieces_end (pieces_proper hdrop)
    refine ⟨e, hfragment ▸ hparse, fun p hp => (hsearch p hp).trans ⟨?_, ?_⟩⟩
    · rintro ⟨before, u, hp, hu⟩
      exact .extension hextension hp ((means_iff hdrop).mpr hu)
    · rintro (⟨-, hp, hu⟩ | hbare | ⟨hother, -⟩)
      · exact ⟨_, _, hp, (means_iff hdrop).mp hu⟩
      · exact absurd hbare (not_isBareWord_of_isExtension hextension)
      · exact absurd hextension hother
  by_cases hbare : IsBareWord (cutLine line)
  · rw [anchor_bareWord (mt (isExtension_classified hnone).mp hextension)
      (isBareWord_classified.mpr hbare)] at hfragment
    -- a name has no slash, so nothing was cut off the line
    have hdot : (stripLine line).contains (.char '.') = true ↔ .char '.' ∈ cutLine line := by
      rw [List.contains_iff_mem, cutLine_of_no_slash (hbare '/' (by decide))]
    have hfragment : fragment =
        .char '/' :: convert (cutLine line) ++ if .char '.' ∈ cutLine line then [] else [.char '/'] := by
      rw [hfragment]
      exact congrArg _ (if_congr hdot rfl rfl)
    obtain ⟨e, hparse, hsearch⟩ := search_bareWord hbare
    refine ⟨e, hfragment ▸ hparse, fun p hp => (hsearch p hp).trans ⟨?_, ?_⟩⟩
    · rintro ⟨before, after, hp⟩
      exact .bareWord hbare hp
    · rintro (⟨hext, -⟩ | ⟨-, hp⟩ | ⟨-, hother, -⟩)
      · exact absurd hext hextension
      · exact ⟨_, _, hp⟩
      · exact absurd hbare hother
  · rw [anchor_other (mt (isExtension_classified hnone).mp hextension)
      (mt isBareWord_classified.mp hbare)] at hfragment
    obtain ⟨e, hparse, hsearch⟩ := search_pieces (pieces_proper hnone)
    refine ⟨e, hfragment ▸ hparse, fun p hp => (hsearch p hp).trans ⟨?_, ?_⟩⟩
    · rintro ⟨before, u, after, hp, hu⟩
      exact .other hextension hbare hp ((means_iff hnone).mpr hu)
    · rintro (⟨hext, -⟩ | ⟨hname, -⟩ | ⟨-, -, hp, hu⟩)
      · exact absurd hext hextension
      · exact absurd hname hbare
      · exact ⟨_, _, _, hp, (means_iff hnone).mp hu⟩

/-- A line with stars of both kinds, a dot that is escaped, and blanks and contents that are cut. -/
theorem translate_search_documents :
    ∃ e, parse (Text.ofString "/docs/.*/v[^/]?\\.[^/]*/") = .ok e ∧
      ∀ p, .char '\n' ∉ p → (e.search p = true ↔ Finds (Text.ofString "/docs/**/v?.*/") p) := by
  have hcut : cutLine (Text.ofString " **/docs/**/v?.*/**  ") = Text.ofString "/docs/**/v?.*/" := by
    decide +kernel
  rw [← hcut]
  exact @translate_search (Text.ofString " **/docs/**/v?.*/**  ") _ true (by decide +kernel)
    (by decide +kernel) (by decide +kernel)

end SkipPath.Glob
