import SkipPath.Proofs.Profile.Exemption
import SkipPath.Proofs.Profile.Usable
import SkipPath.Proofs.Results
import SkipPath.Proofs.Workspace.Effect

/-!
When a profile is valid, and what its commands come to.

A file comes to its profile in one of three ways (`Task.ends_of_ok`): it is not read, it is given up at an
exemption, or it is read to its end.  Each way has at most one fatal diagnostic and has it last
(`Profile.Closes`), so that all questions about validity are answered from that one diagnostic.

The ceiling is put on one text only, the command that sets the variable.  The other texts that are made for
a profile are not longer than that one, because every pattern has a character (`length_literal_le`,
`length_reference_le`).
-/

namespace SkipPath

/-! ## 1. The fatal diagnostic -/

/-- The diagnostics of a profile are some that are not fatal, and after them the fatal one, if there is
one. -/
structure Profile.Closes (p : Profile) (quiet : List Diagnostic) (fatal : Option Diagnostic) : Prop where
  diagnostics : p.diagnostics = quiet ++ fatal.toList
  quiet : ∀ d ∈ quiet, d.kind.isFatal = false
  fatal : ∀ d ∈ fatal, d.kind.isFatal = true

namespace Profile.Closes

variable {p : Profile} {quiet : List Diagnostic} {fatal : Option Diagnostic}

theorem fatal? (h : p.Closes quiet fatal) : p.fatal? = fatal := by
  have hquiet : quiet.find? (·.kind.isFatal) = none :=
    List.find?_eq_none.mpr fun d hd => Bool.eq_false_iff.mp (h.quiet d hd)
  rw [Profile.fatal?, h.diagnostics, List.find?_append, hquiet, Option.none_or]
  cases fatal with
  | none => rfl
  | some d => exact List.find?_cons_of_pos (h.fatal d rfl)

/-- Nothing comes after a fatal diagnostic. -/
theorem last (h : p.Closes quiet fatal) {before after : List Diagnostic} {d : Diagnostic}
    (hsplit : p.diagnostics = before ++ d :: after) (hd : d.kind.isFatal = true) : after = [] := by
  rcases List.eq_nil_or_concat after with rfl | ⟨after, last, rfl⟩
  · rfl
  · -- then the fatal one is among the others
    have hmem : d ∈ quiet := by
      have heq := h.diagnostics.symm.trans hsplit
      cases fatal with
      | none =>
        rw [Option.toList_none, List.append_nil] at heq
        rw [heq]
        exact List.mem_append_cons_self
      | some fatal =>
        rw [List.concat_eq_append, ← List.cons_append, ← List.append_assoc] at heq
        rw [(List.append_inj' heq rfl).1]
        exact List.mem_append_cons_self
    rw [h.quiet d hmem] at hd
    cases hd

end Profile.Closes

namespace Task

/-- What was noted of lines is not fatal. -/
theorem isFatal_tally {config : Config} {vs : List Verdict} {d : Diagnostic}
    (h : d ∈ (tally config vs).diagnostics) : d.kind.isFatal = false := by
  rw [diagnostics_tally] at h
  obtain ⟨v, -, hissue⟩ := List.mem_filterMap.mp (List.mem_of_mem_take h)
  exact Verdict.isFatal_of_issue hissue

/-! ## 2. The ways to a profile -/

variable (task : Task)

/-- There is no text, or it is blank. -/
def IsEmpty : Prop := ∀ text, task.text = some text → Text.isAllBlank text = true

/-- The text is not blank, and there is a line that exempts paths where that is not to be passed over. -/
def IsClosed : Prop :=
  task.config.omitExemptions = false ∧ ∃ text, task.text = some text ∧ Text.isAllBlank text = false ∧
    ∃ line ∈ Text.splitLines text, (Text.trim line).head? = some (.char '!')

/-- The command that sets the variable to the pattern of a profile is too long. -/
def Overflows (p : Profile) : Prop :=
  ∃ pattern, p.pattern = some pattern ∧
    task.config.maxCommandLength < (Export.assignment task.config.shell pattern).length

variable {task} {p : Profile}

theorem isRead_eq_false_iff (huse : task.config.useIgnoreFile = true) :
    task.isRead = false ↔ task.IsEmpty := by
  rw [isRead, huse, Bool.true_and, Bool.not_eq_false', IsEmpty]
  cases htext : task.text with
  | none => exact iff_of_true rfl fun _ h => absurd h.symm (Option.some_ne_none _)
  | some text =>
    rw [Option.getD_some]
    refine ⟨fun h other hother => ?_, fun h => h text rfl⟩
    cases hother
    exact h

/-- A text that is read makes the file unusable by an exemption exactly if one of its rows does. -/
theorem isClosed_iff (hread : task.isRead = true) :
    task.IsClosed ↔ ∃ row ∈ task.rows, task.config.conflicts row.raw = true := by
  have hblank := (Bool.and_eq_true_iff.mp hread).2
  have hlines : task.rows.map (·.raw) = Row.patternLines (task.text.getD []) := by
    rw [rows, if_pos hread, Row.raw_patterns]
  cases htext : task.text with
  | none =>
    rw [htext] at hblank
    cases hblank
  | some text =>
    rw [htext, Option.getD_some] at hblank hlines
    constructor
    · rintro ⟨homit, other, hother, -, line, hline, hexempts⟩
      cases htext.symm.trans hother
      have hmem : line ∈ task.rows.map (·.raw) := by
        rw [hlines]
        exact List.mem_filter.mpr ⟨hline, Row.isPatternLine_of_exempting hexempts⟩
      obtain ⟨row, hrow, rfl⟩ := List.mem_map.mp hmem
      exact ⟨row, hrow, Config.conflicts_iff.mpr ⟨homit, hexempts⟩⟩
    · rintro ⟨row, hrow, hconflicts⟩
      obtain ⟨homit, hexempts⟩ := Config.conflicts_iff.mp hconflicts
      have hmem : row.raw ∈ Row.patternLines text := hlines ▸ List.mem_map_of_mem hrow
      exact ⟨homit, text, htext, Bool.not_eq_true' _ ▸ hblank, row.raw, (List.mem_filter.mp hmem).1,
        hexempts⟩

/-! ## 3. A file that is read to its end -/

/-- The built-in fragments are part of every pattern. -/
theorem tally_fragments_ne_nil (config : Config) (vs : List Verdict) :
    (tally config vs).fragments ≠ [] := by
  rw [fragments_tally, builtinFragments, List.map_cons, List.cons_append, List.eraseDups_cons]
  exact List.cons_ne_nil _ _

/-- The pattern that the lines of a file come to. -/
def patternOf (config : Config) (vs : List Verdict) : Text :=
  Fragment.merge config.shell config.forwardSlash (tally config vs).fragments

theorem patternOf_ne_nil (config : Config) (vs : List Verdict) : patternOf config vs ≠ [] := by
  intro hnil
  have hstart := merge_tally_startsSeparated config vs
  rw [← patternOf, hnil] at hstart
  exact Text.not_startsSeparated_nil hstart

/-- Whether the command that sets the variable to the pattern is not too long. -/
def fitsAll (config : Config) (vs : List Verdict) : Bool :=
  Export.fits config.shell config.maxCommandLength (patternOf config vs)

theorem fitsAll_iff {config : Config} {vs : List Verdict} :
    fitsAll config vs = true ↔
      (Export.assignment config.shell (patternOf config vs)).length ≤ config.maxCommandLength :=
  decide_eq_true_iff

/-- A file that is read to its end is valid exactly if the command is not too long. -/
theorem merged_valid (vs : List Verdict) : (task.merged vs).valid = fitsAll task.config vs := by
  have hfragments := tally_fragments_ne_nil task.config vs
  have hpattern := patternOf_ne_nil task.config vs
  show (!(tally task.config vs).fragments.isEmpty && !(patternOf task.config vs).isEmpty &&
    fitsAll task.config vs) = _
  rw [List.isEmpty_eq_false_iff.mpr hfragments, List.isEmpty_eq_false_iff.mpr hpattern]
  rfl

/-- What is told of a command that is too long. -/
def overflowDiagnostic (config : Config) (vs : List Verdict) : Diagnostic :=
  { kind := .commandLengthOverflow, line := 0, text := []
    message := overflowMessage config (patternOf config vs) }

theorem merged_closes (vs : List Verdict) :
    (task.merged vs).Closes (tally task.config vs).diagnostics
      (if fitsAll task.config vs then none else some (overflowDiagnostic task.config vs)) where
  diagnostics := by
    have hfragments := tally_fragments_ne_nil task.config vs
    have hpattern := patternOf_ne_nil task.config vs
    show _ ++ (if !(tally task.config vs).fragments.isEmpty && !(patternOf task.config vs).isEmpty &&
      !fitsAll task.config vs then [overflowDiagnostic task.config vs] else []) = _
    rw [List.isEmpty_eq_false_iff.mpr hfragments, List.isEmpty_eq_false_iff.mpr hpattern]
    cases fitsAll task.config vs <;> rfl
  quiet _ := isFatal_tally
  fatal d hd := by
    split at hd
    · cases hd
    · cases hd
      rfl

/-- A file that is given up at an exemption is told of by that. -/
theorem givenUp_closes (before : List Row) (row : Row) :
    (task.givenUp before row).Closes
      (tally task.config (before.map (Verdict.ofRow task.config) ++ [Verdict.ofRow task.config row])).diagnostics
      (some { kind := .exemptionConflict, line := row.number, text := row.line
              message := Verdict.conflictMessage task.place row }) where
  diagnostics := rfl
  quiet _ := isFatal_tally
  fatal d hd := by
    cases hd
    rfl

/-- A file without content is told of by that. -/
theorem unread_closes (task : Task) :
    Profile.Closes { task.blank with diagnostics := [task.emptyDiagnostic] } [] (some task.emptyDiagnostic) where
  diagnostics := rfl
  quiet _ hd := absurd hd List.not_mem_nil
  fatal d hd := by
    cases hd
    rfl

end Task

/-! ## 4. The lengths of commands -/

namespace Export

theorem length_le_flatMap_quoteCharPosix (pattern : Text) :
    pattern.length ≤ (pattern.flatMap quoteCharPosix).length := by
  induction pattern with
  | nil => exact Nat.le_refl _
  | cons c pattern ih =>
    have hone : 1 ≤ (quoteCharPosix c).length := by
      unfold quoteCharPosix
      split
      · exact Nat.le_add_left 1 3
      · exact Nat.le_refl 1
    rw [List.flatMap_cons, List.length_cons, List.length_append]
    omega

theorem length_variableName : variableName.length = 14 := by decide

/-- The command that sets the variable is longer than the pattern by the characters around it. -/
theorem length_le_assignment (shell : Shell) (pattern : Text) :
    pattern.length + (if shell.isCmd then 22 else 24) ≤ (assignment shell pattern).length := by
  unfold assignment
  split
  · have hset : (Text.ofString "@set \"").length = 6 := by decide
    simp only [List.length_append, List.length_cons, List.length_nil, hset, length_variableName]
    omega
  · have hexport : (Text.ofString "export ").length = 7 := by decide
    have hquoted := length_le_flatMap_quoteCharPosix pattern
    simp only [List.length_append, List.length_cons, List.length_nil, hexport, length_variableName]
    omega

theorem length_optionName : optionName.length = 4 := by decide

/-- The option with the pattern itself. -/
theorem length_literal_le (shell : Shell) (pattern : Text) :
    (optionName ++ .char ' ' :: doubleQuoted pattern).length ≤ (assignment shell pattern).length := by
  have hassignment := length_le_assignment shell pattern
  simp only [doubleQuoted, List.length_append, List.length_cons, List.length_nil, length_optionName]
  split at hassignment <;> omega

/-- The option with the variable has as many characters as the command needs for a pattern of one
character, or fewer. -/
theorem length_reference_le (shell : Shell) {pattern : Text} (hpattern : pattern ≠ []) :
    (optionName ++ .char ' ' :: reference shell).length ≤ (assignment shell pattern).length := by
  have hassignment := length_le_assignment shell pattern
  have hpos := List.length_pos_iff.mpr hpattern
  unfold reference
  split at hassignment
  · next hcmd =>
    rw [if_pos hcmd]
    simp only [List.length_append, List.length_cons, List.length_nil, length_optionName,
      length_variableName]
    omega
  · next hcmd =>
    rw [if_neg hcmd]
    simp only [List.length_append, List.length_cons, List.length_nil, length_optionName,
      length_variableName]
    omega

/-- Every option for a profile with a pattern. -/
theorem length_optionText_le {p : Profile} {pattern : Text} (h : p.pattern = some pattern) (hpattern : pattern ≠ [])
    (placement : Option Placement) (r : Record) (byReference : Bool) :
    (optionText p placement r byReference).length ≤ (assignment p.config.shell pattern).length := by
  have hliteral := length_literal_le p.config.shell pattern
  unfold optionText
  rw [h, Option.getD_some]
  split
  · exact Nat.zero_le _
  · split
    · exact length_reference_le p.config.shell hpattern
    · exact hliteral
  · exact hliteral

end Export

/-! ## 5. Validity -/

namespace Task

variable {task : Task} {p : Profile}

/-- How validity, the fatal diagnostic and the lengths of commands go together. -/
structure Judged (task : Task) (p : Profile) : Prop where
  /-- Nothing comes after a fatal diagnostic, so there is at most one. -/
  last : ∀ before d after, p.diagnostics = before ++ d :: after → d.kind.isFatal = true → after = []
  valid_iff : p.valid = true ↔ p.fatal? = none
  usable_iff : p.isUsable = true ↔ p.fatal? = none
  ioError_iff : p.fatal?.map (·.kind) = some .ioError ↔ task.IsEmpty
  conflict_iff : p.fatal?.map (·.kind) = some .exemptionConflict ↔ task.IsClosed
  overflow_iff : p.fatal?.map (·.kind) = some .commandLengthOverflow ↔
    ¬ task.IsEmpty ∧ ¬ task.IsClosed ∧ task.Overflows p
  /-- A valid profile has fragments and a pattern, and no text that is made for it is too long. -/
  fits : p.valid = true → p.fragments ≠ [] ∧ ∃ pattern, p.pattern = some pattern ∧ pattern ≠ [] ∧
    (Export.assignment p.config.shell pattern).length ≤ p.config.maxCommandLength ∧
    ∀ held, held.profile = p → ∀ byReference w option w',
      (Work.optionFor held byReference).on w = (.ok option, w') →
      option.length ≤ p.config.maxCommandLength

/-- All questions are answered from the fatal diagnostic. -/
theorem Judged.of_closes {quiet : List Diagnostic} {fatal : Option Diagnostic} (h : p.Closes quiet fatal)
    (hvalid : p.valid = fatal.isNone) (husable : p.isUsable = p.valid)
    (hempty : fatal.map (·.kind) = some .ioError ↔ task.IsEmpty)
    (hclosed : fatal.map (·.kind) = some .exemptionConflict ↔ task.IsClosed)
    (hoverflows : fatal.map (·.kind) = some .commandLengthOverflow ↔
      ¬ task.IsEmpty ∧ ¬ task.IsClosed ∧ task.Overflows p)
    (hfits : p.valid = true → p.fragments ≠ [] ∧ ∃ pattern, p.pattern = some pattern ∧ pattern ≠ [] ∧
      (Export.assignment p.config.shell pattern).length ≤ p.config.maxCommandLength) :
    task.Judged p where
  last _ _ _ := h.last
  valid_iff := by rw [h.fatal?, hvalid, Option.isNone_iff_eq_none]
  usable_iff := by rw [h.fatal?, husable, hvalid, Option.isNone_iff_eq_none]
  ioError_iff := h.fatal?.symm ▸ hempty
  conflict_iff := h.fatal?.symm ▸ hclosed
  overflow_iff := h.fatal?.symm ▸ hoverflows
  fits hp := by
    obtain ⟨hfragments, pattern, hpattern, hne, hlength⟩ := hfits hp
    refine ⟨hfragments, pattern, hpattern, hne, hlength, ?_⟩
    rintro held rfl byReference w option w' hoption
    rw [Work.on_optionFor] at hoption
    split at hoption
    · cases hoption
      have hoptionLength := Export.length_optionText_le hpattern hne
      exact Int.le_trans (Int.ofNat_le.mpr (hoptionLength _ _ _)) hlength
    · cases hoption

/-- A file that is not read. -/
theorem judged_unread (huse : task.config.useIgnoreFile = true) (hread : task.isRead = false) :
    task.Judged { task.blank with
      diagnostics := if task.config.useIgnoreFile then [task.emptyDiagnostic] else [] } := by
  have hempty := (isRead_eq_false_iff huse).mp hread
  have hclosed : ¬ task.IsClosed := by
    rintro ⟨-, text, htext, hblank, -⟩
    rw [hempty text htext] at hblank
    cases hblank
  rw [huse]
  refine .of_closes (unread_closes task) rfl rfl ?_ ?_ ?_ fun hvalid => ?_
  · exact iff_of_true rfl hempty
  · exact iff_of_false nofun hclosed
  · exact iff_of_false nofun fun h => h.1 hempty
  · cases hvalid

theorem not_isEmpty (hread : task.isRead = true) : ¬ task.IsEmpty := by
  intro hempty
  rw [(isRead_eq_false_iff (Bool.and_eq_true_iff.mp hread).1).mpr hempty] at hread
  cases hread

/-- A file that is given up at an exemption. -/
theorem judged_givenUp {before after : List Row} {row : Row} (hread : task.isRead = true)
    (hrows : task.rows = before ++ row :: after) (hconflicts : task.config.conflicts row.raw = true) :
    task.Judged (task.givenUp before row) := by
  have hempty := not_isEmpty hread
  have hmem : row ∈ task.rows := by
    rw [hrows]
    exact List.mem_append_cons_self
  have hclosed := (isClosed_iff hread).mpr ⟨row, hmem, hconflicts⟩
  refine .of_closes (givenUp_closes before row) rfl rfl ?_ ?_ ?_ fun hvalid => ?_
  · exact iff_of_false nofun hempty
  · exact iff_of_true rfl hclosed
  · exact iff_of_false nofun fun h => h.2.1 hclosed
  · cases hvalid

theorem isUsable_merged (vs : List Verdict) : (task.merged vs).isUsable = (task.merged vs).valid := by
  have hpattern : (task.merged vs).pattern = some (patternOf task.config vs) := merged_pattern task vs
  have hne := List.isEmpty_eq_false_iff.mpr (patternOf_ne_nil task.config vs)
  rw [Profile.isUsable, Profile.usable?, hpattern, Option.filter_some, hne]
  cases (task.merged vs).valid <;> rfl

/-- A file that is read to its end. -/
theorem judged_merged {vs : List Verdict} (hempty : ¬ task.IsEmpty) (hclosed : ¬ task.IsClosed) :
    task.Judged (task.merged vs) := by
  have hpattern : (task.merged vs).pattern = some (patternOf task.config vs) := merged_pattern task vs
  have hoverflows : task.Overflows (task.merged vs) ↔ fitsAll task.config vs = false := by
    rw [← Bool.not_eq_true, fitsAll_iff, Int.not_le]
    refine ⟨?_, fun h => ⟨_, hpattern, h⟩⟩
    rintro ⟨pattern, hsome, hlong⟩
    cases hpattern.symm.trans hsome
    exact hlong
  have hvalid : (task.merged vs).valid = fitsAll task.config vs := merged_valid vs
  refine .of_closes (merged_closes vs) ?_ (isUsable_merged vs) ?_ ?_ ?_ fun h => ?_
  · rw [hvalid]
    cases fitsAll task.config vs <;> rfl
  · refine iff_of_false (fun h => ?_) hempty
    split at h <;> cases h
  · refine iff_of_false (fun h => ?_) hclosed
    split at h <;> cases h
  · rw [hoverflows, and_iff_right hempty, and_iff_right hclosed]
    cases fitsAll task.config vs
    · exact iff_of_true rfl rfl
    · exact iff_of_false nofun nofun
  · rw [hvalid] at h
    exact ⟨tally_fragments_ne_nil task.config vs, _, hpattern, patternOf_ne_nil task.config vs,
      fitsAll_iff.mp h⟩

/-- **Validity, the fatal diagnostic and the ceiling agree.**  Whatever the text and the settings are, a file
that is to count and that has a profile has at most one fatal diagnostic, which comes last; it has none
exactly if it is valid, and exactly if it can be used; the kind of the diagnostic says which of the three
reasons there is; and no text that is made for a valid profile is longer than a command may be. -/
theorem judged (huse : task.config.useIgnoreFile = true) (hok : task.compile.outcome = .ok p) :
    task.Judged p := by
  cases ends_of_ok hok with
  | unread hread => exact judged_unread huse hread
  | givenUp hread hrows hgoes hconflicts => exact judged_givenUp hread hrows hconflicts
  | merged hread hgoes =>
    refine judged_merged (not_isEmpty hread) fun hclosed => ?_
    obtain ⟨row, hrow, hconflicts⟩ := (isClosed_iff hread).mp hclosed
    rw [conflicts_of_goes (hgoes row hrow)] at hconflicts
    cases hconflicts

/-- A file with a quote in its pattern, which takes 40 characters to set, and a ceiling for that. -/
def quoted (ceiling : Int) (h : 0 < ceiling) : Task where
  text := some (Text.ofString "it's/\n")
  config := { Config.standard with maxCommandLength := ceiling, maxCommandLength_pos := h }
  root := Path.ofString "/w/app"

/-- At the ceiling the profile is valid; one character below it is not. -/
theorem judged_at_ceiling :
    (∃ p, (quoted 40 (by decide)).compile.outcome = .ok p ∧ p.valid = true ∧ p.fatal? = none ∧
      p.pattern.map (fun pattern => (Export.assignment p.config.shell pattern).length) = some 40) ∧
    ∃ p, (quoted 39 (by decide)).compile.outcome = .ok p ∧ p.isUsable = false ∧
      (quoted 39 (by decide)).Overflows p := by
  constructor
  · have hcheck : ((quoted 40 (by decide)).compile.outcome.toOption.any fun p =>
        p.valid && (p.pattern.map fun pattern =>
          (Export.assignment p.config.shell pattern).length) == some 40) = true := by decide +kernel
    obtain ⟨p, hok, hcheck⟩ := exists_ok _ _ hcheck
    obtain ⟨hvalid, hlength⟩ := Bool.and_eq_true_iff.mp hcheck
    exact ⟨p, hok, hvalid, (judged rfl hok).valid_iff.mp hvalid, eq_of_beq hlength⟩
  · have hcheck : ((quoted 39 (by decide)).compile.outcome.toOption.any fun p =>
        p.fatal?.map (·.kind) == some .commandLengthOverflow) = true := by decide +kernel
    obtain ⟨p, hok, hcheck⟩ := exists_ok _ _ hcheck
    have hkind := eq_of_beq hcheck
    have hjudged := judged rfl hok
    refine ⟨p, hok, Bool.eq_false_iff.mpr fun husable => ?_, (hjudged.overflow_iff.mp hkind).2.2⟩
    rw [hjudged.usable_iff.mp husable] at hkind
    cases hkind

end Task

end SkipPath
