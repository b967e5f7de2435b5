import SkipPath.Proofs.Fragment.Separators
import SkipPath.Proofs.Profile.Refusal
import Mathlib.Data.Set.List

/-!
Usable profiles.

A profile is usable only if it has a pattern, and it has one only if its file was read to its end, so it is what a
file with these pattern lines is to be compiled to (`compile_of_pattern`).  Each fragment of it is a fragment of a
line or one that every pattern has, in the form of the shell, and it is an expression of its own.  Before the
separators of the shell are written it is a row of parts (`isFragment_of_mem_slashForms`), and it still is one
afterwards unless there was a backslash before a slash (`branches_of_usable`).
-/

namespace SkipPath

open Regex

/-! ## 1. Files that are read to their end -/

namespace Task

variable {task : Task} {p : Profile}

/-- The profile of a file that is given up at a row because it exempts paths. -/
def givenUp (task : Task) (before : List Row) (row : Row) : Profile :=
  let verdicts := before.map (Verdict.ofRow task.config) ++ [Verdict.ofRow task.config row]
  { task.counted verdicts with
    diagnostics := (task.counted verdicts).diagnostics ++
      [{ kind := .exemptionConflict, line := row.number, text := row.line
         message := Verdict.conflictMessage task.place row }] }

/-- The ways in which a file comes to its profile. -/
inductive Ends (task : Task) : Profile → Prop where
  /-- It is not read. -/
  | unread (hread : task.isRead = false) : Ends task { task.blank with
      diagnostics := if task.config.useIgnoreFile then [task.emptyDiagnostic] else [] }
  /-- It is given up at the first row that exempts paths. -/
  | givenUp {before after : List Row} {row : Row} (hread : task.isRead = true)
    (hrows : task.rows = before ++ row :: after)
    (hgoes : ∀ row ∈ before, (Verdict.ofRow task.config row).judgement.stops = false)
    (hconflicts : task.config.conflicts row.raw = true) : Ends task (task.givenUp before row)
  /-- It is read to its end. -/
  | merged (hread : task.isRead = true)
    (hgoes : ∀ row ∈ task.rows, (Verdict.ofRow task.config row).judgement.stops = false) :
    Ends task (task.merged (task.rows.map (Verdict.ofRow task.config)))

/-- A file that has a profile came to it in one of these ways. -/
theorem ends_of_ok (hok : task.compile.outcome = .ok p) : task.Ends p := by
  cases hread : task.isRead with
  | false =>
    rw [compile_of_not_isRead hread] at hok
    cases hok
    exact .unread hread
  | true =>
    rw [compile_of_isRead hread] at hok
    rcases exists_stops_or_goes task.config task.rows with hgoes | ⟨before, row, after, hrows, hgoes, hstops⟩
    · have hconclude : task.conclude (task.rows.map (Verdict.ofRow task.config)) =
          .ok (task.merged (task.rows.map (Verdict.ofRow task.config))) := by
        refine conclude_of_goes fun v hv => ?_
        obtain ⟨row, hrow, rfl⟩ := List.mem_map.mp hv
        exact hgoes row hrow
      rw [Verdict.survey_of_goes hgoes, hconclude] at hok
      cases hok
      exact .merged hread hgoes
    · -- the last verdict is an exemption that makes the file unusable, or there is no profile
      rw [hrows, Verdict.survey_of_stops hgoes hstops] at hok
      rcases Verdict.judgement_ofRow task.config row with ⟨hconflicts, hconflict⟩ |
        ⟨refusal, -, hfatal, -⟩ | ⟨-, -, hrow⟩
      · rw [conclude_of_conflict hconflict] at hok
        cases hok
        exact .givenUp hread hrows hgoes hconflicts
      · rw [conclude_of_fatal List.getLast?_concat hfatal] at hok
        cases hok
      · rw [hstops] at hrow
        cases hrow

/-- A file that is not read to its end has no pattern. -/
theorem merged_of_pattern {pattern : Text} (hok : task.compile.outcome = .ok p)
    (hpattern : p.pattern = some pattern) :
    task.isRead = true ∧ (∀ row ∈ task.rows, (Verdict.ofRow task.config row).judgement.stops = false) ∧
      p = task.merged (task.rows.map (Verdict.ofRow task.config)) := by
  cases ends_of_ok hok with
  | unread hread => cases hpattern
  | givenUp hread hrows hgoes hconflicts => cases hpattern
  | merged hread hgoes => exact ⟨hread, hgoes, rfl⟩

/-- A profile with a pattern is what was specified for the pattern lines of its file. -/
theorem compile_of_pattern {pattern : Text} (hok : task.compile.outcome = .ok p)
    (hpattern : p.pattern = some pattern) :
    Specified task.config (Row.patternLines (task.text.getD [])) p := by
  obtain ⟨hread, hgoes, rfl⟩ := merged_of_pattern hok hpattern
  have hspecified := merged_specified hgoes
  rwa [show task.rows.map (·.raw) = Row.patternLines (task.text.getD []) by
    rw [rows, if_pos hread, Row.raw_patterns]] at hspecified

/-- There always are fragments: those that every pattern has. -/
theorem Specified.fragments_ne_nil {config : Config} {lines : List Text} (h : Specified config lines p) :
    p.fragments ≠ [] := by
  rw [h.fragments, slashForms, builtinFragments, List.cons_append, List.map_cons, List.eraseDups_cons]
  exact List.cons_ne_nil _ _

/-- A usable profile has a pattern. -/
theorem exists_pattern (husable : p.isUsable = true) : ∃ pattern, p.pattern = some pattern := by
  obtain ⟨pattern, hpattern⟩ := Option.isSome_iff_exists.mp husable
  unfold Profile.usable? at hpattern
  split at hpattern
  · exact ⟨pattern, (Option.filter_eq_some_iff.mp hpattern).1⟩
  · cases hpattern

theorem merged_of_usable (hok : task.compile.outcome = .ok p) (husable : p.isUsable = true) :
    task.isRead = true ∧ (∀ row ∈ task.rows, (Verdict.ofRow task.config row).judgement.stops = false) ∧
      p = task.merged (task.rows.map (Verdict.ofRow task.config)) :=
  merged_of_pattern hok (exists_pattern husable).choose_spec

theorem compile_of_usable (hok : task.compile.outcome = .ok p) (husable : p.isUsable = true) :
    Specified task.config (Row.patternLines (task.text.getD [])) p :=
  compile_of_pattern hok (exists_pattern husable).choose_spec

/-! ## 2. Fragments -/

theorem builtinFragments_eq (config : Config) :
    builtinFragments config =
      if config.skipDotFolders then [Text.ofString "/[\\$\\.]"]
      else [Text.ofString "/\\$", Text.ofString "\\.git/"] := by
  have hrepository : (Glob.translate repositoryLine false).fragment? = some (Text.ofString "\\.git/") := by
    decide +kernel
  unfold builtinFragments addedLines
  cases config.skipDotFolders with
  | true => rfl
  | false => simp [dotFolderFragment, hrepository]

/-- A fragment that every pattern has is an expression in the form of every shell. -/
theorem compiles_of_mem_builtinFragments {config : Config} {fragment : Text}
    (h : fragment ∈ builtinFragments config) : config.compiles fragment = true := by
  have hforms : ∀ t ∈ [Text.ofString "/[\\$\\.]", Text.ofString "/\\$", Text.ofString "\\.git/"],
      ∀ shell forwardSlash, (parse (Fragment.forShell shell forwardSlash t)).isOk = true := by
    intro t ht shell forwardSlash
    simp only [List.mem_cons, List.not_mem_nil, or_false] at ht
    rcases ht with rfl | rfl | rfl <;> cases shell <;> cases forwardSlash <;> decide +kernel
  have hmem : fragment ∈ [Text.ofString "/[\\$\\.]", Text.ofString "/\\$", Text.ofString "\\.git/"] := by
    rw [builtinFragments_eq] at h
    split at h
    · exact List.mem_cons.mpr (.inl (List.mem_singleton.mp h))
    · exact List.mem_cons_of_mem _ h
  exact hforms fragment hmem config.shell config.forwardSlash

theorem compiles_of_mem_slashForms {config : Config} {lines : List Text} {fragment : Text}
    (h : fragment ∈ slashForms config lines) : config.compiles fragment = true := by
  rcases List.mem_append.mp h with hbuiltin | hline
  · exact compiles_of_mem_builtinFragments hbuiltin
  · exact (List.mem_filter.mp hline).2

/-- The fragments of a pattern are rows of parts. -/
theorem isFragment_of_mem_slashForms {config : Config} {lines : List Text} {fragment : Text}
    (h : fragment ∈ slashForms config lines) : Fragment.IsFragment fragment := by
  have htranslated : ∀ {line : Text} {skipDotFolders : Bool},
      (Glob.translate line skipDotFolders).fragment? = some fragment → Fragment.IsFragment fragment := by
    intro line skipDotFolders hfragment
    unfold Glob.Settled.fragment? at hfragment
    split at hfragment
    · next kept hkept =>
      cases hfragment
      exact Fragment.isFragment_of_kept hkept
    · cases hfragment
  have hslash : (Fragment.Part.char (.plain (.char '/'))).IsProper := (by decide : .char '/' ∉ .char '\\' :: operators)
  rcases List.mem_append.mp h with hbuiltin | hline
  · rcases List.mem_cons.mp hbuiltin with rfl | hadded
    · cases config.skipDotFolders with
      | true =>
        refine ⟨[.char (.plain '/'), .oneOf false [.escape '$', .escape '.'] .once], false, ?_, rfl⟩
        refine List.forall_mem_cons.mpr ⟨hslash, List.forall_mem_singleton.mpr ⟨?_, ?_⟩⟩
        · exact ⟨by decide, by decide, by decide⟩
        · simp [Token.IsProper]
      | false =>
        refine ⟨[.char (.plain '/'), .char (.escape '$')], false, ?_, rfl⟩
        exact List.forall_mem_cons.mpr ⟨hslash, List.forall_mem_singleton.mpr ⟨rfl, rfl⟩⟩
    · obtain ⟨settled, hsettled, hfragment⟩ := List.mem_filterMap.mp hadded
      unfold addedLines at hsettled
      split at hsettled
      · cases hsettled
      · rw [List.mem_singleton.mp hsettled] at hfragment
        exact htranslated hfragment
  · obtain ⟨line, -, hfragment⟩ := List.mem_filterMap.mp (List.mem_of_mem_filter hline)
    exact htranslated hfragment

end Task

/-! ## 3. Branches -/

/-- Writing the separators of the shell breaks no escape of a fragment: there is nothing to write, or no
backslash stands before a slash. -/
def Config.KeepsEscapes (config : Config) (fragment : Text) : Prop :=
  config.shell.separator config.forwardSlash = [.char '/'] ∨ Fragment.EscapesNoSlash fragment

instance (config : Config) (fragment : Text) : Decidable (config.KeepsEscapes fragment) :=
  inferInstanceAs (Decidable (config.shell.separator config.forwardSlash = [.char '/'] ∨
    Fragment.EscapesNoSlash fragment))

namespace Task

variable {task : Task} {p : Profile}

/-- The fragments of a usable profile are branches of an alternation where no escape is broken. -/
theorem branches_of_usable (hok : task.compile.outcome = .ok p) (husable : p.isUsable = true)
    (hkeeps : ∀ fragment ∈ slashForms task.config (Row.patternLines (task.text.getD [])),
      task.config.KeepsEscapes fragment) :
    ∃ rows : List Branch, rows ≠ [] ∧ p.fragments = rows.map (·.text) := by
  have hfragments := (compile_of_usable hok husable).fragments
  have hbranch : ∀ fragment ∈ p.fragments, ∃ b : Branch, b.text = fragment := by
    intro fragment hmem
    rw [hfragments] at hmem
    obtain ⟨form, hform, rfl⟩ := List.mem_map.mp (List.mem_eraseDups.mp hmem)
    have hfragment := (isFragment_of_mem_slashForms hform).forShell (hkeeps form hform)
    exact hfragment.branch (compiles_of_mem_slashForms hform)
  have hrange : p.fragments ∈ Set.range (List.map Branch.text) := by
    rw [Set.range_list_map]
    exact hbranch
  obtain ⟨rows, hrows⟩ := hrange
  refine ⟨rows, ?_, hrows.symm⟩
  rintro rfl
  exact (compile_of_usable hok husable).fragments_ne_nil hrows.symm

end Task

end SkipPath
