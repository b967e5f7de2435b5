import SkipPath.Proofs.Profile.Extent

/-!
Lines that are refused.

A fragment that is no regular expression is no reason to give up a file: its line is counted, told of and left
out, and the lines around it are read as if it were not there (`Task.Accounts`).  That holds of every
fragment but those that are refused in another way, on account of a number that is too large or of switches
that exclude each other.  The first of these to be reached leaves its file without a profile
(`compile_of_raises`), so that a file gets one, and one that accounts for what was refused, exactly if no line
that is reached raises (`accounts_iff`).
-/

namespace SkipPath

namespace Task

/-! ## 1. The lines that are reached -/

/-- Whether the lines of the file are read at all. -/
def isRead (task : Task) : Bool := task.config.useIgnoreFile && !Text.isAllBlank (task.text.getD [])

/-- The rows that are to get a verdict. -/
def rows (task : Task) : List Row := if task.isRead then Row.patterns (task.text.getD []) else []

/-- The rows before the first one that makes the file unusable because it exempts paths. -/
def reached (task : Task) : List Row := task.rows.takeWhile fun row => !task.config.conflicts row.raw

/-- The pattern lines before that row. -/
def reachedLines (task : Task) : List Text := task.reached.map (·.raw)

variable {task : Task}

theorem compile_of_isRead (h : task.isRead = true) :
    task.compile.outcome = task.conclude (Verdict.survey task.config [] task.rows) := by
  have hrows : task.rows = Row.patterns (task.text.getD []) := if_pos h
  obtain ⟨huse, hblank⟩ := Bool.and_eq_true_iff.mp h
  cases htext : task.text with
  | none =>
    rw [htext] at hblank
    cases hblank
  | some text =>
    rw [htext, Option.getD_some] at hblank hrows
    have hfilter : task.text.filter (fun text => !Text.isAllBlank text) = some text := by
      rw [htext, Option.filter_some, hblank]
      rfl
    rw [compile, huse, hfilter, hrows]
    rfl

/-- What is told of a file without content. -/
def emptyDiagnostic (task : Task) : Diagnostic :=
  { kind := .ioError, line := 0, text := [], message := emptyMessage task.place }

/-- Of a file that is not read, nothing is told but that it is empty. -/
theorem compile_of_not_isRead (h : task.isRead = false) :
    task.compile.outcome = .ok { task.blank with
      diagnostics := if task.config.useIgnoreFile then [task.emptyDiagnostic] else [] } := by
  cases huse : task.config.useIgnoreFile with
  | false =>
    rw [compile, huse]
    rfl
  | true =>
    have hblank : Text.isAllBlank (task.text.getD []) = true := by
      rw [isRead, huse, Bool.true_and, Bool.not_eq_eq_eq_not] at h
      exact h
    have hfilter : task.text.filter (fun text => !Text.isAllBlank text) = none := by
      cases htext : task.text with
      | none => rfl
      | some text =>
        rw [htext, Option.getD_some] at hblank
        rw [Option.filter_some, hblank]
        rfl
    rw [compile, huse, hfilter]
    rfl

/-- A row that ends the reading, and the rows before it. -/
theorem exists_stops_or_goes (config : Config) (rows : List Row) :
    (∀ row ∈ rows, (Verdict.ofRow config row).judgement.stops = false) ∨
    ∃ before row after, rows = before ++ row :: after ∧
      (∀ row ∈ before, (Verdict.ofRow config row).judgement.stops = false) ∧
      (Verdict.ofRow config row).judgement.stops = true := by
  cases hfind : rows.find? (fun row => (Verdict.ofRow config row).judgement.stops) with
  | none => exact .inl fun row hrow => Bool.eq_false_iff.mpr (List.find?_eq_none.mp hfind row hrow)
  | some row =>
    obtain ⟨hstops, before, after, hrows, hbefore⟩ := List.find?_eq_some_iff_append.mp hfind
    exact .inr ⟨before, row, after, hrows, fun row hrow => Bool.not_eq_eq_eq_not.mp (hbefore row hrow), hstops⟩

theorem conflicts_of_goes {config : Config} {row : Row}
    (h : (Verdict.ofRow config row).judgement.stops = false) : config.conflicts row.raw = false := by
  refine Bool.eq_false_iff.mpr fun hconflicts => ?_
  rw [Verdict.judgement_of_conflicts hconflicts] at h
  cases h

theorem reached_of_goes (h : ∀ row ∈ task.rows, (Verdict.ofRow task.config row).judgement.stops = false) :
    task.reached = task.rows := by
  refine List.takeWhile_eq_self_iff.mpr fun row hrow => ?_
  rw [conflicts_of_goes (h row hrow)]
  rfl

theorem reached_of_conflicts {before after : List Row} {row : Row}
    (hrows : task.rows = before ++ row :: after)
    (hgoes : ∀ row ∈ before, (Verdict.ofRow task.config row).judgement.stops = false)
    (hconflicts : task.config.conflicts row.raw = true) : task.reached = before := by
  rw [reached, hrows, List.takeWhile_append_of_pos, List.takeWhile_cons_of_neg, List.append_nil]
  · rw [hconflicts]
    exact Bool.false_ne_true
  · intro row hrow
    rw [conflicts_of_goes (hgoes row hrow)]
    rfl

/-- The rows before one that is reached are all reached, and so is that one unless it is an exemption. -/
theorem mem_reached {before after : List Row} {row : Row} (hrows : task.rows = before ++ row :: after)
    (hgoes : ∀ row ∈ before, (Verdict.ofRow task.config row).judgement.stops = false)
    (hconflicts : task.config.conflicts row.raw = false) : row ∈ task.reached := by
  rw [reached, hrows, List.takeWhile_append_of_pos, List.takeWhile_cons_of_pos]
  · exact List.mem_append_cons_self
  · rw [hconflicts]
    rfl
  · intro row hrow
    rw [conflicts_of_goes (hgoes row hrow)]
    rfl

/-! ## 2. What a profile tells of them -/

/-- What was noted of the lines that are reached. -/
def reachedIssues (task : Task) : List Diagnostic :=
  (task.reached.map (Verdict.ofRow task.config)).filterMap (·.issue?)

/-- A profile counts the lines that were refused, tells of them, and is made from the other ones. -/
structure Accounts (task : Task) (p : Profile) : Prop where
  errors : p.errors = task.reachedLines.countP task.config.isRefused
  parsed : p.parsed = task.reachedLines.countP task.config.isParsed
  /-- As many as may be are told of, and after them what makes the file unusable. -/
  diagnostics : ∃ fatal, p.diagnostics = task.reachedIssues.take Diagnostic.limit ++ fatal ∧
    ∀ d ∈ fatal, d.kind.isFatal = true
  refused : ∀ row ∈ task.reached, task.config.isRefused row.raw = true →
    ∃ d ∈ task.reachedIssues, d.kind = .regexCompileError ∧ d.line = row.number ∧ d.text = row.line
  /-- A file that is read to its end has the fragments of all lines that are regular expressions. -/
  fragments : p.fragments =
    if task.isRead && task.rows.all (fun row => !task.config.conflicts row.raw) then
      ((slashForms task.config task.reachedLines).map task.config.shellForm).eraseDups
    else []

/-- A line that is refused is told of, unless it raises. -/
theorem issue_of_refused {config : Config} {row : Row}
    (hgoes : (Verdict.ofRow config row).judgement.stops = false) (hrefused : config.isRefused row.raw = true) :
    ∃ d, (Verdict.ofRow config row).issue? = some d ∧
      d.kind = .regexCompileError ∧ d.line = row.number ∧ d.text = row.line := by
  have hexit := (Verdict.exit_ofRow config row).isRefused hgoes
  rw [hrefused] at hexit
  cases hjudgement : (Verdict.ofRow config row).judgement with
  | refused fragment refusal =>
    refine ⟨_, by rw [Verdict.issue?, hjudgement], rfl, rfl, rfl⟩
  | kept | dropped | passedOver | conflict | fatal =>
    rw [hjudgement] at hexit
    cases hexit

theorem reachedIssue_of_refused
    (hgoes : ∀ row ∈ task.reached, (Verdict.ofRow task.config row).judgement.stops = false) :
    ∀ row ∈ task.reached, task.config.isRefused row.raw = true →
      ∃ d ∈ task.reachedIssues, d.kind = .regexCompileError ∧ d.line = row.number ∧ d.text = row.line := by
  intro row hrow hrefused
  obtain ⟨d, hissue, htold⟩ := issue_of_refused (hgoes row hrow) hrefused
  exact ⟨d, List.mem_filterMap.mpr ⟨_, List.mem_map_of_mem hrow, hissue⟩, htold⟩

/-- A file that is read to its end. -/
theorem merged_accounts (hread : task.isRead = true)
    (hgoes : ∀ row ∈ task.rows, (Verdict.ofRow task.config row).judgement.stops = false) :
    task.Accounts (task.merged (task.rows.map (Verdict.ofRow task.config))) := by
  have hreached := reached_of_goes hgoes
  have hspecified := merged_specified hgoes
  rw [← hreached] at hspecified hgoes ⊢
  refine ⟨hspecified.errors, hspecified.parsed, ?_, reachedIssue_of_refused hgoes, ?_⟩
  · refine ⟨_, congrArg (· ++ _) (diagnostics_tally task.config _), fun d hd => ?_⟩
    split at hd
    · rw [List.mem_singleton.mp hd]
      rfl
    · cases hd
  · rw [hread, if_pos]
    · exact hspecified.fragments
    · rw [Bool.true_and, List.all_eq_true, ← hreached]
      intro row hrow
      rw [conflicts_of_goes (hgoes row hrow)]
      rfl

/-- A file that is given up at an exemption. -/
theorem compile_of_conflicts {before after : List Row} {row : Row} (hread : task.isRead = true)
    (hrows : task.rows = before ++ row :: after)
    (hgoes : ∀ row ∈ before, (Verdict.ofRow task.config row).judgement.stops = false)
    (hconflicts : task.config.conflicts row.raw = true) :
    ∃ p, task.compile.outcome = .ok p ∧ task.Accounts p := by
  have hconflict := Verdict.judgement_of_conflicts hconflicts
  have hstops := (Verdict.stops_ofRow task.config row).mpr (.inl hconflicts)
  have hreached := reached_of_conflicts hrows hgoes hconflicts
  have hcompile := compile_of_isRead hread
  rw [hrows, Verdict.survey_of_stops hgoes hstops, conclude_of_conflict hconflict, counted,
    tally_concat_of_conflict hconflict, ← hreached] at hcompile
  rw [← hreached] at hgoes
  refine ⟨_, hcompile, errors_ofRow hgoes, ?_, ?_, reachedIssue_of_refused hgoes, ?_⟩
  · exact (Nat.add_sub_add_right _ 1 _).trans (parsed_ofRow hgoes)
  · refine ⟨_, congrArg (· ++ _) (diagnostics_tally task.config _), fun d hd => ?_⟩
    rw [List.mem_singleton.mp hd]
    rfl
  · rw [if_neg]
    · rfl
    · rw [hread, Bool.true_and, List.all_eq_true]
      intro hnone
      have hrow := hnone row (by rw [hrows]; exact List.mem_append_cons_self)
      rw [hconflicts] at hrow
      cases hrow

/-- A file that is not read. -/
theorem compile_of_unread (hread : task.isRead = false) :
    ∃ p, task.compile.outcome = .ok p ∧ task.Accounts p := by
  have hcompile := compile_of_not_isRead hread
  have hfatal : ∀ d ∈ if task.config.useIgnoreFile then [task.emptyDiagnostic] else [],
      d.kind.isFatal = true := by
    intro d hd
    split at hd
    · rw [List.mem_singleton.mp hd]
      rfl
    · cases hd
  have hrows : task.rows = [] := if_neg (by rw [hread]; exact Bool.false_ne_true)
  have hreached : task.reached = [] := by
    rw [reached, hrows]
    rfl
  refine ⟨_, hcompile, ?_, ?_, ⟨_, ?_, hfatal⟩, ?_, ?_⟩
  · rw [reachedLines, hreached]
    rfl
  · rw [reachedLines, hreached]
    rfl
  · rw [reachedIssues, hreached]
    rfl
  · rw [hreached]
    exact fun _ hrow => absurd hrow List.not_mem_nil
  · rw [hread]
    rfl

/-! ## 3. Lines that raise -/

/-- A line that is reached and raises leaves its file without a profile. -/
theorem compile_of_raises {row : Row} (hrow : row ∈ task.reached)
    (hraises : task.config.raises row.raw = true) :
    ∃ refusal, task.compile.outcome = .error refusal ∧ refusal.problem.kind ≠ .malformed := by
  have hmem : row ∈ task.rows := (List.takeWhile_sublist _).subset hrow
  have hread : task.isRead = true := by
    by_contra hread
    rw [rows, if_neg hread] at hmem
    cases hmem
  rcases exists_stops_or_goes task.config task.rows with hgoes | ⟨before, first, after, hrows, hgoes, hstops⟩
  · have hgoesRow := hgoes row hmem
    rw [(Verdict.stops_ofRow task.config row).mpr (.inr hraises)] at hgoesRow
    cases hgoesRow
  · rcases Verdict.judgement_ofRow task.config first with ⟨hconflicts, -⟩ |
      ⟨refusal, -, hfatal, hkind⟩ | ⟨-, -, hfirst⟩
    · rw [reached_of_conflicts hrows hgoes hconflicts] at hrow
      have hgoesRow := hgoes row hrow
      rw [(Verdict.stops_ofRow task.config row).mpr (.inr hraises)] at hgoesRow
      cases hgoesRow
    · refine ⟨refusal, ?_, hkind⟩
      rw [compile_of_isRead hread, hrows, Verdict.survey_of_stops hgoes hstops]
      exact conclude_of_fatal List.getLast?_concat hfatal
    · rw [hstops] at hfirst
      cases hfirst

/-- If no line that is reached raises, a file has a profile that accounts for the lines that were refused. -/
theorem compile_of_reached (h : ∀ row ∈ task.reached, task.config.raises row.raw = false) :
    ∃ p, task.compile.outcome = .ok p ∧ task.Accounts p := by
  cases hread : task.isRead with
  | false => exact compile_of_unread hread
  | true =>
    rcases exists_stops_or_goes task.config task.rows with hgoes |
      ⟨before, row, after, hrows, hgoes, hstops⟩
    · refine ⟨_, ?_, merged_accounts hread hgoes⟩
      rw [compile_of_isRead hread, Verdict.survey_of_goes hgoes]
      refine conclude_of_goes fun v hv => ?_
      obtain ⟨row, hrow, rfl⟩ := List.mem_map.mp hv
      exact hgoes row hrow
    · cases hconflicts : task.config.conflicts row.raw with
      | true => exact compile_of_conflicts hread hrows hgoes hconflicts
      | false =>
        have hraises := h row (mem_reached hrows hgoes hconflicts)
        rcases (Verdict.stops_ofRow task.config row).mp hstops with he | he
        · rw [hconflicts] at he
          cases he
        · rw [hraises] at he
          cases he

/-- A file has a profile, and one that accounts for the lines that were refused, exactly if no line that is
reached raises. -/
theorem accounts_iff (task : Task) :
    (∃ p, task.compile.outcome = .ok p ∧ task.Accounts p) ↔
      ∀ row ∈ task.reached, task.config.raises row.raw = false := by
  refine ⟨fun ⟨p, hp, _⟩ row hrow => Bool.eq_false_iff.mpr fun hraises => ?_, compile_of_reached⟩
  obtain ⟨refusal, herror, -⟩ := compile_of_raises hrow hraises
  rw [hp] at herror
  cases herror

/-- A file whose one line stands for a character beyond all numbers that are counted. -/
def beyond : Task where
  text := some (Text.ofString "[\\U80000000]")
  config := Config.standard
  root := Path.ofString "/w/app"

theorem beyond_raises : ¬ ∃ p, beyond.compile.outcome = .ok p := by
  rintro ⟨p, hp⟩
  have hok : beyond.compile.outcome.isOk = false := by decide +kernel
  rw [hp] at hok
  cases hok

end Task

end SkipPath
