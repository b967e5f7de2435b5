import SkipPath.Proofs.Glob.Outcome
import SkipPath.Proofs.Profile.Validity
import SkipPath.Proofs.Results

/-!
The issues of a file, and how many of them a profile tells of.

Whether a line has an issue rests on that line alone (`Config.issue?`).  The issues of a file are those of its
pattern lines in order, up to the first one that makes the file unusable because it exempts paths
(`Task.issues`).  A profile tells of the first of them and then of what makes the file unusable, so that there may be
more than it tells of; its counts leave none out.  That is put together from the ways in which a file comes
to its profile (`Task.listed`).

What the counts are is carried by the tally: with each line, no more exemptions and errors are counted than
lines dropped, and no more of these than lines (`Tally.balanced_step`).
-/

namespace SkipPath

/-! ## 1. Counts -/

namespace Tally

/-- Exemptions and errors are dropped, and only lines are. -/
structure Balanced (t : Tally) : Prop where
  counted : t.exemptions + t.errors ≤ t.dropped
  dropped : t.dropped ≤ t.total

/-- One more line keeps the balance, whatever the verdict is. -/
theorem balanced_step {t : Tally} (h : t.Balanced) (v : Verdict) : (t.step v).Balanced := by
  obtain ⟨hcounted, hdropped⟩ := h
  unfold step
  cases v.judgement with
  | kept | fatal => exact ⟨hcounted, Nat.le_succ_of_le hdropped⟩
  | dropped => exact ⟨Nat.le_succ_of_le hcounted, Nat.succ_le_succ hdropped⟩
  | passedOver | conflict | refused =>
    refine ⟨?_, Nat.succ_le_succ hdropped⟩
    simp only [drop, note]
    omega

theorem balanced_foldl_step {t : Tally} (h : t.Balanced) (vs : List Verdict) : (vs.foldl step t).Balanced := by
  induction vs generalizing t with
  | nil => exact h
  | cons v vs ih => exact ih (balanced_step h v)

end Tally

theorem Task.balanced_tally (config : Config) (vs : List Verdict) : (tally config vs).Balanced := by
  refine Tally.balanced_foldl_step ?_ vs
  rw [opening, Tally.foldl_keep]
  exact ⟨Nat.le_refl _, Nat.le_refl _⟩

/-! ## 2. Issues -/

/-- The lines that translating drops as blank or as comments are those that get no verdict. -/
theorem Glob.outcome_eq_comment_iff {line : Text} {skipDotFolders : Bool} :
    (Glob.translate line skipDotFolders).outcome = .dropped .comment ↔ Row.isPatternLine line = false := by
  have hcomment : ((stripLine line).isEmpty || decide ((stripLine line).head? = some (.char '#'))) =
      !Row.isPatternLine line := by
    have hempty : ∀ t : Text, t.isEmpty = t.head?.isNone := fun t => by cases t <;> rfl
    rw [Row.isPatternLine, hempty, hempty, head?_stripLine]
    cases (Text.trim line).head? with
    | none => rfl
    | some c => by_cases hc : c = '#' <;> simp [hc]
  rw [outcome_eq, hcomment]
  cases Row.isPatternLine line with
  | false => exact iff_of_true rfl rfl
  | true =>
    refine iff_of_false (fun h => ?_) (by decide)
    rw [if_neg (by decide), ofWritten] at h
    repeat (split at h; · cases h)
    cases h

/-- The issue of a pattern line, if it has one: its fragment is no regular expression, or it is left out for a reason
that is worth telling. -/
def Config.issue? (config : Config) (row : Row) : Option Diagnostic :=
  match (Glob.translate row.raw config.skipDotFolders).outcome with
  | .kept fragment =>
    match Regex.parse (config.shellForm fragment) with
    | .ok _ => none
    | .error refusal =>
      some { kind := .regexCompileError, line := row.number, text := row.line
             message := Verdict.refusedMessage "Invalid regex '" (config.shellForm fragment) row.line refusal }
  | .dropped .exemption | .dropped .redundantDot => none
  | .dropped reason =>
    some { kind := .degenerateLine, line := row.number, text := row.line
           message := Text.ofString "Dropped " ++ reason.name ++ Text.ofString " line: " ++ row.line }

namespace Task

variable (task : Task)

/-- The pattern lines of a file up to the first one that makes it unusable because it exempts paths. -/
def openRows : List Row :=
  (Row.patterns (task.text.getD [])).takeWhile fun row => !task.config.conflicts row.raw

/-- The issues of a file, in the order of its lines. -/
def issues : List Diagnostic := task.openRows.filterMap task.config.issue?

end Task

namespace Config

variable {config : Config} {row : Row} {d : Diagnostic}

theorem line_of_issue (h : config.issue? row = some d) : d.line = row.number := by
  unfold issue? at h
  split at h
  · split at h
    · cases h
    · cases h
      rfl
  · cases h
  · cases h
  · cases h
    rfl

/-- A pattern line that is left out, and told of, is too short. -/
theorem tooShort_of_issue (hpattern : row.isPattern = true) (h : config.issue? row = some d)
    (hkind : d.kind = .degenerateLine) :
    (Glob.translate row.raw config.skipDotFolders).outcome = .dropped .tooShort := by
  have hcomment : (Glob.translate row.raw config.skipDotFolders).outcome ≠ .dropped .comment :=
    mt Glob.outcome_eq_comment_iff.mp (Bool.not_eq_false _ ▸ hpattern)
  unfold issue? at h
  split at h
  · split at h
    · cases h
    · cases h
      cases hkind
  · cases h
  · cases h
  · next reason hexemption hredundant houtcome =>
    cases reason with
    | comment => exact absurd houtcome hcomment
    | exemption => exact absurd rfl hexemption
    | redundantDot => exact absurd rfl hredundant
    | tooShort => exact houtcome

/-- The issue of a line whose fragment is refused is that, and no other line has such an issue. -/
theorem isRefused_eq (config : Config) (row : Row) :
    config.isRefused row.raw =
      ((config.issue? row).map fun d => decide (d.kind = .regexCompileError)).getD false := by
  rw [isRefused, translated, Glob.Settled.fragment?, issue?]
  cases (Glob.translate row.raw config.skipDotFolders).outcome with
  | dropped reason => cases reason <;> rfl
  | kept fragment =>
    rw [Option.any_some, compiles]
    cases hparse : Regex.parse (config.shellForm fragment) <;> simp only [hparse] <;> rfl

end Config

/-- A row that does not end the reading is noted for the issue of its line. -/
theorem Verdict.issue?_ofRow {config : Config} {row : Row} (hgoes : (ofRow config row).judgement.stops = false) :
    (ofRow config row).issue? = config.issue? row := by
  have hjudgement : (ofRow config row).judgement =
      .ofOutcome config (Glob.translate row.raw config.skipDotFolders).outcome := rfl
  unfold Verdict.issue? Config.issue?
  rw [hjudgement] at hgoes ⊢
  cases houtcome : (Glob.translate row.raw config.skipDotFolders).outcome with
  | dropped reason =>
    cases reason with
    | exemption =>
      rw [Judgement.ofOutcome]
      cases config.omitExemptions <;> rfl
    | comment | redundantDot | tooShort => rfl
  | kept fragment =>
    rw [houtcome, Judgement.ofOutcome_kept] at hgoes
    rw [Judgement.ofOutcome_kept]
    cases hparse : Regex.parse (config.shellForm fragment) with
    | ok e => simp only [hparse]
    | error refusal =>
      simp only [hparse] at hgoes ⊢
      cases hkind : refusal.problem.kind with
      | malformed => rfl
      | overflow | contradiction =>
        simp only [hkind] at hgoes
        cases hgoes

/-! ## 3. The order of issues -/

namespace Row

theorem number_numberFrom (number : Nat) (lines : List Text) :
    (numberFrom number [] lines).map (·.number) = List.range' number lines.length := by
  induction lines generalizing number with
  | nil => rfl
  | cons raw lines ih => rw [numberFrom_cons, List.map_cons, ih, List.length_cons, List.range'_succ]

/-- The rows of a file are numbered in order. -/
theorem pairwise_patterns (text : Text) : (patterns text).Pairwise (·.number < ·.number) := by
  have hnumbers : ((ofText text).map (·.number)).Pairwise (· < ·) := by
    rw [ofText, number_numberFrom]
    exact List.pairwise_lt_range'
  exact (List.pairwise_map.mp hnumbers).filter _

end Row

namespace Task

variable {task : Task} {p : Profile}

theorem mem_patterns_of_mem_openRows {row : Row} (h : row ∈ task.openRows) :
    row ∈ Row.patterns (task.text.getD []) :=
  (List.takeWhile_sublist _).subset h

/-- The issues stand in the order of their lines, of which each has one at most. -/
theorem pairwise_issues (task : Task) : task.issues.Pairwise (·.line < ·.line) := by
  have hrows : task.openRows.Pairwise (·.number < ·.number) :=
    (Row.pairwise_patterns _).sublist (List.takeWhile_sublist _)
  refine List.pairwise_filterMap.mpr (hrows.imp fun hlt d hd d' hd' => ?_)
  rw [Config.line_of_issue hd, Config.line_of_issue hd']
  exact hlt

/-! ## 4. What a profile tells of the issues -/

/-- A profile tells of the first issues and of what makes the file unusable, and counts what it tells of and what it
does not. -/
structure Listed (task : Task) (p : Profile) : Prop where
  diagnostics : p.diagnostics = task.issues.take Diagnostic.limit ++ p.fatal?.toList
  atMost : p.diagnostics.length ≤ Diagnostic.limit + 1
  ordered : task.issues.Pairwise (·.line < ·.line)
  tooShort : ∀ row ∈ task.openRows, ∀ d, task.config.issue? row = some d → d.kind = .degenerateLine →
    (Glob.translate row.raw task.config.skipDotFolders).outcome = .dropped .tooShort
  errors : p.errors = task.issues.countP (·.kind = .regexCompileError)
  dropped : (p.exemptions + p.errors : Int) ≤ p.total - p.parsed
  total : (p.total - p.parsed : Int) ≤ p.total

/-- It does so if it has the diagnostics and the errors of the issues, and its counts are balanced. -/
theorem Listed.of_closes {quiet : List Diagnostic} {fatal : Option Diagnostic} (h : p.Closes quiet fatal)
    (hquiet : quiet = task.issues.take Diagnostic.limit)
    (herrors : p.errors = task.issues.countP (·.kind = .regexCompileError)) {dropped : Nat}
    (hcounted : p.exemptions + p.errors ≤ dropped) (hdropped : dropped ≤ p.total)
    (hparsed : p.parsed = p.total - dropped) : task.Listed p where
  diagnostics := by rw [h.fatal?, ← hquiet, h.diagnostics]
  atMost := by
    have hone := fatal.length_toList_le
    rw [h.diagnostics, List.length_append, hquiet, List.length_take]
    omega
  ordered := pairwise_issues task
  tooShort row hrow d := Config.tooShort_of_issue (List.mem_filter.mp (mem_patterns_of_mem_openRows hrow)).2
  errors := herrors
  dropped := by omega
  total := by omega

/-- The lines whose fragment is refused are those with such an issue. -/
theorem countP_isRefused (config : Config) (rows : List Row) :
    (rows.map (·.raw)).countP config.isRefused =
      (rows.filterMap config.issue?).countP (·.kind = .regexCompileError) := by
  rw [List.countP_map, List.countP_filterMap]
  exact List.countP_congr fun row _ => iff_of_eq (congrArg (· = true) (Config.isRefused_eq config row))

/-- What is noted of rows that do not end the reading are the first of their issues. -/
theorem diagnostics_ofRow {config : Config} {rows : List Row}
    (hgoes : ∀ row ∈ rows, (Verdict.ofRow config row).judgement.stops = false) :
    (tally config (rows.map (Verdict.ofRow config))).diagnostics =
      (rows.filterMap config.issue?).take Diagnostic.limit := by
  rw [diagnostics_tally, List.filterMap_map]
  exact congrArg (List.take _) (List.filterMap_congr fun row hrow => Verdict.issue?_ofRow (hgoes row hrow))

theorem openRows_of_isRead (hread : task.isRead = true) : task.openRows = task.reached := by
  rw [openRows, reached, rows, if_pos hread]

/-- A file that is read to its end. -/
theorem listed_merged (hread : task.isRead = true)
    (hgoes : ∀ row ∈ task.rows, (Verdict.ofRow task.config row).judgement.stops = false) :
    task.Listed (task.merged (task.rows.map (Verdict.ofRow task.config))) := by
  have hrows : task.openRows = task.rows := (openRows_of_isRead hread).trans (reached_of_goes hgoes)
  obtain ⟨hcounted, hdropped⟩ := balanced_tally task.config (task.rows.map (Verdict.ofRow task.config))
  refine .of_closes (merged_closes _) ?_ ?_ hcounted hdropped rfl
  · rw [diagnostics_ofRow hgoes, issues, hrows]
  · rw [issues, hrows, ← countP_isRefused]
    exact errors_ofRow hgoes

/-- A file that is given up at an exemption. -/
theorem listed_givenUp {before after : List Row} {row : Row} (hread : task.isRead = true)
    (hrows : task.rows = before ++ row :: after)
    (hgoes : ∀ row ∈ before, (Verdict.ofRow task.config row).judgement.stops = false)
    (hconflicts : task.config.conflicts row.raw = true) : task.Listed (task.givenUp before row) := by
  have hopen : task.openRows = before :=
    (openRows_of_isRead hread).trans (reached_of_conflicts hrows hgoes hconflicts)
  have htally := @tally_concat_of_conflict task.config (before.map (Verdict.ofRow task.config)) _
    (Verdict.judgement_of_conflicts hconflicts)
  obtain ⟨hcounted, hdropped⟩ := balanced_tally task.config
    (before.map (Verdict.ofRow task.config) ++ [Verdict.ofRow task.config row])
  refine .of_closes (givenUp_closes before row) ?_ ?_ hcounted hdropped rfl
  · rw [issues, hopen, ← diagnostics_ofRow hgoes]
    exact (congrArg Tally.diagnostics htally).trans rfl
  · rw [issues, hopen, ← countP_isRefused, ← errors_ofRow hgoes]
    exact (congrArg Tally.errors htally).trans rfl

/-- A file without content has no pattern lines, and so no issues. -/
theorem issues_of_not_isRead (huse : task.config.useIgnoreFile = true) (hread : task.isRead = false) :
    task.issues = [] := by
  have hblank : Text.isAllBlank (task.text.getD []) = true := by
    rw [isRead, huse, Bool.true_and, Bool.not_eq_false'] at hread
    exact hread
  have hnone := (Row.raw_patterns _).trans (Row.patternLines_of_isAllBlank hblank)
  rw [issues, openRows, List.map_eq_nil_iff.mp hnone]
  rfl

/-- A file without content. -/
theorem listed_unread (huse : task.config.useIgnoreFile = true) (hread : task.isRead = false) :
    task.Listed { task.blank with
      diagnostics := if task.config.useIgnoreFile then [task.emptyDiagnostic] else [] } := by
  have hissues := issues_of_not_isRead huse hread
  rw [huse]
  refine .of_closes (unread_closes task) ?_ ?_ (Nat.le_refl 0) (Nat.le_refl 0) rfl
  · rw [hissues]
    rfl
  · rw [hissues]
    rfl

/-- **Diagnostics are the first issues in order, and the counts are exact.**  Of a file that is to count and that has
a profile, the profile tells of the first issues and then of what makes it unusable; the issues stand in the order
of their lines, the lines that are told of because they were left out are all too short, every fragment that is
refused is counted, and no more exemptions and errors than lines without a fragment.  Of a file that is not to
count there is nothing to tell.  Translating takes for comments what is no pattern line. -/
theorem listed (hok : task.compile.outcome = .ok p) :
    (task.config.useIgnoreFile = true → task.Listed p) ∧
    (task.config.useIgnoreFile = false → p = task.blank) ∧
    ∀ line skipDotFolders,
      (Glob.translate line skipDotFolders).outcome = .dropped .comment ↔ Row.isPatternLine line = false := by
  refine ⟨fun huse => ?_, fun huse => ?_, fun _ _ => Glob.outcome_eq_comment_iff⟩
  · cases ends_of_ok hok with
    | unread hread => exact listed_unread huse hread
    | givenUp hread hrows hgoes hconflicts => exact listed_givenUp hread hrows hgoes hconflicts
    | merged hread hgoes => exact listed_merged hread hgoes
  · rw [compile_of_not_isRead (by rw [isRead, huse, Bool.false_and]), huse] at hok
    exact (Except.ok.inj hok).symm

/-- A file with 22 classes that are upside down, a slash, an exemption, and a line that is not reached. -/
def crowded : Task where
  text := some ((List.replicate 22 (Text.ofString "[z-a]\n")).flatten ++ Text.ofString "/\n!keep.o\n[z-a]\n")
  config := { Config.standard with omitExemptions := false }
  root := Path.ofString "/w/app"

/-- There are 23 issues, of which 20 are told of before the exemption, and 22 errors. -/
theorem listed_crowded : ∃ p, crowded.compile.outcome = .ok p ∧ crowded.issues.length = 23 ∧
    p.diagnostics.length = 21 ∧ p.errors = 22 := by
  have hcheck : (crowded.compile.outcome.toOption.any fun p => p.fatal?.isSome) = true := by decide +kernel
  obtain ⟨p, hok, hfatal⟩ := exists_ok _ _ hcheck
  have hlisted := (listed hok).1 rfl
  have hissues : crowded.issues.length = 23 := by decide +kernel
  obtain ⟨fatal, hfatal⟩ := Option.isSome_iff_exists.mp hfatal
  refine ⟨p, hok, hissues, ?_, hlisted.errors.trans (by decide +kernel)⟩
  rw [hlisted.diagnostics, List.length_append, List.length_take, hissues, hfatal]
  rfl

/-- A file with a class that is upside down, which is not to count. -/
def unused : Task where
  text := some (Text.ofString "[z-a]\n")
  config := { Config.standard with useIgnoreFile := false }
  root := Path.ofString "/w/app"

/-- Its line has an issue, which is neither told of nor counted. -/
theorem unused_not_listed : unused.compile.outcome = .ok unused.blank ∧ unused.issues.length = 1 ∧
    unused.blank.diagnostics = [] ∧ unused.blank.errors = 0 ∧ ¬ unused.Listed unused.blank := by
  have hissues : unused.issues.length = 1 := by decide +kernel
  refine ⟨rfl, hissues, rfl, rfl, fun h => ?_⟩
  have herrors : unused.issues.countP (·.kind = .regexCompileError) = 1 := by decide +kernel
  exact absurd (h.errors.trans herrors) (by decide)

end Task

end SkipPath
