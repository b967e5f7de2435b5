import SkipPath.Proofs.Fragment.Merge
import SkipPath.Proofs.Glob.Translation
import SkipPath.Proofs.Profile.Tally

/-!
What an ignore file is compiled to.

The compiler goes through the rows of a file once, leaves a row in one of several ways (`Verdict.Exit`), and
keeps a tally.  Of a file that it reads to the end, the profile can be told from the pattern lines alone
(`compile_specified`): each count is the number of the lines of a kind, and the pattern is merged from the
fragments of the lines that are regular expressions, in order and each once, whichever form they are taken
in.
-/

namespace SkipPath

/-! ## 1. Lines -/

namespace Text

theorem splitLines_newline (t : Text) : splitLines ('\n' :: t) = [] :: splitLines t := rfl

theorem splitLines_return_newline (t : Text) : splitLines ('\r' :: '\n' :: t) = [] :: splitLines t := rfl

/-- Whether a line break can take the return before it with it. -/
theorem foldr_splitStep_fst (t : Text) :
    (t.foldr splitStep (false, [[]])).1 = true ↔ t.head? = some (.char '\n') := by
  cases t with
  | nil => exact iff_of_false Bool.false_ne_true nofun
  | cons c t =>
    rw [List.foldr_cons, splitStep, List.head?_cons, Option.some.injEq]
    split
    · next hc => exact iff_of_true rfl hc
    · next hc => split <;> exact iff_of_false Bool.false_ne_true hc

theorem splitLines_cons {c : CodePoint} {t : Text} (hc : c ≠ .char '\n')
    (hreturn : c = .char '\r' → t.head? ≠ some (.char '\n')) :
    splitLines (c :: t) = consFirst c (splitLines t) := by
  have hkept : ¬ ((c = '\r' && (t.foldr splitStep (false, [[]])).1) = true) := by
    rw [Bool.and_eq_true, decide_eq_true_eq, foldr_splitStep_fst]
    exact fun h => hreturn h.1 h.2
  rw [splitLines, List.foldr_cons, splitStep, if_neg hc, if_neg hkept]
  rfl

/-- What stands before the first line break goes on the first line. -/
theorem splitLines_append {line t first : Text} {rest : List Text} (hline : .char '\n' ∉ line)
    (hend : line.getLast? = some (.char '\r') → t.head? ≠ some (.char '\n')) (ht : splitLines t = first :: rest) :
    splitLines (line ++ t) = (line ++ first) :: rest := by
  induction line with
  | nil => exact ht
  | cons c line ih =>
    have hc : c ≠ '\n' := fun he => hline (he ▸ List.mem_cons_self)
    have hmore := ih (fun h => hline (List.mem_cons_of_mem c h)) fun h =>
      hend (by rw [List.getLast?_cons, h, Option.getD_some])
    rw [List.cons_append, splitLines_cons hc, hmore]
    · rfl
    · intro hreturn
      cases line with
      | nil => exact hend (by rw [hreturn]; rfl)
      | cons d line =>
        intro he
        exact hline (List.mem_cons_of_mem c (Option.some.inj he ▸ List.mem_cons_self))

/-- A text without a line break is a line. -/
theorem splitLines_line {line : Text} (hline : .char '\n' ∉ line) : splitLines line = [line] := by
  have h := splitLines_append hline (fun _ he => absurd he (by decide))
    (show splitLines [] = [] :: [] from rfl)
  rwa [List.append_nil] at h

/-- A line break ends a line. -/
theorem splitLines_line_newline {line : Text} (hline : .char '\n' ∉ line) (hend : line.getLast? ≠ some (.char '\r'))
    (t : Text) : splitLines (line ++ .char '\n' :: t) = line :: splitLines t := by
  have h := splitLines_append hline (fun he => absurd he hend) (splitLines_newline t)
  rwa [List.append_nil] at h

/-- A return before the line break goes with it. -/
theorem splitLines_line_return_newline {line : Text} (hline : .char '\n' ∉ line) (t : Text) :
    splitLines (line ++ .char '\r' :: .char '\n' :: t) = line :: splitLines t := by
  have hreturn : (.char '\r' :: .char '\n' :: t).head? ≠ some (.char '\n') := fun he =>
    absurd (Option.some.inj he) (by decide)
  have h := splitLines_append hline (fun _ => hreturn) (splitLines_return_newline t)
  rwa [List.append_nil] at h

end Text

namespace Row

/-- Whether a line of a file is neither blank nor a comment. -/
def isPatternLine (raw : Text) : Bool := !(Text.trim raw).isEmpty && (Text.trim raw).head? != some (.char '#')

/-- The lines of a text that are neither blank nor comments. -/
def patternLines (text : Text) : List Text := (Text.splitLines text).filter isPatternLine

theorem raw_numberFrom (number : Nat) (found : List Row) (lines : List Text) :
    (numberFrom number found lines).map (·.raw) = (found.map (·.raw)).reverse ++ lines := by
  induction lines generalizing number found with
  | nil => rw [numberFrom, List.map_reverse, List.append_nil]
  | cons raw lines ih =>
    rw [numberFrom, ih, List.map_cons, List.reverse_cons, List.append_assoc]
    rfl

/-- The rows that get a verdict hold the pattern lines, in order. -/
theorem raw_patterns (text : Text) : (patterns text).map (·.raw) = patternLines text := by
  have hraw : (ofText text).map (·.raw) = Text.splitLines text := raw_numberFrom 1 [] _
  rw [patterns, patternLines, ← hraw, List.filter_map]
  rfl

end Row

/-! ## 2. Verdicts -/

namespace Config

variable (config : Config)

/-- The fragment that a line is translated to, if it has one. -/
def translated (line : Text) : Option Text := (Glob.translate line config.skipDotFolders).fragment?

/-- A fragment in the form of the shell. -/
def shellForm (fragment : Text) : Text := Fragment.forShell config.shell config.forwardSlash fragment

/-- Whether a fragment in the form of the shell is a regular expression. -/
def compiles (fragment : Text) : Bool := (Regex.parse (config.shellForm fragment)).isOk

/-- A line that exempts paths. -/
def isExempting (line : Text) : Bool :=
  (Glob.translate line config.skipDotFolders).outcome = .dropped .exemption

/-- A line with a fragment that is a regular expression. -/
def isParsed (line : Text) : Bool := (config.translated line).any config.compiles

/-- A line with a fragment that is none. -/
def isRefused (line : Text) : Bool := (config.translated line).any (!config.compiles ·)

end Config

namespace Verdict

/-- The ways to leave a row of a line, each with the judgement on it. -/
inductive Exit (config : Config) (line : Text) : Judgement → Prop where
  | exempting (hexempting : config.isExempting line = true) (hnone : config.translated line = none) :
    Exit config line (if config.omitExemptions then .passedOver else .conflict)
  | dropped {reason : Glob.DropReason} (hother : config.isExempting line = false)
    (hnone : config.translated line = none) : Exit config line (.dropped reason)
  | kept {fragment : Text} (hother : config.isExempting line = false)
    (hsome : config.translated line = some fragment) (hcompiles : config.compiles fragment = true) :
    Exit config line (.kept (config.shellForm fragment))
  | refused {fragment : Text} {refusal : Regex.Refusal} (hother : config.isExempting line = false)
    (hsome : config.translated line = some fragment) (hcompiles : config.compiles fragment = false) :
    Exit config line (.refused (config.shellForm fragment) refusal)
  | fatal {refusal : Regex.Refusal} (hother : config.isExempting line = false) :
    Exit config line (.fatal refusal)

theorem exit_ofRow (config : Config) (row : Row) :
    Exit config row.raw (ofRow config row).judgement := by
  show Exit config row.raw (.ofOutcome config (Glob.translate row.raw config.skipDotFolders).outcome)
  cases houtcome : (Glob.translate row.raw config.skipDotFolders).outcome with
  | dropped reason =>
    have hnone : config.translated row.raw = none := by
      rw [Config.translated, Glob.Settled.fragment?, houtcome]
    have hexempting : config.isExempting row.raw = decide (reason = .exemption) := by
      rw [Config.isExempting, houtcome]
      exact decide_eq_decide.mpr (iff_of_eq (Glob.Outcome.dropped.injEq _ _))
    cases reason with
    | exemption => exact .exempting hexempting hnone
    | comment => exact .dropped hexempting hnone
    | redundantDot => exact .dropped hexempting hnone
    | tooShort => exact .dropped hexempting hnone
  | kept fragment =>
    have hother : config.isExempting row.raw = false := by
      rw [Config.isExempting, houtcome]
      rfl
    have hsome : config.translated row.raw = some fragment := by
      rw [Config.translated, Glob.Settled.fragment?, houtcome]
    dsimp only [Judgement.ofOutcome]
    split
    · next e hparse =>
      exact .kept hother hsome (by rw [Config.compiles, Config.shellForm, hparse]; rfl)
    · next refusal hparse =>
      split
      · exact .refused hother hsome (by rw [Config.compiles, Config.shellForm, hparse]; rfl)
      · exact .fatal hother
      · exact .fatal hother

section exits

variable {config : Config} {line : Text} {judgement : Judgement}

theorem Exit.isExemption (h : Exit config line judgement) :
    judgement.isExemption = config.isExempting line := by
  cases h with
  | exempting h =>
    rw [h]
    cases config.omitExemptions <;> rfl
  | dropped h => exact h.symm
  | kept h => exact h.symm
  | refused h => exact h.symm
  | fatal h => exact h.symm

/-- A row contributes the fragment of its line in the form of the shell, if that is a regular
expression. -/
theorem Exit.fragment (h : Exit config line judgement) (hgoes : judgement.stops = false) :
    judgement.fragment? = ((config.translated line).filter config.compiles).map config.shellForm := by
  cases h with
  | exempting _ hnone =>
    rw [hnone]
    cases config.omitExemptions <;> rfl
  | dropped _ hnone => rw [hnone]; rfl
  | kept _ hsome hcompiles => rw [hsome, Option.filter_some, hcompiles]; rfl
  | refused _ hsome hcompiles => rw [hsome, Option.filter_some, hcompiles]; rfl
  | fatal => cases hgoes

theorem Exit.isParsed (h : Exit config line judgement) (hgoes : judgement.stops = false) :
    judgement.fragment?.isSome = config.isParsed line := by
  rw [h.fragment hgoes, Option.isSome_map, Option.isSome_filter]
  rfl

theorem Exit.isRefused (h : Exit config line judgement) (hgoes : judgement.stops = false) :
    judgement.isRefused = config.isRefused line := by
  unfold Config.isRefused
  cases h with
  | exempting _ hnone =>
    rw [hnone]
    cases config.omitExemptions <;> rfl
  | dropped _ hnone => rw [hnone]; rfl
  | kept _ hsome hcompiles => rw [hsome, Option.any_some, hcompiles]; rfl
  | refused _ hsome hcompiles => rw [hsome, Option.any_some, hcompiles]; rfl
  | fatal => cases hgoes

/-- The reading ends where exemptions are not passed over, and where all ends. -/
theorem Exit.of_stops (h : Exit config line judgement) (hstops : judgement.stops = true) :
    (config.omitExemptions = false ∧ config.isExempting line = true) ∨
      ∃ refusal, judgement = .fatal refusal := by
  cases h with
  | exempting hexempting =>
    cases homit : config.omitExemptions with
    | true =>
      rw [homit] at hstops
      cases hstops
    | false => exact .inl ⟨rfl, hexempting⟩
  | dropped => cases hstops
  | kept => cases hstops
  | refused => cases hstops
  | fatal => exact .inr ⟨_, rfl⟩

end exits

/-- Either all rows get their verdicts, or the last verdict is one that ends the reading. -/
theorem survey_cases (config : Config) (found : List Verdict) (rows : List Row) :
    (survey config found rows = found.reverse ++ rows.map (ofRow config) ∧
      ∀ row ∈ rows, (ofRow config row).judgement.stops = false) ∨
    ∃ row ∈ rows, (ofRow config row).judgement.stops = true ∧
      (survey config found rows).getLast? = some (ofRow config row) := by
  induction rows generalizing found with
  | nil => exact .inl ⟨(List.append_nil _).symm, fun _ h => absurd h List.not_mem_nil⟩
  | cons row rows ih =>
    cases hstops : (ofRow config row).judgement.stops with
    | true =>
      refine .inr ⟨row, List.mem_cons_self, hstops, ?_⟩
      simp only [survey, hstops, if_true, List.getLast?_reverse, List.head?_cons]
    | false =>
      have hgoes : survey config found (row :: rows) = survey config (ofRow config row :: found) rows := by
        simp only [survey, hstops, Bool.false_eq_true, if_false]
      rw [hgoes]
      rcases ih (ofRow config row :: found) with ⟨hall, hrest⟩ | ⟨last, hmem, hlast⟩
      · refine .inl ⟨?_, List.forall_mem_cons.mpr ⟨hstops, hrest⟩⟩
        rw [hall, List.reverse_cons, List.append_assoc]
        rfl
      · exact .inr ⟨last, List.mem_cons_of_mem row hmem, hlast⟩

end Verdict

/-! ## 3. The pattern of a file -/

namespace Task

theorem dotFolderFragment_startsSeparated (skipDotFolders : Bool) :
    Text.StartsSeparated (dotFolderFragment skipDotFolders) := by
  cases skipDotFolders <;> exact .inl rfl

/-- What the fragments of a file are merged to starts with a separator. -/
theorem merge_tally_startsSeparated (config : Config) (vs : List Verdict) :
    Text.StartsSeparated
      (Fragment.merge config.shell config.forwardSlash (tally config vs).fragments) := by
  rw [fragments_tally, builtinFragments, List.map_cons, List.cons_append, List.eraseDups_cons]
  exact Fragment.merge_startsSeparated _ _
    (Fragment.forShell_startsSeparated _ _ (dotFolderFragment_startsSeparated _)) _

/-- A file that was read to its end has a pattern. -/
theorem merged_pattern (task : Task) (vs : List Verdict) :
    (task.merged vs).pattern =
      some (Fragment.merge task.config.shell task.config.forwardSlash
        (tally task.config vs).fragments) := by
  have hstart := merge_tally_startsSeparated task.config vs
  simp only [merged]
  split
  · next hempty =>
    rw [List.isEmpty_iff.mp hempty] at hstart
    exact absurd hstart Text.not_startsSeparated_nil
  · rfl

theorem conclude_startsSeparated {task : Task} {vs : List Verdict} {p : Profile} {pattern : Text}
    (h : task.conclude vs = .ok p) (hp : p.usable? = some pattern) : Text.StartsSeparated pattern := by
  unfold conclude at h
  split at h
  · cases h; cases hp
  · cases h
  · cases h
    unfold Profile.usable? at hp
    split at hp
    · obtain ⟨hpattern, -⟩ := Option.filter_eq_some_iff.mp hp
      rw [merged_pattern] at hpattern
      rw [← Option.some.inj hpattern]
      exact merge_tally_startsSeparated task.config vs
    · cases hp

/-- Every pattern starts with a separator. -/
theorem compile_startsSeparated {task : Task} {p : Profile} {pattern : Text}
    (h : task.compile.outcome = .ok p) (hp : p.usable? = some pattern) :
    Text.StartsSeparated pattern := by
  unfold compile at h
  split at h
  · cases h; cases hp
  · split at h
    · cases h; cases hp
    · exact conclude_startsSeparated h hp

/-! ## 4. The profile of a file -/

/-- The fragments that a pattern is made of, as they are before the separators of a shell are put in. -/
def slashForms (config : Config) (lines : List Text) : List Text :=
  builtinFragments config ++ (lines.filterMap config.translated).filter config.compiles

theorem ne_nil_of_fragment {line fragment : Text} {skipDotFolders : Bool}
    (h : (Glob.translate line skipDotFolders).fragment? = some fragment) : fragment ≠ [] := by
  unfold Glob.Settled.fragment? at h
  split at h
  · next kept hkept =>
    have hlength := Glob.translate_kept_length hkept
    rw [Option.some.inj h] at hlength
    exact List.ne_nil_of_length_pos (Nat.lt_of_lt_of_le (by decide) hlength)
  · cases h

theorem ne_nil_of_mem_slashForms {config : Config} {lines : List Text} {fragment : Text}
    (h : fragment ∈ slashForms config lines) : fragment ≠ [] := by
  rcases List.mem_append.mp h with hbuiltin | hline
  · rcases List.mem_cons.mp hbuiltin with rfl | hadded
    · cases config.skipDotFolders <;> decide
    · obtain ⟨settled, hsettled, hfragment⟩ := List.mem_filterMap.mp hadded
      unfold addedLines at hsettled
      split at hsettled
      · exact absurd hsettled List.not_mem_nil
      · rw [List.mem_singleton.mp hsettled] at hfragment
        exact ne_nil_of_fragment hfragment
  · obtain ⟨line, -, hfragment⟩ := List.mem_filterMap.mp (List.mem_of_mem_filter hline)
    exact ne_nil_of_fragment hfragment

/-- What a profile is to be when a file with these pattern lines was read to its end. -/
structure Specified (config : Config) (lines : List Text) (p : Profile) : Prop where
  fragments : p.fragments = ((slashForms config lines).map config.shellForm).eraseDups
  pattern : p.pattern = some (Fragment.joined config.shell config.forwardSlash p.fragments)
  slashes : p.pattern = some (Fragment.merge config.shell config.forwardSlash (slashForms config lines))
  total : p.total = lines.length
  exemptions : p.exemptions = lines.countP config.isExempting
  errors : p.errors = lines.countP config.isRefused
  parsed : p.parsed = lines.countP config.isParsed

section verdicts

variable {task : Task} {rows : List Row}

/-- The fragments of rows that have all been read. -/
theorem fragments_ofRow {config : Config}
    (hgoes : ∀ row ∈ rows, (Verdict.ofRow config row).judgement.stops = false) :
    (tally config (rows.map (Verdict.ofRow config))).fragments =
      ((slashForms config (rows.map (·.raw))).map config.shellForm).eraseDups := by
  have hlines : (rows.map (Verdict.ofRow config)).filterMap (·.judgement.fragment?) =
      (((rows.map (·.raw)).filterMap config.translated).filter config.compiles).map
        config.shellForm := by
    rw [List.filterMap_map, List.filterMap_map, List.filter_filterMap, List.map_filterMap]
    exact List.filterMap_congr fun row hrow =>
      (Verdict.exit_ofRow config row).fragment (hgoes row hrow)
  rw [fragments_tally, hlines, slashForms, List.map_append]
  rfl

/-- To count verdicts is to count lines. -/
theorem countP_ofRow {config : Config} (ofJudgement : Judgement → Bool) {ofLine : Text → Bool}
    (h : ∀ row ∈ rows, ofJudgement (Verdict.ofRow config row).judgement = ofLine row.raw) :
    (rows.map (Verdict.ofRow config)).countP (fun v => ofJudgement v.judgement) =
      (rows.map (·.raw)).countP ofLine := by
  rw [List.countP_map, List.countP_map]
  exact List.countP_congr fun row hrow => iff_of_eq (congrArg (· = true) (h row hrow))

section counts

variable {config : Config}

theorem exemptions_ofRow : (tally config (rows.map (Verdict.ofRow config))).exemptions =
    (rows.map (·.raw)).countP config.isExempting :=
  (exemptions_tally config).trans <| countP_ofRow (·.isExemption) fun row _ =>
    (Verdict.exit_ofRow config row).isExemption

variable (hgoes : ∀ row ∈ rows, (Verdict.ofRow config row).judgement.stops = false)
include hgoes

theorem errors_ofRow : (tally config (rows.map (Verdict.ofRow config))).errors =
    (rows.map (·.raw)).countP config.isRefused :=
  (errors_tally config).trans <| countP_ofRow (·.isRefused) fun row hrow =>
    (Verdict.exit_ofRow config row).isRefused (hgoes row hrow)

theorem parsed_ofRow : (tally config (rows.map (Verdict.ofRow config))).total -
    (tally config (rows.map (Verdict.ofRow config))).dropped =
      (rows.map (·.raw)).countP config.isParsed := by
  have hfatal : ∀ v ∈ rows.map (Verdict.ofRow config), ∀ refusal, v.judgement ≠ .fatal refusal := by
    intro v hv refusal he
    obtain ⟨row, hrow, rfl⟩ := List.mem_map.mp hv
    have hstops := hgoes row hrow
    rw [he] at hstops
    cases hstops
  exact (parsed_tally config hfatal).trans <| countP_ofRow (·.fragment?.isSome) fun row hrow =>
    (Verdict.exit_ofRow config row).isParsed (hgoes row hrow)

end counts

/-- The profile of rows that have all been read. -/
theorem merged_specified
    (hgoes : ∀ row ∈ rows, (Verdict.ofRow task.config row).judgement.stops = false) :
    Specified task.config (rows.map (·.raw))
      (task.merged (rows.map (Verdict.ofRow task.config))) := by
  have hfragments := fragments_ofRow hgoes
  have hpattern := merged_pattern task (rows.map (Verdict.ofRow task.config))
  rw [hfragments] at hpattern
  have hmerge := Fragment.merge_shellForms task.config.shell task.config.forwardSlash
    fun fragment (hmem : fragment ∈ slashForms task.config (rows.map (·.raw))) =>
      ne_nil_of_mem_slashForms hmem
  have hslashes := Fragment.merge_slashForms task.config.shell task.config.forwardSlash
    fun fragment (hmem : fragment ∈ slashForms task.config (rows.map (·.raw))) =>
      ne_nil_of_mem_slashForms hmem
  refine ⟨hfragments, ?_, ?_, ?_, exemptions_ofRow, errors_ofRow hgoes, parsed_ofRow hgoes⟩
  · rw [hpattern]
    show _ = some (Fragment.joined _ _ (tally _ _).fragments)
    rw [hfragments]
    exact congrArg some hmerge
  · rw [hpattern, hslashes]
    exact congrArg some hmerge
  · refine (total_tally task.config).trans ?_
    rw [List.length_map, List.length_map]

/-- If every row goes on to the next, a file is read to its end. -/
theorem conclude_of_goes {vs : List Verdict} (h : ∀ v ∈ vs, v.judgement.stops = false) :
    task.conclude vs = .ok (task.merged vs) := by
  unfold conclude
  split
  · next hlast => cases h _ (List.mem_of_getLast? hlast)
  · next hlast => cases h _ (List.mem_of_getLast? hlast)
  · rfl

theorem conclude_of_fatal {vs : List Verdict} {last : Verdict} {refusal : Regex.Refusal}
    (hlast : vs.getLast? = some last) (hfatal : last.judgement = .fatal refusal) :
    task.conclude vs = .error refusal := by
  obtain ⟨row, settled, judgement⟩ := last
  cases hfatal
  rw [conclude, hlast]

/-- If no line exempts paths where that is not passed over, a file is read to its end, or there is no
profile. -/
theorem conclude_survey {p : Profile}
    (hexempting : task.config.omitExemptions = true ∨
      ∀ row ∈ rows, task.config.isExempting row.raw = false)
    (h : task.conclude (Verdict.survey task.config [] rows) = .ok p) :
    (∀ row ∈ rows, (Verdict.ofRow task.config row).judgement.stops = false) ∧
      p = task.merged (rows.map (Verdict.ofRow task.config)) := by
  rcases Verdict.survey_cases task.config [] rows with ⟨hall, hgoes⟩ | ⟨row, hrow, hstops, hlast⟩
  · rw [hall, List.reverse_nil, List.nil_append, conclude_of_goes] at h
    · exact ⟨hgoes, (Except.ok.inj h).symm⟩
    · intro v hv
      obtain ⟨row, hrow, rfl⟩ := List.mem_map.mp hv
      exact hgoes row hrow
  · rcases (Verdict.exit_ofRow task.config row).of_stops hstops with ⟨homit, hexempts⟩ | ⟨refusal, hfatal⟩
    · rcases hexempting with hall | hnone
      · rw [homit] at hall
        cases hall
      · rw [hnone row hrow] at hexempts
        cases hexempts
    · rw [conclude_of_fatal hlast hfatal] at h
      cases h

end verdicts

/-- The profile of a file that holds anything, by its pattern lines. -/
theorem compile_specified {task : Task} {text : Text} {p : Profile}
    (huse : task.config.useIgnoreFile = true) (htext : task.text = some text)
    (hblank : Text.isAllBlank text = false)
    (hexempting : task.config.omitExemptions = true ∨
      ∀ line ∈ Row.patternLines text, task.config.isExempting line = false)
    (hok : task.compile.outcome = .ok p) : Specified task.config (Row.patternLines text) p := by
  have hfilter : task.text.filter (fun text => !Text.isAllBlank text) = some text := by
    rw [htext, Option.filter_some, hblank]
    rfl
  have hconclude : task.conclude (Verdict.survey task.config [] (Row.patterns text)) = .ok p := by
    rw [compile, huse, hfilter] at hok
    exact hok
  have hrows : task.config.omitExemptions = true ∨
      ∀ row ∈ Row.patterns text, task.config.isExempting row.raw = false := by
    refine hexempting.imp_right fun hnone row hrow => hnone row.raw ?_
    rw [← Row.raw_patterns]
    exact List.mem_map_of_mem hrow
  obtain ⟨hgoes, rfl⟩ := conclude_survey hrows hconclude
  rw [← Row.raw_patterns]
  exact merged_specified hgoes

/-- A file with a line that comes twice, a comment, an exemption, a class that is upside down, a folder, and
a backslash at the end of the pattern. -/
def mixed : Task where
  text := some (Text.ofString "*.o\r\n# objects\n*.o\n!keep.o\n[z-a]\nbuild/\n\\\\\n")
  config := { Config.standard with shell := .cmd, omitExemptions := true }
  root := Path.ofString "/w/app"

theorem compile_specified_mixed : ∃ p, mixed.compile.outcome = .ok p ∧
    p.pattern = some (Text.ofString "\\\\[\\$\\.]|\\.o$|build\\\\|\\\\\\\\") ∧
    p.total = 6 ∧ p.exemptions = 1 ∧ p.errors = 1 ∧ p.parsed = 4 := by
  cases hcompile : mixed.compile.outcome with
  | error refusal =>
    have hok : mixed.compile.outcome.isOk = true := by decide +kernel
    rw [hcompile] at hok
    cases hok
  | ok p =>
    have h := compile_specified rfl rfl (by decide +kernel) (.inl rfl) hcompile
    refine ⟨p, rfl, h.slashes.trans ?_, h.total.trans ?_, h.exemptions.trans ?_, h.errors.trans ?_,
      h.parsed.trans ?_⟩
    all_goals decide +kernel

end Task

end SkipPath
