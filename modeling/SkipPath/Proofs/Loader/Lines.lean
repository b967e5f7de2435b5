import SkipPath.Proofs.Glob.Outcome
import SkipPath.Proofs.Loader.Agreement
import SkipPath.Proofs.Profile.Issues

/-!
The loader looks at the lines that are translated.

The loader and the compiler go through the lines of a file one after the other, and count them alike: what stands in
a warning is the number of the row that is translated (`Row.mem_patterns_iff`).  What they take from a line is not
always the same (`Glob.trim_eq_line_iff`).  The loader takes all blanks off the end of a line, while the translation
keeps one of them behind a backslash; so the loader sees a lone backslash at the end of such a line, and warns of
it (`warned_of_kept_blank`).
-/

namespace SkipPath

/-! ## 1. What is taken from a line -/

namespace Text

variable {p : CodePoint → Bool} {t : Text}

theorem takeEndWhile_eq_nil_iff : takeEndWhile p t = [] ↔ t.getLast?.any p = false := by
  rw [takeEndWhile, List.reverse_eq_nil_iff, ← List.head?_reverse]
  cases t.reverse with
  | nil => exact iff_of_true rfl rfl
  | cons c r =>
    rw [List.takeWhile_cons, List.head?_cons, Option.any_some]
    cases p c with
    | false => exact iff_of_true rfl rfl
    | true => exact iff_of_false (List.cons_ne_nil _ _) Bool.true_eq_false.mp

/-- What stays of a line when the blanks in front are taken off ends as the line does. -/
theorem getLast?_trimStart (h : trimStart t ≠ []) : (trimStart t).getLast? = t.getLast? := by
  conv_rhs => rw [← List.takeWhile_append_dropWhile (p := isBlank) (l := t)]
  rw [List.getLast?_append, ← trimStart, List.getLast?_eq_some_getLast h, Option.some_or]

end Text

namespace Glob

/-- Whether a line ends in a blank that is kept: blanks behind a backslash. -/
def keepsBlank (line : Text) : Bool := (Text.trim line).getLast? = some (.char '\\') && line.getLast?.any Text.isBlank

/-- What a line is translated from is the line without the blanks at its ends, unless it keeps a blank. -/
theorem trim_eq_line_iff (line : Text) (skipDotFolders : Bool) :
    Text.trim line = (translate line skipDotFolders).line ↔ keepsBlank line = false := by
  have hline : (translate line skipDotFolders).line = stripLine line := rfl
  have hbody : Text.trimEnd (Text.trimStart line) = Text.trim line := rfl
  rw [hline, stripLine, keepsBlank, hbody]
  by_cases hlast : (Text.trim line).getLast? = some (.char '\\')
  · have hne : Text.trimStart line ≠ [] := by
      intro hnil
      rw [Text.trim, hnil] at hlast
      cases hlast
    rw [if_pos hlast, decide_eq_true hlast, Bool.true_and, ← Text.getLast?_trimStart hne,
      ← Text.takeEndWhile_eq_nil_iff, List.self_eq_append_right, List.take_eq_nil_iff]
    exact or_iff_right Nat.one_ne_zero
  · rw [if_neg hlast, decide_eq_false hlast]
    exact iff_of_true rfl rfl

end Glob

/-! ## 2. Rows and their numbers -/

namespace Row

theorem numberFrom_eq_map (number : Nat) (lines : List Text) : numberFrom number [] lines =
    (lines.zipIdx number).map fun line => { number := line.2, raw := line.1 } := by
  induction lines generalizing number with
  | nil => rfl
  | cons raw lines ih => rw [numberFrom_cons, ih, List.zipIdx_cons, List.map_cons]

/-- The rows that get a verdict are the pattern lines, each with the number of its line. -/
theorem mem_patterns_iff {text : Text} {row : Row} : row ∈ patterns text ↔
    ∃ n, row.number = n + 1 ∧ (Text.splitLines text)[n]? = some row.raw ∧ isPatternLine row.raw = true := by
  rw [patterns, List.mem_filter, ofText, numberFrom_eq_map, List.mem_map]
  constructor
  · rintro ⟨⟨⟨raw, number⟩, hmem, rfl⟩, hpattern⟩
    obtain ⟨hle, hraw⟩ := List.mk_mem_zipIdx_iff_le_and_getElem?_sub.mp hmem
    exact ⟨number - 1, (Nat.sub_add_cancel hle).symm, hraw, hpattern⟩
  · rintro ⟨n, hnumber, hraw, hpattern⟩
    have hmem : (row.raw, n + 1) ∈ (Text.splitLines text).zipIdx 1 :=
      List.mk_mem_zipIdx_iff_le_and_getElem?_sub.mpr ⟨Nat.le_add_left 1 n, hraw⟩
    refine ⟨⟨(row.raw, n + 1), hmem, ?_⟩, hpattern⟩
    rw [← hnumber]

end Row

/-! ## 3. Warnings -/

namespace Loader

variable {loader : Loader}

theorem mem_remarks {row : Row} {found : List Warning} (h : loader.remarks row = .ok found) {warning : Warning}
    (hwarning : warning ∈ found) : warning.line = row.number ∧ warning.pattern = row.line := by
  obtain ⟨messages, -, rfl⟩ := map_eq_ok.mp h
  obtain ⟨message, -, rfl⟩ := List.mem_map.mp hwarning
  exact ⟨rfl, rfl⟩

section mapM

variable {rows : List Row} {found : List (List Warning)} (h : rows.mapM loader.remarks = .ok found)
include h

theorem mapM_remarks_cons {row : Row} {rest : List Row} (hrows : rows = row :: rest) :
    ∃ first more, found = first :: more ∧ loader.remarks row = .ok first ∧ rest.mapM loader.remarks = .ok more := by
  subst hrows
  rw [List.mapM_cons] at h
  obtain ⟨first, hfirst, h⟩ := bind_eq_ok.mp h
  obtain ⟨more, hmore, h⟩ := bind_eq_ok.mp h
  exact ⟨first, more, (Except.ok.inj h).symm, hfirst, hmore⟩

/-- Every remark is about a row. -/
theorem mem_flatten_remarks {warning : Warning} (hwarning : warning ∈ found.flatten) :
    ∃ row ∈ rows, warning.line = row.number ∧ warning.pattern = row.line := by
  induction rows generalizing found with
  | nil =>
    cases h
    cases hwarning
  | cons row rows ih =>
    obtain ⟨first, more, rfl, hfirst, hmore⟩ := mapM_remarks_cons h rfl
    rw [List.flatten_cons, List.mem_append] at hwarning
    rcases hwarning with hwarning | hwarning
    · exact ⟨row, List.mem_cons_self, mem_remarks hfirst hwarning⟩
    · obtain ⟨other, hother, habout⟩ := ih hmore hwarning
      exact ⟨other, List.mem_cons_of_mem _ hother, habout⟩

/-- Among all remarks those about a row are found by its number. -/
theorem remarks_eq_filter (hnumbers : rows.Pairwise (·.number < ·.number)) {row : Row} (hrow : row ∈ rows) :
    loader.remarks row = .ok (found.flatten.filter (·.line = row.number)) := by
  induction rows generalizing found with
  | nil => cases hrow
  | cons head rows ih =>
    obtain ⟨first, more, rfl, hfirst, hmore⟩ := mapM_remarks_cons h rfl
    obtain ⟨hlater, hrest⟩ := List.pairwise_cons.mp hnumbers
    rw [List.flatten_cons, List.filter_append]
    rcases List.mem_cons.mp hrow with rfl | hrow
    · have hall : first.filter (·.line = row.number) = first :=
        List.filter_eq_self.mpr fun warning hwarning => decide_eq_true (mem_remarks hfirst hwarning).1
      have hnone : more.flatten.filter (·.line = row.number) = [] := by
        refine List.filter_eq_nil_iff.mpr fun warning hwarning => ?_
        obtain ⟨other, hother, hline, -⟩ := mem_flatten_remarks hmore hwarning
        rw [decide_eq_true_eq, hline]
        exact Nat.ne_of_gt (hlater other hother)
      rw [hall, hnone, List.append_nil, hfirst]
    · have hnone : first.filter (·.line = row.number) = [] := by
        refine List.filter_eq_nil_iff.mpr fun warning hwarning => ?_
        rw [decide_eq_true_eq, (mem_remarks hfirst hwarning).1]
        exact Nat.ne_of_lt (hlater row hrow)
      rw [hnone, List.nil_append, ih hmore hrest hrow]

end mapM

theorem decode_of_readText {loader : Loader} {tree : Files.Tree} {path : Path} {text : Text}
    (h : loader.readText tree path = .ok (.ok text)) : ∃ bytes, decode path bytes = .ok text := by
  simp only [readText, bind, Except.bind, pure, Except.pure] at h
  split at h
  · cases h
  split at h
  · cases h
  split at h
  · cases h
  split at h
  · cases h
  split at h
  · cases h
  · next bytes _ => exact ⟨bytes, Except.ok.inj h⟩

theorem isAllBlank_of_decode {path : Path} {bytes : List UInt8} {text : Text}
    (h : decode path bytes = .ok text) : Text.isAllBlank text = false := by
  rw [decode] at h
  split at h
  · cases h
  · next raw _ =>
    cases hblank : Text.isAllBlank (Text.unifyBreaks raw) with
    | true =>
      rw [if_pos hblank] at h
      cases h
    | false =>
      simp only [hblank, Bool.false_eq_true, if_false] at h
      cases h
      exact hblank

/-- A text that was read from a file is not blank, and its warnings are the remarks about its lines. -/
theorem text_of_read {loader : Loader} {tree : Files.Tree} {root : Path} {text : Text}
    {warnings : List Warning} (h : loader.read tree root = .ok (.text text warnings)) :
    Text.isAllBlank text = false ∧ loader.warningsOf text = .ok warnings := by
  unfold read at h
  split at h
  · cases h
  · cases h
  · next t hresult =>
    split at h
    · next found hwarnings =>
      cases h
      obtain ⟨bytes, hdecode⟩ := decode_of_readText hresult
      exact ⟨isAllBlank_of_decode hdecode, hwarnings⟩
    · cases h

end Loader

/-! ## 4. Verdicts -/

section verdicts

variable {config : Config} {rows : List Row} {row : Row}

/-- Only rows get verdicts. -/
theorem Verdict.mem_survey {v : Verdict} (hv : v ∈ survey config [] rows) :
    ∃ row ∈ rows, v = ofRow config row := by
  rcases Task.exists_stops_or_goes config rows with hgoes | ⟨before, last, after, rfl, hgoes, hstops⟩
  · rw [survey_of_goes hgoes] at hv
    obtain ⟨row, hrow, rfl⟩ := List.mem_map.mp hv
    exact ⟨row, hrow, rfl⟩
  · rw [survey_of_stops hgoes hstops, List.mem_append, List.mem_singleton] at hv
    rcases hv with hv | rfl
    · obtain ⟨row, hrow, rfl⟩ := List.mem_map.mp hv
      exact ⟨row, List.mem_append_left _ hrow, rfl⟩
    · exact ⟨last, List.mem_append_right _ List.mem_cons_self, rfl⟩

/-- A row gets a verdict, unless one with a smaller number ends the reading. -/
theorem Verdict.mem_survey_or (hnumbers : rows.Pairwise (·.number < ·.number)) (hrow : row ∈ rows) :
    ofRow config row ∈ survey config [] rows ∨
      ∃ v ∈ survey config [] rows, v.row.number < row.number ∧ v.judgement.stops = true := by
  rcases Task.exists_stops_or_goes config rows with hgoes | ⟨before, last, after, rfl, hgoes, hstops⟩
  · rw [survey_of_goes hgoes]
    exact .inl (List.mem_map_of_mem hrow)
  · rw [survey_of_stops hgoes hstops]
    rcases List.mem_append.mp hrow with hrow | hrow
    · exact .inl (List.mem_append_left _ (List.mem_map_of_mem hrow))
    · rcases List.mem_cons.mp hrow with rfl | hrow
      · exact .inl (List.mem_append_right _ List.mem_cons_self)
      · have hlater := (List.pairwise_cons.mp (List.pairwise_append.mp hnumbers).2.1).1 row hrow
        exact .inr ⟨ofRow config last, List.mem_append_right _ List.mem_cons_self, hlater, hstops⟩

end verdicts

/-! ## 5. The lines of a file -/

/-- What the loader and the compiler make of the lines of a text. -/
structure SeesSameLines (pathspec : Pathspec) (text : Text) (warnings : List Loader.Warning) (task : Task) : Prop where
  /-- The warnings with the number of a pattern line are the remarks about that line without the blanks at its
  ends. -/
  warned : ∀ n raw, (Text.splitLines text)[n]? = some raw → Row.isPatternLine raw = true →
    (Gitignore.concerns pathspec (Text.trim raw)).map (·.map fun message =>
      { line := n + 1, pattern := Text.trim raw, message := message : Loader.Warning }) =
        .ok (warnings.filter (·.line = n + 1))
  /-- There are no other warnings. -/
  warnedOnly : ∀ warning ∈ warnings, ∃ n raw, (Text.splitLines text)[n]? = some raw ∧
    Row.isPatternLine raw = true ∧ warning.line = n + 1 ∧ warning.pattern = Text.trim raw
  /-- The profile is made of the verdicts. -/
  compiled : task.compile.outcome = task.conclude (task.verdicts text)
  /-- A pattern line gets a verdict with its number, unless an earlier one ends the reading. -/
  judged : ∀ n raw, (Text.splitLines text)[n]? = some raw → Row.isPatternLine raw = true →
    (∃ v ∈ task.verdicts text, v.row = { number := n + 1, raw := raw }) ∨
      ∃ v ∈ task.verdicts text, v.row.number < n + 1 ∧ v.judgement.stops = true
  /-- No other line gets one, and it rests on what the line is translated to. -/
  judgedOnly : ∀ v ∈ task.verdicts text, ∃ n, (Text.splitLines text)[n]? = some v.row.raw ∧
    Row.isPatternLine v.row.raw = true ∧ v.row.number = n + 1 ∧
    v.settled = Glob.translate v.row.raw task.config.skipDotFolders
  /-- The loader looks at the text that is translated, unless a line keeps a blank. -/
  taken : ∀ raw, Text.trim raw = (Glob.translate raw task.config.skipDotFolders).line ↔
    Glob.keepsBlank raw = false

/-- The loader and the compiler count the lines of a file alike, and what the loader looks at is what is translated,
unless the line ends in a backslash with blanks behind it. -/
theorem loader_sees_translated_lines {loader : Loader} {tree : Files.Tree} {root : Path} {text : Text}
    {warnings : List Loader.Warning} (hread : loader.read tree root = .ok (.text text warnings)) {task : Task}
    (huse : task.config.useIgnoreFile = true) (htext : task.text = some text) :
    SeesSameLines loader.pathspec text warnings task := by
  obtain ⟨hblank, hwarnings⟩ := Loader.text_of_read hread
  have hisRead : task.isRead = true := by
    rw [Task.isRead, huse, htext, Option.getD_some, hblank]
    rfl
  have hrows : task.rows = Row.patterns text := by rw [Task.rows, if_pos hisRead, htext, Option.getD_some]
  have hnumbers := Row.pairwise_patterns text
  rw [Loader.warningsOf_eq] at hwarnings
  obtain ⟨found, hfound, rfl⟩ := map_eq_ok.mp hwarnings
  constructor
  case warned =>
    intro n raw hraw hpattern
    have hrow : { number := n + 1, raw := raw } ∈ Row.patterns text :=
      Row.mem_patterns_iff.mpr ⟨n, rfl, hraw, hpattern⟩
    exact Loader.remarks_eq_filter hfound hnumbers hrow
  case warnedOnly =>
    intro warning hwarning
    obtain ⟨row, hrow, hline, hpattern⟩ := Loader.mem_flatten_remarks hfound hwarning
    obtain ⟨n, hnumber, hraw, hispattern⟩ := Row.mem_patterns_iff.mp hrow
    exact ⟨n, row.raw, hraw, hispattern, hline.trans hnumber, hpattern⟩
  case compiled => rw [Task.compile_of_isRead hisRead, hrows, Task.verdicts]
  case judged =>
    intro n raw hraw hpattern
    have hrow : { number := n + 1, raw := raw } ∈ Row.patterns text :=
      Row.mem_patterns_iff.mpr ⟨n, rfl, hraw, hpattern⟩
    exact (Verdict.mem_survey_or hnumbers hrow).imp_left fun hv => ⟨_, hv, rfl⟩
  case judgedOnly =>
    intro v hv
    obtain ⟨row, hrow, rfl⟩ := Verdict.mem_survey hv
    obtain ⟨n, hnumber, hraw, hpattern⟩ := Row.mem_patterns_iff.mp hrow
    exact ⟨n, hraw, hpattern, hnumber, rfl⟩
  case taken => exact fun raw => Glob.trim_eq_line_iff raw task.config.skipDotFolders

/-- A file with a comment, a line with a backslash and blanks at both ends, an exemption, and a line that is not
reached. -/
def Workspace.numbered : Workspace := Workspace.holding "# note\n\ta\\b \r\n!x\n*.o"

/-- The warning about the second line. -/
def Loader.numberedWarning : Loader.Warning where
  line := 2
  pattern := Text.ofString "a\\b"
  message := Text.ofString "Pattern contains backslash. Use forward slashes for paths."

theorem loader_sees_translated_lines_numbered :
    Workspace.numbered.loader.read Workspace.numbered.files (Path.ofString "/w/p") =
      .ok (.text (Text.ofString "# note\n\ta\\b \n!x\n*.o") [Loader.numberedWarning]) ∧
    SeesSameLines Gitignore.wildmatch (Text.ofString "# note\n\ta\\b \n!x\n*.o") [Loader.numberedWarning]
      (Workspace.numbered.fileTask (Path.ofString "/w/p") .standard
        (Text.ofString "# note\n\ta\\b \n!x\n*.o")) := by
  have hread : Workspace.numbered.loader.read Workspace.numbered.files (Path.ofString "/w/p") =
      .ok (.text (Text.ofString "# note\n\ta\\b \n!x\n*.o") [Loader.numberedWarning]) := by
    decide +kernel
  exact ⟨hread, loader_sees_translated_lines hread rfl rfl⟩

/-- The blank at the end of a line is escaped and is part of the text that is translated, but the loader warns of a
backslash with nothing behind it. -/
theorem warned_of_kept_blank :
    ((Workspace.holding "foo\\ \n").loader.read (Workspace.holding "foo\\ \n").files
      (Path.ofString "/w/p")).toOption.map (·.warnings.map (·.pattern)) =
        some [Text.ofString "foo\\", Text.ofString "foo\\"] ∧
    (Glob.translate (Text.ofString "foo\\ ") true).line = Text.ofString "foo\\ " ∧
    (Glob.translate (Text.ofString "foo\\ ") true).outcome = .kept (Text.ofString "foo ") := by
  decide +kernel

end SkipPath
