import SkipPath.Proofs.Profile.Refusal
import SkipPath.Proofs.Workspace.Load

/-!
Loading a file agrees with compiling its text.

An ignore file is read by the loader, which has its own word on a file of blanks and asks `pathspec` about every
pattern line, and then its text is compiled.  Where both come to an end, the profile that is published is the one
that the text alone is compiled to (`loaded_of_bytes`); of a file of blanks, the loader and the compiler tell the
same.  The loader does not come to an end where the library makes of a line an expression that is none
(`read_isOk_iff`), so that loading agrees with compiling exactly if there is no such line and none that raises
(`agrees_iff`).  Nothing else is asked of the library.
-/

namespace SkipPath

/-! ## 1. Lines with an expression that is none -/

/-- Whether a line is not refused because the expression that stands for it is none. -/
def Pathspec.accepts (pathspec : Pathspec) (line : Text) : Bool :=
  match pathspec.fromLines [line] with
  | .error (.badExpression _ _) => false
  | _ => true

/-- The loader is content with a line, or has its remarks about it, unless the expression of the line is none. -/
theorem Gitignore.isOk_concerns (pathspec : Pathspec) (line : Text) :
    (concerns pathspec line).isOk = pathspec.accepts line := by
  unfold concerns Pathspec.accepts
  cases pathspec.fromLines [line] with
  | ok ignores => rfl
  | error e => cases e <;> rfl

section mapM

variable {α β ε : Type} {f : α → Except ε β}

/-- To go through a list is possible exactly if every member of it can be dealt with. -/
theorem isOk_mapM_iff (l : List α) : (l.mapM f).isOk = true ↔ ∀ a ∈ l, (f a).isOk = true := by
  induction l with
  | nil => exact iff_of_true rfl fun _ h => absurd h List.not_mem_nil
  | cons a l ih =>
    rw [List.mapM_cons, List.forall_mem_cons, ← ih]
    cases f a with
    | error e => exact iff_of_false Bool.false_ne_true fun h => Bool.false_ne_true h.1
    | ok b =>
      cases l.mapM f with
      | error e => exact iff_of_false Bool.false_ne_true fun h => Bool.false_ne_true h.2
      | ok bs => exact iff_of_true rfl ⟨rfl, rfl⟩

end mapM

/-! ## 2. Reading an ignore file -/

namespace Loader

variable {loader : Loader} {tree : Files.Tree} {root : Path} {bytes : List UInt8} {raw : Text}

/-- The remarks about a pattern line. -/
def remarks (loader : Loader) (row : Row) : Except Gitignore.Error (List Warning) :=
  (Gitignore.concerns loader.pathspec row.line).map fun messages => messages.map fun message =>
    { line := row.number, pattern := row.line, message := message }

theorem warningsOf_eq (loader : Loader) (text : Text) :
    loader.warningsOf text = ((Row.patterns text).mapM loader.remarks).map List.flatten := by
  have hremarks : loader.remarks = fun row => Gitignore.concerns loader.pathspec row.line >>= fun messages =>
      pure (messages.map fun message =>
        { line := row.number, pattern := row.line, message := message : Warning }) := by
    funext row
    rw [remarks]
    cases Gitignore.concerns loader.pathspec row.line <;> rfl
  rw [hremarks]
  unfold warningsOf
  generalize List.mapM (m := Except Gitignore.Error) _ (Row.patterns text) = found
  cases found <;> rfl

/-- The remarks about a text can be had unless one of its lines is refused. -/
theorem warningsOf_isOk_iff (loader : Loader) (text : Text) :
    (loader.warningsOf text).isOk = true ↔ ∀ row ∈ Row.patterns text, loader.pathspec.accepts row.line = true := by
  have hrow : ∀ row : Row, (loader.remarks row).isOk = true ↔ loader.pathspec.accepts row.line = true := by
    intro row
    rw [← Gitignore.isOk_concerns, remarks]
    cases Gitignore.concerns loader.pathspec row.line <;> exact Iff.rfl
  rw [← forall₂_congr fun row _ => hrow row, ← isOk_mapM_iff, warningsOf_eq]
  cases (Row.patterns text).mapM loader.remarks <;> exact Iff.rfl

theorem readText_of_bytes (hbytes : tree.read (loader.pathIn root) = .ok bytes)
    (hsize : (bytes.length : Int) ≤ loader.maxSize) :
    loader.readText tree (loader.pathIn root) = .ok (decode (loader.pathIn root) bytes) := by
  have hlookup : tree.lookup (loader.pathIn root) = .ok (.file bytes) := by
    unfold Files.Tree.read at hbytes
    cases hlookup : tree.lookup (loader.pathIn root) with
    | error cause =>
      rw [hlookup] at hbytes
      cases hbytes
    | ok entry =>
      rw [hlookup] at hbytes
      cases entry with
      | folder => cases hbytes
      | file content => rw [Except.ok.inj hbytes]
  have hholds : tree.holds (loader.pathIn root) = .ok true := by rw [Files.Tree.holds, hlookup]
  have hlength : tree.size (loader.pathIn root) = .ok bytes.length := by rw [Files.Tree.size, hlookup]
  have hfits : ¬ loader.maxSize < (bytes.length : Nat) := by omega
  unfold readText
  rw [hholds, hlength, hbytes]
  exact if_neg hfits

theorem decode_of_utf8 (path : Path) (hutf8 : Text.Utf8.decode bytes = .ok raw) :
    decode path bytes =
      if Text.isAllBlank (Text.unifyBreaks raw) then .error (Task.emptyMessage path.render)
      else .ok (Text.unifyBreaks raw) := by
  rw [decode, hutf8]
  rfl

section bytes

variable (hbytes : tree.read (loader.pathIn root) = .ok bytes)
  (hsize : (bytes.length : Int) ≤ loader.maxSize) (hutf8 : Text.Utf8.decode bytes = .ok raw)
include hbytes hsize hutf8

/-- A file of blanks has no text, and that is all that is wrong with it. -/
theorem read_of_blank (hblank : Text.isAllBlank (Text.unifyBreaks raw) = true) :
    loader.read tree root = .ok (.problem (Task.emptyMessage (loader.pathIn root).render)) := by
  unfold read
  rw [readText_of_bytes hbytes hsize, decode_of_utf8 _ hutf8, if_pos hblank]

theorem read_of_text (hblank : Text.isAllBlank (Text.unifyBreaks raw) = false) :
    loader.read tree root =
      match loader.warningsOf (Text.unifyBreaks raw) with
      | .ok warnings => .ok (.text (Text.unifyBreaks raw) warnings)
      | .error e => .error (.gitignore e) := by
  unfold read
  rw [readText_of_bytes hbytes hsize, decode_of_utf8 _ hutf8, hblank]
  rfl

/-- A file can be read exactly if none of its lines is refused, and then its text is read unless that is
blank. -/
theorem read_isOk_iff :
    (∃ content, loader.read tree root = .ok content ∧ content.text? =
      if Text.isAllBlank (Text.unifyBreaks raw) then none else some (Text.unifyBreaks raw)) ↔
      ∀ row ∈ Row.patterns (Text.unifyBreaks raw), loader.pathspec.accepts row.line = true := by
  cases hblank : Text.isAllBlank (Text.unifyBreaks raw) with
  | true =>
    have hnone : Row.patterns (Text.unifyBreaks raw) = [] := by
      have hraw := Row.raw_patterns (Text.unifyBreaks raw)
      rw [Row.patternLines_of_isAllBlank hblank] at hraw
      exact List.map_eq_nil_iff.mp hraw
    rw [hnone]
    exact iff_of_true ⟨_, read_of_blank hbytes hsize hutf8 hblank, rfl⟩ fun _ h =>
      absurd h List.not_mem_nil
  | false =>
    rw [read_of_text hbytes hsize hutf8 hblank, ← warningsOf_isOk_iff]
    cases loader.warningsOf (Text.unifyBreaks raw) with
    | ok warnings => exact iff_of_true ⟨_, rfl, rfl⟩ rfl
    | error e => exact iff_of_false (fun ⟨_, h, _⟩ => by cases h) Bool.false_ne_true

end bytes

end Loader

/-! ## 3. The profile of a file -/

namespace Workspace

/-- To compile a text as that of the ignore file of a project. -/
def fileTask (w : Workspace) (root : Path) (config : Config) (text : Text) : Task :=
  { text := some text, config := config, root := root, source := some (w.loader.pathIn root) }

/-- What can be loaded from a file is what its text is compiled to. -/
theorem loaded_of_bytes {w : Workspace} {root : Path} {config : Config} {bytes : List UInt8} {raw : Text}
    (huse : config.useIgnoreFile = true) (hbytes : w.files.read (w.loader.pathIn root) = .ok bytes)
    (hsize : (bytes.length : Int) ≤ w.loader.maxSize) (hutf8 : Text.Utf8.decode bytes = .ok raw)
    {content : Loader.Content} (hread : w.loader.read w.files root = .ok content) :
    w.loaded root config =
      (w.fileTask root config (Text.unifyBreaks raw)).compile.outcome.mapError (Fault.expression []) := by
  cases hblank : Text.isAllBlank (Text.unifyBreaks raw) with
  | true =>
    have hproblem := Loader.read_of_blank hbytes hsize hutf8 hblank
    have hfilter : (w.fileTask root config (Text.unifyBreaks raw)).text.filter
        (fun text => !Text.isAllBlank text) = none := by
      rw [fileTask, Option.filter_some, hblank]
      rfl
    have huse' : (w.fileTask root config (Text.unifyBreaks raw)).config.useIgnoreFile = true := huse
    rw [loaded, makingOf, if_pos huse, hproblem, Task.compile, huse', hfilter]
    rfl
  | false =>
    have htext := Loader.read_of_text hbytes hsize hutf8 hblank
    rw [hread] at htext
    cases hwarnings : w.loader.warningsOf (Text.unifyBreaks raw) with
    | error e =>
      rw [hwarnings] at htext
      cases htext
    | ok warnings =>
      rw [hwarnings] at htext
      rw [loaded, makingOf, if_pos huse, hread, Except.ok.inj htext]
      rfl

end Workspace

/-! ## 4. Agreement -/

/-- Loading a project with a file of this text agrees with compiling the text: the file can be read, with its
text unless that is blank, and the profile to which the text is compiled is published. -/
structure Agrees (w : Workspace) (root full : Path) (config : Config) (text : Text) : Prop where
  read : ∃ content, w.loader.read w.files full = .ok content ∧
    content.text? = if Text.isAllBlank text then none else some text
  published : ∃ p, (w.fileTask full config text).compile.outcome = .ok p ∧
    (((Work.load root (some config)).on w).2.registry.get? full).map (·.profile) = some p

/-- In every situation of every run, loading a project agrees with compiling the text of its ignore file
exactly if `pathspec` makes of no line of it an expression that is none, and no line raises. -/
theorem agrees_iff {defaults : Config} {start : Workspace}
    (hstart : start.registry = { defaultConfig := defaults }) {s : Situation}
    (hrun : Run Workspace.Aside start s) {root full : Path} {config : Config} {bytes : List UInt8} {raw : Text}
    (hroot : s.workspace.resolve root = .ok full) (huse : config.useIgnoreFile = true)
    (hbytes : s.workspace.files.read (s.workspace.loader.pathIn full) = .ok bytes)
    (hsize : (bytes.length : Int) ≤ s.workspace.loader.maxSize)
    (hutf8 : Text.Utf8.decode bytes = .ok raw) :
    Agrees s.workspace root full config (Text.unifyBreaks raw) ↔
      (∀ row ∈ Row.patterns (Text.unifyBreaks raw), s.workspace.loader.pathspec.accepts row.line = true) ∧
      ∀ row ∈ (s.workspace.fileTask full config (Text.unifyBreaks raw)).reached,
        config.raises row.raw = false := by
  have hreadable := Loader.read_isOk_iff hbytes hsize hutf8
  have hordered := (hrun.tracked hstart).ordered
  constructor
  · rintro ⟨hread, p, hp, -⟩
    refine ⟨hreadable.mp hread, fun row hrow => Bool.eq_false_iff.mpr fun hraises => ?_⟩
    obtain ⟨refusal, herror, -⟩ := Task.compile_of_raises hrow hraises
    rw [hp] at herror
    cases herror
  · rintro ⟨haccepts, hraises⟩
    obtain ⟨content, hread, htext⟩ := hreadable.mpr haccepts
    obtain ⟨p, hp, -⟩ := Task.compile_of_reached hraises
    have hloaded := Workspace.loaded_of_bytes huse hbytes hsize hutf8 hread
    rw [hp] at hloaded
    have hpublished : ∃ record, ((Work.load root (some config)).on s.workspace).2.registry =
        s.workspace.registry.publishedNow full config p record :=
      Work.load_publishes hroot hordered hloaded
    obtain ⟨record, hregistry⟩ := hpublished
    refine ⟨⟨content, hread, htext⟩, p, hp, ?_⟩
    rw [hregistry, Registry.get?_publishedNow, if_pos rfl]
    rfl

/-- A workspace with one project that has an ignore file. -/
def Workspace.holding (text : String) : Workspace :=
  { Workspace.bare (Path.ofString "/scripts") with
    files :=
      { here := { anchor := .root, names := [] }
        entries := ⟨[([['w']], .folder), ([['w'], ['p']], .folder),
          ([['w'], ['p'], Text.ofString ".gitignore"],
            .file ((Text.ofString text).flatMap Text.Utf8.bytesOf))]⟩ } }

/-- A file with line breaks of three kinds, a lone backslash, which is no pattern, and an exemption. -/
theorem agrees_iff_mixed_breaks :
    Agrees (Workspace.holding "*.o\r\n\\\r!b\n[!a]c") (Path.ofString "/w/p") (Path.ofString "/w/p") .standard
      (Text.ofString "*.o\n\\\n!b\n[!a]c") := by
  have hutf8 : Text.Utf8.decode ((Text.ofString "*.o\r\n\\\r!b\n[!a]c").flatMap Text.Utf8.bytesOf) =
      .ok (Text.ofString "*.o\r\n\\\r!b\n[!a]c") := by decide +kernel
  exact (agrees_iff (s := { workspace := Workspace.holding "*.o\r\n\\\r!b\n[!a]c" }) rfl .start
    (by decide +kernel) rfl (by decide +kernel) (by decide +kernel) hutf8).mpr
    ⟨by decide +kernel, by decide +kernel⟩

/-- The expression of a class that is upside down is none, and then a file cannot be read. -/
theorem unreadable_class :
    ¬ ∃ content, (Workspace.holding "[z-a]\n").loader.read (Workspace.holding "[z-a]\n").files
      (Path.ofString "/w/p") = .ok content := by
  rintro ⟨content, hread⟩
  have hfault : ((Workspace.holding "[z-a]\n").loader.read (Workspace.holding "[z-a]\n").files
      (Path.ofString "/w/p")).isOk = false := by
    decide +kernel
  rw [hread] at hfault
  cases hfault

end SkipPath
