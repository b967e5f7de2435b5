import SkipPath.Proofs.Command.Settings
import SkipPath.Proofs.Profile.Usable
import SkipPath.Proofs.Results
import SkipPath.Proofs.Workspace.Load

/-!
The alternation of a usable profile, and the command that compares it with the ignore file itself (`cmd_check`).

Where writing the separators of the shell breaks no escape, the fragments of a usable profile with bars between
them are an expression, and it finds what any of them finds on its own (`alternation_of_usable`).  The command
that compares decisions always asks for a shell that takes slashes.  So once its project is loaded and has a
usable profile, the expression is never what makes it fail: its lines are put out unless the ignore file cannot
be read again or has a line that is no pattern (`runCheck_of_usable`).
-/

namespace SkipPath

open Regex

/-! ## 1. The alternation of a profile -/

/-- The fragments of a profile with bars between them are an expression, which finds what any of them finds on
its own. -/
structure Profile.Alternation (p : Profile) (e : Expression) : Prop where
  parses : parse (Text.join ['|'] p.fragments) = .ok e
  finds : ∀ t, e.search t = true ↔
    ∃ fragment ∈ p.fragments, ∃ alone, parse fragment = .ok alone ∧ alone.search t = true

theorem Task.alternation_of_usable {task : Task} {p : Profile} (hok : task.compile.outcome = .ok p)
    (husable : p.isUsable = true)
    (hkeeps : ∀ fragment ∈ slashForms task.config (Row.patternLines (task.text.getD [])),
      task.config.KeepsEscapes fragment) : ∃ e, p.Alternation e := by
  obtain ⟨rows, hne, hrows⟩ := branches_of_usable hok husable hkeeps
  obtain ⟨e, hparse, hfinds⟩ := search_join hne
  refine ⟨e, by rw [hrows]; exact hparse, fun t => ?_⟩
  rw [hfinds, hrows]
  constructor
  · rintro ⟨b, hb, hsearch⟩
    exact ⟨b.text, List.mem_map_of_mem hb, b.expression, b.parse_text, hsearch⟩
  · rintro ⟨fragment, hfragment, alone, halone, hsearch⟩
    obtain ⟨b, hb, rfl⟩ := List.mem_map.mp hfragment
    rw [b.parse_text] at halone
    cases halone
    exact ⟨b, hb, hsearch⟩

/-! ## 2. Loading the project -/

namespace Work

/-- One operation after another ends without a fault only if both do. -/
theorem ok_of_bind {α β : Type} {x : Work α} {f : α → Work β} {w w' : Workspace} {b : β}
    (h : (x >>= f).on w = (.ok b, w')) :
    ∃ a between, x.on w = (.ok a, between) ∧ (f a).on between = (.ok b, w') := by
  rw [on_bind] at h
  split at h
  · next a between hx => exact ⟨a, between, hx, h⟩
  · cases h

/-- A profile that loading gives is the one that comes of the ignore file. -/
theorem loaded_of_load {root : Path} {config : Option Config} {w w' : Workspace} {held : Held}
    (hordered : w.registry.Ordered) (h : (load root config).on w = (.ok held, w')) :
    ∃ full, w.resolve root = .ok full ∧ w.loaded full (w.settingsFor full config) = .ok held.profile := by
  rw [on_load] at h
  rcases beginLoad_cases root config w with ⟨fault, rs, hbegin, -⟩ | ⟨full, request, begun, hfull, hbegin, hbegun⟩
  · rw [hbegin] at h
    cases h
  · rw [hbegin] at h
    obtain ⟨profile, houtcome, hending⟩ := finish_result h
    obtain ⟨rs, hworkspace⟩ := hbegun.workspace
    -- no request is later than this one, and its project was not removed since
    obtain ⟨record, hpublished⟩ := hordered.ending_begin full profile begun.ledger.fresh.1
    have hregistry : begun.registry = (w.registry.begin full).2 := by rw [hworkspace]
    simp only [Workspace.endingOf, hregistry, hbegun.about, hbegun.ticket, hpublished] at hending
    refine ⟨full, hfull, ?_⟩
    rw [Workspace.loaded, hbegun.making, hending]
    exact houtcome

end Work

/-- A usable profile of a project was compiled, with the settings that were asked for. -/
theorem Workspace.task_of_loaded {w : Workspace} {root : Path} {config : Config} {p : Profile}
    (h : w.loaded root config = .ok p) (husable : p.isUsable = true) :
    ∃ task : Task, task.config = config ∧ task.compile.outcome = .ok p := by
  unfold loaded makingOf at h
  split at h
  · cases h
  · next making hmaking =>
    split at hmaking
    · split at hmaking
      · cases hmaking
      · cases hmaking
        exact ⟨_, rfl, ok_of_mapError h⟩
      · cases hmaking
        cases h
        cases husable
    · cases hmaking
      exact ⟨_, rfl, ok_of_mapError h⟩

namespace Config

theorem shell_of_change_posix {c c' : Config} (h : c.change { shell := some Shell.posix.name } = .ok c') :
    c'.shell = .posix := by
  unfold change at h
  have hshell := (final_over.mp h).shell
  have hposix : shellOf Shell.posix.name = .ok .posix := by decide +kernel
  rw [Option.getD_some, hposix] at hshell
  exact (Except.ok.inj hshell).symm

end Config

/-- In a registry without projects no ticket was taken. -/
theorem Registry.ordered_empty : Registry.Ordered {} where
  marks _ := Nat.le_refl 0
  entries _ _ h := by cases h

namespace Command

/-- Load the project of a comparison, for a shell that takes slashes. -/
def loadToCheck (common : Common) (project : Project) : Work (Path × Held) := do
  useScripts project
  let root ← rootFolder project.root
  let c ← config common (some project)
  let c ← Work.ofExcept .config (c.change { shell := some Shell.posix.name })
  return (root, ← Work.load root (some c))

/-- Compare the decisions about some paths for a project that is loaded. -/
def compare (root : Path) (p : Profile) (paths : List Text) : Work Nat := do
  let joined := Text.join ['|'] p.fragments
  let expression ← Work.ofExcept (.expression joined) (parse joined)
  Work.say Log.debug source
    (Text.ofString s!"Checking {paths.length} paths against " ++ p.root.render)
  let w ← get
  let content ← Work.ofExcept id (w.loader.read w.files root)
  let ignores ← Work.ofExcept .gitignore
    (w.loader.pathspec.fromLines (Text.splitAtBreaks (content.text?.getD [])))
  let differences ← paths.mapM fun path => do
    let relative := relativeText path
    let bySearch := expression.search ('/' :: relative)
    let byGitignore := ignores relative
    Work.printResult (comparisonLine relative bySearch byGitignore)
    return bySearch != byGitignore
  return if differences.any id then 2 else 0

theorem runCheck_eq (common : Common) (project : Project) (paths : List Text) :
    runCheck common project paths =
      (do
        let loaded ← loadToCheck common project
        if !loaded.2.profile.isUsable then
          showDiagnostics loaded.2.profile
          return 1
        compare loaded.1 loaded.2.profile paths) := by
  simp only [runCheck, loadToCheck, compare, bind_assoc, pure_bind]

/-- The line that is put out for a path. -/
def lineFor (skips ignores : Text → Bool) (path : Text) : Text :=
  comparisonLine (relativeText path) (skips ('/' :: relativeText path)) (ignores (relativeText path))

/-- Whether the decisions about a path differ. -/
def differs (skips ignores : Text → Bool) (path : Text) : Bool :=
  skips ('/' :: relativeText path) != ignores (relativeText path)

/-- What is reported before paths are compared. -/
def compareRecord (p : Profile) (paths : List Text) : Log.Record :=
  Log.record Log.debug source
    (Text.ofString s!"Checking {paths.length} paths against " ++ p.root.render)

/-- The decision that the ignore file of a project stands for, or why there is none. -/
def ignoredBy (w : Workspace) (root : Path) : Except Fault (Text → Bool) :=
  match w.loader.read w.files root with
  | .error fault => .error fault
  | .ok content =>
    (w.loader.pathspec.fromLines (Text.splitAtBreaks (content.text?.getD []))).mapError Fault.gitignore

/-- Lines that are put out one after the other. -/
theorem on_mapM_printResult (line : Text → Text) (answer : Text → Bool) (paths : List Text) (w : Workspace) :
    (paths.mapM fun path => do
      Work.printResult (line path)
      return answer path).on w =
      (.ok (paths.map answer), { w with output := (paths.map (.result <| line ·)).reverse ++ w.output }) := by
  induction paths generalizing w with
  | nil => rfl
  | cons path paths ih =>
    have hfirst : (do
        Work.printResult (line path)
        return answer path : Work Bool).on w =
          (.ok (answer path), { w with output := .result (line path) :: w.output }) := rfl
    rw [List.mapM_cons, Work.on_bind, hfirst]
    simp only [Work.on_bind, ih, Work.on_pure, List.map_cons, List.reverse_cons, List.append_assoc,
      List.singleton_append]

/-- What comes of comparing the decisions about some paths. -/
def compared (w : Workspace) (root : Path) (skips : Text → Bool) (paths : List Text) :
    Except Fault Nat × Workspace :=
  match ignoredBy w root with
  | .error fault => (.error fault, w)
  | .ok ignores =>
    (.ok (if paths.any (differs skips ignores) then 2 else 0),
      { w with output := (paths.map (.result <| lineFor skips ignores ·)).reverse ++ w.output })

/-- A comparison with an alternation that is an expression. -/
theorem on_compare {p : Profile} {e : Expression} (hparse : parse (Text.join ['|'] p.fragments) = .ok e)
    (root : Path) (paths : List Text) (w : Workspace) :
    (compare root p paths).on w = compared (w.reported (compareRecord p paths)) root e.search paths := by
  have hsay : (Work.say Log.debug source
      (Text.ofString s!"Checking {paths.length} paths against " ++ p.root.render)).on w =
        (.ok (), w.reported (compareRecord p paths)) := rfl
  simp only [compare, Work.on_bind, Work.on_ofExcept, hparse, mapError_ok, hsay, Work.on_get]
  generalize w.reported (compareRecord p paths) = w
  cases hread : w.loader.read w.files root with
  | error fault =>
    unfold compared ignoredBy
    simp only [hread]
    rfl
  | ok content =>
    simp only [mapError_ok]
    cases hignores : w.loader.pathspec.fromLines (Text.splitAtBreaks (content.text?.getD [])) with
    | error e =>
      unfold compared ignoredBy
      simp only [hread, hignores]
      rfl
    | ok ignores =>
      have hprint := on_mapM_printResult (lineFor e.search ignores) (differs e.search ignores) paths w
      unfold lineFor differs at hprint
      unfold compared ignoredBy
      simp only [hread, hignores, mapError_ok, hprint, Work.on_pure, List.any_map]
      rfl

theorem registry_useScripts (project : Project) (w : Workspace) :
    ((useScripts project).on w).2.registry = w.registry := by
  unfold useScripts
  split <;> rfl

theorem registry_rootFolder (text : Text) (w : Workspace) :
    ((rootFolder text).on w).2.registry = w.registry := by
  simp only [rootFolder, Work.on_bind, Work.on_fullPath, Work.on_get, Work.on_ofExcept]
  cases w.resolve (Path.ofText text) with
  | error fault => rfl
  | ok full =>
    simp only
    cases w.files.holdsFolder full with
    | error e => rfl
    | ok holds => cases holds <;> rfl

theorem registry_config (common : Common) (project : Option Project) (w : Workspace) :
    ((config common project).on w).2.registry = w.registry := by
  unfold config
  split
  · next name _ =>
    cases Config.shellOf name with
    | error e => rfl
    | ok shell =>
      simp only [Work.on_bind, Work.on_get, Work.on_reportAll, Work.on_ofExcept, mapError_ok,
        Workspace.reportedAll_registry]
  · simp only [Work.on_bind, Work.on_get, Work.on_reportAll, Work.on_ofExcept, Workspace.reportedAll_registry]

/-- What is known of a project that was loaded to compare decisions. -/
theorem task_of_loadToCheck {common : Common} {project : Project} {w w' : Workspace} {root : Path} {held : Held}
    (hordered : w.registry.Ordered) (h : (loadToCheck common project).on w = (.ok (root, held), w'))
    (husable : held.profile.isUsable = true) :
    ∃ task : Task, task.config.shell = .posix ∧ task.compile.outcome = .ok held.profile := by
  obtain ⟨⟨⟩, w₁, hscripts, h⟩ := Work.ok_of_bind h
  obtain ⟨folder, w₂, hfolder, h⟩ := Work.ok_of_bind h
  obtain ⟨c, w₃, hconfig, h⟩ := Work.ok_of_bind h
  obtain ⟨c', w₄, hchange, h⟩ := Work.ok_of_bind h
  obtain ⟨loaded, w₅, hload, h⟩ := Work.ok_of_bind h
  cases h
  rw [Work.on_ofExcept] at hchange
  obtain ⟨hnew, rfl⟩ := Prod.mk.inj hchange
  have hregistry : w₃.registry = w.registry := by
    rw [← congrArg (·.2.registry) hconfig, registry_config, ← congrArg (·.2.registry) hfolder,
      registry_rootFolder, ← congrArg (·.2.registry) hscripts, registry_useScripts]
  obtain ⟨full, -, hloaded⟩ := Work.loaded_of_load (by rw [hregistry]; exact hordered) hload
  obtain ⟨task, htask, hok⟩ := Workspace.task_of_loaded hloaded husable
  refine ⟨task, ?_, hok⟩
  rw [htask]
  exact Config.shell_of_change_posix (ok_of_mapError hnew)

/-- Once a project is loaded and has a usable profile, its alternation is an expression, and what comes of
comparing decisions depends on whether the ignore file stands for decisions to compare them with. -/
theorem runCheck_of_usable {common : Common} {project : Project} {w w' : Workspace} {root : Path} {held : Held}
    (hordered : w.registry.Ordered) (hloaded : (loadToCheck common project).on w = (.ok (root, held), w'))
    (husable : held.profile.isUsable = true) :
    ∃ e, held.profile.Alternation e ∧ ∀ paths, (runCheck common project paths).on w =
      compared (w'.reported (compareRecord held.profile paths)) root e.search paths := by
  obtain ⟨task, hshell, hok⟩ := task_of_loadToCheck hordered hloaded husable
  have hseparator : task.config.shell.separator task.config.forwardSlash = [.char '/'] := by
    rw [hshell]
    cases task.config.forwardSlash <;> rfl
  obtain ⟨e, he⟩ := Task.alternation_of_usable hok husable fun fragment _ => .inl hseparator
  refine ⟨e, he, fun paths => ?_⟩
  rw [runCheck_eq, Work.on_bind, hloaded]
  simp only [husable, Bool.not_true, Bool.false_eq_true, if_false]
  exact on_compare he.parses root paths w'

end Command

/-- The fragments of a usable profile are an expression that finds what any of them finds, if writing the separators
of the shell broke no escape of the file it was compiled from.  They always are if the command that compares
decisions has loaded the profile; this command skips a path exactly if a fragment finds it, and fails only if there
is nothing to compare with. -/
theorem alternation_finds_any {p : Profile} (husable : p.isUsable = true) :
    (∀ task : Task, task.compile.outcome = .ok p →
      (∀ fragment ∈ Task.slashForms task.config (Row.patternLines (task.text.getD [])),
        task.config.KeepsEscapes fragment) → ∃ e, p.Alternation e) ∧
    ∀ (common : Command.Common) (project : Command.Project) (w w' : Workspace) (root : Path) (held : Held),
      w.registry.Ordered → (Command.loadToCheck common project).on w = (.ok (root, held), w') →
      held.profile = p →
      ∃ e, p.Alternation e ∧ ∀ paths, (Command.runCheck common project paths).on w =
        Command.compared (w'.reported (Command.compareRecord p paths)) root e.search paths := by
  constructor
  · intro task hok hkeeps
    exact Task.alternation_of_usable hok husable hkeeps
  · intro common project w w' root held hordered hloaded hp
    subst hp
    exact Command.runCheck_of_usable hordered hloaded husable

/-- A file with a star, a class, a folder and a bar, for a shell that writes slashes as four backslashes. -/
def barred : Task where
  text := some (Text.ofString "*.o\n[!a|b]c\nbuild/\nx|y")
  config := { Config.standard with shell := .mingw }
  root := Path.ofString "/w/app"

theorem alternation_finds_any_barred :
    (∃ p e, barred.compile.outcome = .ok p ∧ p.Alternation e) ∧
    ∃ root held w' e, held.profile.Alternation e ∧
      (Command.loadToCheck {} { root := Text.ofString "/w/p" }).on (Workspace.holding "*.o\nbuild/\n") =
        (.ok (root, held), w') ∧
      (Command.runCheck {} { root := Text.ofString "/w/p" } [Text.ofString "a.o"]).on
          (Workspace.holding "*.o\nbuild/\n") =
        Command.compared (w'.reported (Command.compareRecord held.profile [Text.ofString "a.o"])) root e.search
          [Text.ofString "a.o"] := by
  constructor
  · obtain ⟨p, hcompile, husable⟩ := exists_ok barred.compile.outcome Profile.isUsable (by decide +kernel)
    obtain ⟨e, he⟩ := (alternation_finds_any husable).1 barred hcompile (by decide +kernel)
    exact ⟨p, e, hcompile, he⟩
  · obtain ⟨loaded, w', hload, husable⟩ := (Command.loadToCheck {} { root := Text.ofString "/w/p" }).exists_on
      (Workspace.holding "*.o\nbuild/\n") (·.2.profile.isUsable) (by decide +kernel)
    obtain ⟨e, he, hcheck⟩ := (alternation_finds_any husable).2 {} { root := Text.ofString "/w/p" } _ w'
      loaded.1 loaded.2 Registry.ordered_empty hload rfl
    exact ⟨loaded.1, loaded.2, w', e, he, hload, hcheck _⟩

/-- A file with two classes that have an escaped slash, for the command prompt of Windows.  Written with
backslashes, the escape ends one character earlier, and so do the classes. -/
def brokenEscapes : Task where
  text := some (Text.ofString "[\\/\\](?P<n>a)]\n[\\/\\](?P<n>b)]")
  config := { Config.standard with shell := .cmd }
  root := Path.ofString "/w/app"

/-- Fragments with a broken escape need not be an expression together, and decisions cannot be compared where
a line is no pattern. -/
theorem alternation_fails :
    (∃ p, brokenEscapes.compile.outcome = .ok p ∧ p.isUsable = true ∧ ¬ ∃ e, p.Alternation e) ∧
    ((Command.loadToCheck {} { root := Text.ofString "/w/p" }).on (Workspace.holding "a\\\n")).1.toOption.any
      (·.2.profile.isUsable) = true ∧
    ((Command.runCheck {} { root := Text.ofString "/w/p" } [Text.ofString "x"]).on
      (Workspace.holding "a\\\n")).1 = .error (.gitignore (Gitignore.noPattern (Text.ofString "a\\"))) := by
  refine ⟨?_, by decide +kernel, by decide +kernel⟩
  obtain ⟨p, hcompile, hfacts⟩ := exists_ok brokenEscapes.compile.outcome
    (fun p => p.isUsable && !(parse (Text.join ['|'] p.fragments)).isOk) (by decide +kernel)
  obtain ⟨husable, hrefused⟩ := Bool.and_eq_true_iff.mp hfacts
  refine ⟨p, hcompile, husable, fun ⟨e, he⟩ => ?_⟩
  rw [he.parses] at hrefused
  cases hrefused

end SkipPath
