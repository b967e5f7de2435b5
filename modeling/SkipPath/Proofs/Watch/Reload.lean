import SkipPath.Proofs.Results
import SkipPath.Proofs.Workspace.Notice
import SkipPath.Watch.Monitor

/-!
Hot reload.

A handler is told of every change of a file, but it does not tell the registry of all of them: a file that is
created, modified or deleted too soon after the last time that the registry was told of it is passed over.  And
not every event of which the registry is told reaches a project: the path of the event is resolved first, so
that an ignore file that is a link to another file is not found to be the project's.
So what is published of a project is what loading its ignore file came to when an event last reached the project
(`follows_last_told`), and a file that is saved again too soon leaves an older profile in place
(`saved_too_soon`).

Four things carry this.  What an event leaves of a handler is said once (`Handler.react_fst`), so that the
times that it keeps can be read off what has happened (`lastChange_afterAll`).  A reaction that reaches a project
publishes what loading came to before the reaction, whatever is reported meanwhile and whichever other file the
registry is told of (`publishes_of_reached`), and any other reaction leaves the project's profile alone
(`stays_of_unreached`).  And a project stays known by its settings all along (`Registered`).
-/

namespace SkipPath.Watch

/-! ## 1. Incidents -/

/-- Whether a file was moved. -/
def Change.isMove : Change → Bool
  | .moved _ => true
  | .created | .modified | .deleted => false

/-- Whether the file of a path, as it is kept by a handler, was created, modified or deleted. -/
def Event.isChangeOf (event : Event) (path : Text) : Bool :=
  !event.change.isMove && Handler.key event.source == Handler.key path

/-- The paths that an event names. -/
def Event.paths (event : Event) : List Text :=
  match event.change with
  | .moved target => [event.source, target]
  | .created | .modified | .deleted => [event.source]

/-- A change of files and links, and the event by which a handler is told of it at some time. -/
structure Incident where
  change : Files.Tree → Files.Tree
  relink : Links → Links := id
  time : Time
  event : Event

/-- A handler at work in a workspace. -/
structure Watching where
  handler : Handler
  workspace : Workspace

/-- A path is that of the ignore file of a project. -/
def IsFileOf (w : Workspace) (root file : Path) : Prop := file.name = w.loader.fileName ∧ file.parent = root

instance (w : Workspace) (root file : Path) : Decidable (IsFileOf w root file) :=
  inferInstanceAs (Decidable (_ ∧ _))

/-- Whether a text leads to the ignore file of a project, all links followed. -/
def leadsToFile (w : Workspace) (root : Path) (path : Text) : Bool :=
  (w.resolve (Path.ofText path)).toOption.any (decide <| IsFileOf w root ·)

namespace Watching

/-- The workspace after files and links have changed, when the handler is still to be told. -/
def changed (s : Watching) (i : Incident) : Workspace :=
  { s.workspace with files := i.change s.workspace.files, links := i.relink s.workspace.links }

/-- What becomes of a handler and its workspace by an incident; `handOn` is what is done with the profiles. -/
def after (handOn : Text → Option Held → Work Unit) (s : Watching) (i : Incident) : Watching :=
  { handler := (s.handler.react i.time i.event).1
    workspace := ((carryOut (s.handler.react i.time i.event).2 handOn).on (s.changed i)).2 }

/-- What becomes of them by some incidents in turn. -/
def afterAll (handOn : Text → Option Held → Work Unit) (s : Watching) (incidents : List Incident) :
    Watching :=
  incidents.foldl (after handOn) s

/-- Whether the registry is told of a file by an incident. -/
def isTold (s : Watching) (i : Incident) : Bool := !(s.handler.react i.time i.event).2.notices.isEmpty

/-- Whether an incident reaches a project: the registry is told of a path that leads to its ignore file. -/
def isReached (root : Path) (s : Watching) (i : Incident) : Bool :=
  (s.handler.react i.time i.event).2.notices.any (leadsToFile (s.changed i) root)

/-- The incidents that are picked out, each with the workspace in which it is met. -/
def met (handOn : Text → Option Held → Work Unit) (picks : Watching → Incident → Bool) (s : Watching) :
    List Incident → List (Workspace × Incident)
  | [] => []
  | i :: rest => (if picks s i then [(s.changed i, i)] else []) ++ met handOn picks (s.after handOn i) rest

/-- The workspace in which the last incident that is picked out was met, if there was one. -/
def lastMet (handOn : Text → Option Held → Work Unit) (picks : Watching → Incident → Bool) (s : Watching)
    (incidents : List Incident) : Option Workspace :=
  (s.met handOn picks incidents).getLast?.map (·.1)

/-- The time when the registry was last told that the file of a path was created, modified or deleted. -/
def lastTime (handOn : Text → Option Held → Work Unit) (s : Watching) (incidents : List Incident)
    (path : Text) : Time :=
  (((s.met handOn isTold incidents).filter (·.2.event.isChangeOf path)).getLast?.map (·.2.time)).getD
    (s.handler.lastChange path)

/-- Something holds of every event of some incidents in turn, and of the workspace in which it is met. -/
def Along (handOn : Text → Option Held → Work Unit) (Meets : Workspace → Event → Prop) (s : Watching) :
    List Incident → Prop
  | [] => True
  | i :: rest => Meets (s.changed i) i.event ∧ Along handOn Meets (s.after handOn i) rest

end Watching

/-- A text is named like the ignore file, whatever it leads to. -/
def NamesFile (w : Workspace) (path : Text) : Prop := (Path.ofText path).name = w.loader.fileName

/-- A text leads somewhere, but not to an ignore file of a known project that is still there. -/
def IsGone (w : Workspace) (path : Text) : Prop :=
  ∃ full, w.resolve (Path.ofText path) = .ok full ∧ ∀ root, IsFileOf w root full →
    w.registry.isKnown root = true → w.files.holds (w.loader.pathIn root) = .ok false

/-- An event that is about the ignore file of a project: a file that is named like it was created, modified or
deleted, or moved to or from such a name; and what was moved to the ignore file is gone from where it was. -/
inductive IsAbout (w : Workspace) (root : Path) : Event → Prop where
  | changed {change : Change} {source : Text} (hchange : change.isMove = false)
    (hnames : NamesFile w source) : IsAbout w root { change := change, source := source }
  | moved {source target : Text} (hnames : NamesFile w source ∨ NamesFile w target ∧ target ≠ source)
    (hgone : target ≠ source → leadsToFile w root target = true → IsGone w source) :
    IsAbout w root { change := .moved target, source := source }

/-- Nothing is in the way of loading: no report is written to the ignore file of a project. -/
def Undisturbed (w : Workspace) : Prop :=
  ∀ root, w.registry.isKnown root = true → w.ReportsAside root

/-- What is done with a profile that is handed on: something may be put out. -/
def PutsOut (handOn : Text → Option Held → Work Unit) : Prop :=
  ∀ path held w, ∃ output, (handOn path held).on w = (.ok (), { w with output := output })

/-! ## 2. The handler -/

namespace Handler

variable (h : Handler) (now : Time) (event : Event)

/-- What a handler keeps of an event: the time of it, if the registry is told that a file was created, modified
or deleted. -/
theorem react_fst : (h.react now event).1 =
    if !(h.react now event).2.notices.isEmpty && !event.change.isMove then
      { h with last := h.last.put (key event.source) now }
    else h := by
  obtain ⟨change, source, isFolder⟩ := event
  cases change with
  | moved target =>
    rw [Change.isMove, Bool.not_true, Bool.and_false]
    rfl
  | created | modified | deleted =>
    simp only [react, reactToChange]
    split
    · rfl
    · split <;> rfl

@[simp] theorem fileName_react : (h.react now event).1.fileName = h.fileName := by
  rw [react_fst]
  split <;> rfl

@[simp] theorem debounce_react : (h.react now event).1.debounce = h.debounce := by
  rw [react_fst]
  split <;> rfl

theorem lastChange_react (path : Text) : (h.react now event).1.lastChange path =
    if !(h.react now event).2.notices.isEmpty && event.isChangeOf path then now else h.lastChange path := by
  rw [react_fst, Event.isChangeOf, ← Bool.and_assoc]
  cases !(h.react now event).2.notices.isEmpty && !event.change.isMove with
  | false => rfl
  | true =>
    rw [if_pos rfl, Bool.true_and, lastChange, lastChange, Table.get?_put]
    by_cases hkey : key path = key event.source
    · rw [if_pos hkey, if_pos (beq_iff_eq.mpr hkey.symm), Option.getD_some]
    · rw [if_neg hkey, if_neg fun hsame => hkey (beq_iff_eq.mp hsame).symm]

/-- What the registry is told of because a file was created, modified or deleted. -/
theorem notices_of_change {change : Change} {path : Text} (hchange : change.isMove = false) :
    (h.react now { change := change, source := path }).2.notices =
      if h.isConcerned path && !h.isEarly now path then [path] else [] := by
  cases change with
  | moved target => cases hchange
  | created | modified | deleted =>
    simp only [react, reactToChange, Bool.false_or]
    cases h.isConcerned path with
    | false => rfl
    | true => cases h.isEarly now path <;> rfl

theorem notices_of_move (path target : Text) :
    (h.react now { change := .moved target, source := path }).2.notices =
      (if h.isConcerned path then [path] else []) ++
        (if h.isConcerned target && target != path then [target] else []) := rfl

/-- The registry is told only of paths that the event names. -/
theorem mem_paths_of_notices {path : Text} (hnotice : path ∈ (h.react now event).2.notices) :
    path ∈ event.paths := by
  obtain ⟨change, source, isFolder⟩ := event
  cases change with
  | moved target =>
    simp only [react, reactToMove] at hnotice
    split at hnotice
    · cases hnotice
    · simp only [List.mem_append, List.mem_ite_nil_right, List.mem_singleton] at hnotice
      simp only [Event.paths, List.mem_cons, List.not_mem_nil, or_false]
      exact hnotice.imp And.right And.right
  | created | modified | deleted =>
    simp only [react, reactToChange] at hnotice
    split at hnotice
    · cases hnotice
    · split at hnotice
      · cases hnotice
      · exact hnotice

end Handler

theorem isConcerned_iff {w : Workspace} {h : Handler} (hname : h.fileName = w.loader.fileName) {path : Text} :
    h.isConcerned path = true ↔ NamesFile w path := by
  rw [Handler.isConcerned, beq_iff_eq, hname, NamesFile]

theorem leadsToFile_iff {w : Workspace} {root : Path} {path : Text} :
    leadsToFile w root path = true ↔
      ∃ full, w.resolve (Path.ofText path) = .ok full ∧ IsFileOf w root full := by
  rw [leadsToFile]
  cases w.resolve (Path.ofText path) <;> simp [Except.toOption]

/-- Where a text leads is decided by how paths are resolved. -/
theorem leadsToFile_congr {w w' : Workspace} (hresolve : ∀ p, w'.resolve p = w.resolve p)
    (hloader : w'.loader = w.loader) (root : Path) (path : Text) :
    leadsToFile w' root path = leadsToFile w root path := by
  rw [Bool.eq_iff_iff, leadsToFile_iff, leadsToFile_iff, hresolve]
  simp only [IsFileOf, hloader]

/-! ## 3. Telling the registry -/

section telling

variable {handOn : Text → Option Held → Work Unit}

/-- To tell the registry of a file, and to hand on what comes of it. -/
def tell (handOn : Text → Option Held → Work Unit) (path : Text) : Work Unit := do
  handOn path (← Work.notify (Path.ofText path))

theorem on_carryOut (reaction : Reaction) (w : Workspace) :
    (carryOut reaction handOn).on w =
      (reaction.notices.forM (tell handOn)).on (w.reportedAll reaction.records) := by
  rw [carryOut, Work.on_bind, Work.on_reportAll]
  rfl

theorem on_tell_cons (path : Text) (paths : List Text) (w : Workspace) :
    ((path :: paths).forM (tell handOn)).on w =
      match (tell handOn path).on w with
      | (.ok _, w') => (paths.forM (tell handOn)).on w'
      | (.error fault, w') => (.error fault, w') := by
  show (tell handOn path >>= fun _ => paths.forM (tell handOn)).on w = _
  rw [Work.on_bind]
  cases (tell handOn path).on w with
  | mk result w' => cases result <;> rfl

variable (hhand : PutsOut handOn)
include hhand

/-- Telling of a file comes to the notice, but for the output. -/
theorem on_tell (path : Text) (w : Workspace) :
    ∃ output, (tell handOn path).on w =
      (((Work.notify (Path.ofText path)).on w).1.map fun _ => (),
        { ((Work.notify (Path.ofText path)).on w).2 with output := output }) := by
  rw [tell, Work.on_bind]
  cases (Work.notify (Path.ofText path)).on w with
  | mk result w' =>
    cases result with
    | error fault => exact ⟨w'.output, rfl⟩
    | ok held =>
      obtain ⟨output, houtput⟩ := hhand path held w'
      exact ⟨output, houtput⟩

/-- What notices keep, and reports and the output cannot touch, is kept when a reaction is carried out. -/
theorem carryOut_keeps {Keeps : Workspace → Prop}
    (hreports : ∀ w rs, Keeps w → Keeps (w.reportedAll rs))
    (hnotify : ∀ w file, Keeps w → Keeps ((Work.notify file).on w).2)
    (houtput : ∀ w output, Keeps w → Keeps { w with output := output }) (reaction : Reaction)
    {w : Workspace} (h : Keeps w) : Keeps ((carryOut reaction handOn).on w).2 := by
  rw [on_carryOut]
  have hstart := hreports w reaction.records h
  generalize w.reportedAll reaction.records = w' at hstart
  generalize reaction.notices = paths
  induction paths generalizing w' with
  | nil => exact hstart
  | cons path paths ih =>
    obtain ⟨output, htell⟩ := on_tell hhand path w'
    have hkept := houtput _ output (hnotify w' (Path.ofText path) hstart)
    rw [on_tell_cons, htell]
    cases ((Work.notify (Path.ofText path)).on w').1 with
    | error fault => exact hkept
    | ok held => exact ih _ hkept

end telling

/-! ## 4. What is kept whatever happens -/

/-- A project is known by its settings to a workspace with tickets in order, which reads and writes like
another one. -/
structure Registered (root : Path) (config : Config) (start w : Workspace) : Prop where
  ordered : w.registry.Ordered
  known : w.registry.configs.get? root = some config
  loader : w.loader = start.loader
  writer : w.writer = start.writer

namespace Registered

variable {root : Path} {config : Config} {start w : Workspace}

theorem isKnown (h : Registered root config start w) : w.registry.isKnown root = true := by
  rw [Registry.isKnown, Table.contains, h.known]
  rfl

theorem configFor (h : Registered root config start w) : w.registry.configFor root = config := by
  rw [Registry.configFor, h.known, Option.getD_some]

theorem reportedAll (h : Registered root config start w) (rs : List Log.Record) :
    Registered root config start (w.reportedAll rs) where
  ordered := (Workspace.reportedAll_registry w rs).symm ▸ h.ordered
  known := (Workspace.reportedAll_registry w rs).symm ▸ h.known
  loader := (AfterReports.reportedAll w rs).loader.trans h.loader
  writer := (Workspace.reportedAll_writer w rs).trans h.writer

theorem notify (h : Registered root config start w) (file : Path) :
    Registered root config start ((Work.notify file).on w).2 where
  ordered := Work.notify_ordered file h.ordered
  known := Work.notify_configs file h.ordered h.known
  loader := (Work.view_notify (·.loader) (fun _ _ _ _ _ => rfl) file w).trans h.loader
  writer := (Work.view_notify (·.writer) (fun _ _ _ _ _ => rfl) file w).trans h.writer

theorem output (h : Registered root config start w) (output : List Output) :
    Registered root config start { w with output := output } := ⟨h.ordered, h.known, h.loader, h.writer⟩

theorem changed {s : Watching} (h : Registered root config start s.workspace) (i : Incident) :
    Registered root config start (s.changed i) := ⟨h.ordered, h.known, h.loader, h.writer⟩

end Registered

/-- Whatever happens to files, a project stays known by its settings. -/
theorem after_registered {handOn : Text → Option Held → Work Unit} (hhand : PutsOut handOn) {root : Path}
    {config : Config} {start : Workspace} {s : Watching} (h : Registered root config start s.workspace)
    (i : Incident) : Registered root config start (s.after handOn i).workspace :=
  carryOut_keeps hhand (fun _ rs h => h.reportedAll rs) (fun _ file h => h.notify file)
    (fun _ output h => h.output output) _ (h.changed i)

/-! ## 5. Events that count -/

/-- The published profile of a project. -/
def profile? (w : Workspace) (root : Path) : Option Profile := (w.registry.get? root).map (·.profile)

theorem profile?_publishedNow {w w' : Workspace} {root : Path} {config : Config} {p : Profile}
    {record : Export.RecordId} (h : w'.registry = w.registry.publishedNow root config p record) :
    profile? w' root = some p := by
  rw [profile?, h, Registry.get?_publishedNow, if_pos rfl]
  rfl

/-- A file that is gone has nothing in it that could be used. -/
theorem loaded_of_gone {w : Workspace} {root : Path}
    (hgone : w.files.holds (w.loader.pathIn root) = .ok false) (config : Config) :
    ∃ p, w.loaded root config = .ok p ∧ p.isUsable = false := by
  cases huse : config.useIgnoreFile with
  | false =>
    let task : Task := { text := none, config := config, root := root }
    have hmaking : w.makingOf root config = .ok (.compiling task) := by
      rw [Workspace.makingOf, huse]
      rfl
    have hcompile : task.compile.outcome = .ok task.blank := by
      have huse' : task.config.useIgnoreFile = false := huse
      rw [Task.compile, huse']
      rfl
    refine ⟨task.blank, ?_, rfl⟩
    rw [Workspace.loaded, hmaking]
    exact congrArg (Except.mapError (Fault.expression [])) hcompile
  | true =>
    let message := Text.ofString "Not exist git ignore file: " ++ (w.loader.pathIn root).render
    have htext : w.loader.readText w.files (w.loader.pathIn root) = .ok (.error message) := by
      rw [Loader.readText, hgone]
      rfl
    have hread : w.loader.read w.files root = .ok (.problem message) := by
      unfold Loader.read
      rw [htext]
    refine ⟨w.unread root config message, ?_, rfl⟩
    rw [Workspace.loaded, Workspace.makingOf, if_pos huse, hread]
    rfl

section notices

variable {handOn : Text → Option Held → Work Unit} {w w' : Workspace} {root : Path} {config : Config}
  {p : Profile} {path : Text}

/-- A notice about the ignore file of a project publishes what loading it came to before any report. -/
theorem notify_names (hquiet : Undisturbed w) (hafter : AfterReports w w')
    (hregistered : Registered root config w w') (hroot : w.registry.isKnown root = true)
    (hleads : leadsToFile w root path = true) (hloaded : w.loaded root config = .ok p) :
    profile? ((Work.notify (Path.ofText path)).on w').2 root = some p := by
  obtain ⟨full, hfull, hname, hparent⟩ := leadsToFile_iff.mp hleads
  obtain ⟨record, hregistry⟩ := Work.notify_publishes (Path.ofText path) hregistered.ordered
    ((hafter.resolve _).trans hfull) (hafter.loader.symm ▸ hname) hparent hregistered.known fun r =>
      ((hafter.trans (.reported w' r)).loaded (hquiet root hroot) config).trans hloaded
  exact profile?_publishedNow hregistry

/-- A notice about a path that leads elsewhere leaves the profile of a project alone. -/
theorem profile?_notify (hordered : w.registry.Ordered) (helsewhere : leadsToFile w root path = false) :
    profile? ((Work.notify (Path.ofText path)).on w).2 root = profile? w root := by
  rw [profile?, Work.notify_other (Path.ofText path) hordered fun full hfull hfile => ?_, profile?]
  rw [leadsToFile_iff.mpr ⟨full, hfull, hfile⟩] at helsewhere
  cases helsewhere

/-- Notices leave it as it is where paths lead. -/
theorem leadsToFile_notify (hwriter : ∀ tree path content, (w.writer tree path content).1.here = tree.here)
    (file : Path) (path : Text) :
    leadsToFile ((Work.notify file).on w).2 root path = leadsToFile w root path := by
  refine leadsToFile_congr (fun q => ?_) (Work.view_notify (·.loader) (fun _ _ _ _ _ => rfl) file w) root path
  rw [Workspace.resolve, Workspace.resolve, Work.here_notify hwriter file,
    Work.view_notify (·.links) (fun _ _ _ _ _ => rfl) file w]

variable (hhand : PutsOut handOn)
include hhand

/-- What is published after telling of one file is what the notice published. -/
theorem profile?_tell (path : Text) (w : Workspace) :
    profile? (([path].forM (tell handOn)).on w).2 root =
      profile? ((Work.notify (Path.ofText path)).on w).2 root := by
  obtain ⟨output, htell⟩ := on_tell hhand path w
  rw [on_tell_cons, htell]
  cases ((Work.notify (Path.ofText path)).on w).1 <;> rfl

/-- To tell of paths that lead elsewhere leaves the profile of a project alone. -/
theorem profile?_forM_tell {paths : List Text} (hordered : w.registry.Ordered)
    (hwriter : ∀ tree path content, (w.writer tree path content).1.here = tree.here)
    (helsewhere : ∀ path ∈ paths, leadsToFile w root path = false) :
    profile? ((paths.forM (tell handOn)).on w).2 root = profile? w root := by
  induction paths generalizing w with
  | nil => rfl
  | cons path paths ih =>
    obtain ⟨hpath, hpaths⟩ := List.forall_mem_cons.mp helsewhere
    have hstays := profile?_notify hordered hpath
    have hordered' := Work.notify_ordered (Path.ofText path) hordered
    have hwriter' := Work.view_notify (·.writer) (fun _ _ _ _ _ => rfl) (Path.ofText path) w
    have hleads (q : Text) :
        leadsToFile ((Work.notify (Path.ofText path)).on w).2 root q = leadsToFile w root q :=
      leadsToFile_notify hwriter (Path.ofText path) q
    obtain ⟨output, htell⟩ := on_tell hhand path w
    rw [on_tell_cons, htell]
    generalize (Work.notify (Path.ofText path)).on w = notified at hstays hordered' hwriter' hleads ⊢
    obtain ⟨result, w'⟩ := notified
    cases result with
    | error fault => exact hstays
    | ok held =>
      refine (ih (w := { w' with output := output }) hordered' ?_ fun other hother => ?_).trans hstays
      · rw [show w'.writer = w.writer from hwriter']
        exact hwriter
      · exact (hleads other).trans (hpaths other hother)

variable (hquiet : Undisturbed w) (hafter : AfterReports w w') (hregistered : Registered root config w w')
  (hroot : w.registry.isKnown root = true)
include hquiet hafter hregistered hroot

/-- Telling of the ignore file of a project and then of another file publishes what loading the project came
to. -/
theorem tell_names_other (hwriter : ∀ tree path content, (w.writer tree path content).1.here = tree.here)
    (hleads : leadsToFile w root path = true) {other : Text} (hother : leadsToFile w root other = false)
    (hloaded : w.loaded root config = .ok p) :
    profile? (([path, other].forM (tell handOn)).on w').2 root = some p := by
  have hpublished := notify_names hquiet hafter hregistered hroot hleads hloaded
  have hkept := hregistered.notify (Path.ofText path)
  have hother' : leadsToFile ((Work.notify (Path.ofText path)).on w').2 root other = false := by
    rw [leadsToFile_notify (hregistered.writer.symm ▸ hwriter), leadsToFile_congr hafter.resolve hafter.loader,
      hother]
  obtain ⟨output, htell⟩ := on_tell hhand path w'
  rw [on_tell_cons, htell]
  generalize (Work.notify (Path.ofText path)).on w' = notified at hpublished hkept hother' ⊢
  obtain ⟨result, w''⟩ := notified
  cases result with
  | error fault => exact hpublished
  | ok held =>
    show profile? (([other].forM (tell handOn)).on { w'' with output := output }).2 root = some p
    rw [profile?_tell hhand, profile?_notify (hkept.output output).ordered hother']
    exact hpublished

/-- Telling of a file that is gone and then of the ignore file of a project publishes what loading the project
came to. -/
theorem tell_gone_names (hregistry : w'.registry = w.registry) {gone : Text} (hgone : IsGone w gone)
    (hleads : leadsToFile w root path = true) (hloaded : w.loaded root config = .ok p) :
    profile? (([gone, path].forM (tell handOn)).on w').2 root = some p := by
  have hends : ∃ held w'', (Work.notify (Path.ofText gone)).on w' = (.ok held, w'') ∧ AfterReports w' w'' := by
    obtain ⟨full, hfull, hgone⟩ := hgone
    refine Work.notify_gone ((hafter.resolve _).trans hfull) ?_
    rw [hafter.loader, hregistry]
    intro hname hknown r
    obtain ⟨profile, hprofile, hunusable⟩ := loaded_of_gone (hgone _ ⟨hname, rfl⟩ hknown) _
    exact ⟨profile,
      ((hafter.trans (.reported w' r)).loaded (hquiet _ hknown) _).trans hprofile, hunusable⟩
  obtain ⟨held, w'', hnotify, hafter'⟩ := hends
  obtain ⟨output, htell⟩ := on_tell hhand gone w'
  have hkept := hregistered.notify (Path.ofText gone)
  rw [hnotify] at htell hkept
  rw [on_tell_cons, htell]
  show profile? (([path].forM (tell handOn)).on { w'' with output := output }).2 root = some p
  rw [profile?_tell hhand]
  exact notify_names hquiet ((hafter.trans hafter').trans (.of_same rfl rfl rfl rfl rfl))
    (hkept.output output) hroot hleads hloaded

end notices

section reactions

variable {handOn : Text → Option Held → Work Unit} {w : Workspace} {root : Path} {h : Handler} {now : Time}
  {event : Event} (hhand : PutsOut handOn)
  (hwriter : ∀ tree path content, (w.writer tree path content).1.here = tree.here)
include hhand hwriter

/-- A reaction that does not reach a project leaves its profile alone. -/
theorem stays_of_unreached (hordered : w.registry.Ordered)
    (hunreached : (h.react now event).2.notices.any (leadsToFile w root) = false) :
    profile? ((carryOut (h.react now event).2 handOn).on w).2 root = profile? w root := by
  generalize (h.react now event).2 = reaction at hunreached ⊢
  have hafter := AfterReports.reportedAll w reaction.records
  have hregistry := Workspace.reportedAll_registry w reaction.records
  have hsame := Workspace.reportedAll_writer w reaction.records
  rw [on_carryOut]
  generalize w.reportedAll reaction.records = w' at hafter hregistry hsame ⊢
  rw [profile?_forM_tell hhand (hregistry.symm ▸ hordered) (hsame.symm ▸ hwriter), profile?, hregistry, profile?]
  intro path hpath
  rw [leadsToFile_congr hafter.resolve hafter.loader]
  exact Bool.eq_false_iff.mpr (List.any_eq_false.mp hunreached path hpath)

/-- If an event about the ignore file of a project reaches the project, what loading it comes to is
published. -/
theorem publishes_of_reached {config : Config} {p : Profile} (hquiet : Undisturbed w)
    (hregistered : Registered root config w w) (habout : IsAbout w root event)
    (hreached : (h.react now event).2.notices.any (leadsToFile w root) = true)
    (hloaded : w.loaded root config = .ok p) :
    profile? ((carryOut (h.react now event).2 handOn).on w).2 root = some p := by
  have hroot := hregistered.isKnown
  have hafter := AfterReports.reportedAll w (h.react now event).2.records
  have hstart := hregistered.reportedAll (h.react now event).2.records
  have hregistry := Workspace.reportedAll_registry w (h.react now event).2.records
  rw [on_carryOut]
  generalize w.reportedAll (h.react now event).2.records = w' at hafter hstart hregistry ⊢
  cases habout with
  | changed hchange hnames =>
    rw [Handler.notices_of_change h now hchange] at hreached ⊢
    split at hreached
    · next hcounts =>
      rw [if_pos hcounts, profile?_tell hhand]
      exact notify_names hquiet hafter hstart hroot (by simpa using hreached) hloaded
    · cases hreached
  | @moved source target _ hgone =>
    rw [Handler.notices_of_move, List.any_append, Bool.or_eq_true] at hreached
    rw [Handler.notices_of_move]
    cases htarget : leadsToFile w root target with
    | true =>
      by_cases htold : (h.isConcerned target && target != source) = true
      · have hne : target ≠ source := bne_iff_ne.mp (Bool.and_eq_true_iff.mp htold).2
        rw [if_pos htold]
        split
        · exact tell_gone_names hhand hquiet hafter hstart hroot hregistry (hgone hne htarget) htarget hloaded
        · rw [List.nil_append, profile?_tell hhand]
          exact notify_names hquiet hafter hstart hroot htarget hloaded
      · rw [if_neg htold, List.any_nil, or_iff_left Bool.false_ne_true] at hreached
        rw [if_neg htold, List.append_nil]
        split at hreached
        · next hsource =>
          rw [if_pos hsource, profile?_tell hhand]
          exact notify_names hquiet hafter hstart hroot (by simpa using hreached) hloaded
        · cases hreached
    | false =>
      have hsource : h.isConcerned source = true ∧ leadsToFile w root source = true := by
        rcases hreached with hreached | hreached
        · split at hreached
          · next hsource => exact ⟨hsource, by simpa using hreached⟩
          · cases hreached
        · split at hreached
          · simp [htarget] at hreached
          · cases hreached
      rw [if_pos hsource.1]
      split
      · exact tell_names_other hhand hquiet hafter hstart hroot hwriter hsource.2 htarget hloaded
      · rw [List.append_nil, profile?_tell hhand]
        exact notify_names hquiet hafter hstart hroot hsource.2 hloaded

end reactions

/-- The registry is told of an event about an ignore file unless that comes too soon after the last one; of a
file that was moved it is told at any time. -/
theorem told_iff_of_about {h : Handler} {now : Time} {event : Event} {w : Workspace} {root : Path}
    (hname : h.fileName = w.loader.fileName) (habout : IsAbout w root event) :
    (h.react now event).2.notices ≠ [] ↔
      event.change.isMove = true ∨ h.debounce ≤ Time.elapsed (h.lastChange event.source) now := by
  cases habout with
  | @changed change source hchange hnames =>
    have hlate : h.isEarly now source = false ↔ h.debounce ≤ Time.elapsed (h.lastChange source) now := by
      rw [Handler.isEarly, decide_eq_false_iff_not, Rat.not_lt]
    rw [Handler.notices_of_change h now hchange, (isConcerned_iff hname).mpr hnames, Bool.true_and, hchange,
      ← hlate]
    cases h.isEarly now source <;> simp
  | moved hnames _ =>
    rw [Handler.notices_of_move]
    rcases hnames with hnames | ⟨hnames, hne⟩
    · rw [(isConcerned_iff hname).mpr hnames]
      exact iff_of_true (List.append_ne_nil_of_left_ne_nil (List.cons_ne_nil _ _) _) (.inl rfl)
    · rw [(isConcerned_iff hname).mpr hnames, bne_iff_ne.mpr hne]
      exact iff_of_true (List.append_ne_nil_of_right_ne_nil _ (List.cons_ne_nil _ _)) (.inl rfl)

/-! ## 6. Incidents in turn -/

/-- After some incidents, what is published of a project is what loading it, by its settings, came to when an
event last reached it. -/
structure Follows (handOn : Text → Option Held → Work Unit) (s : Watching) (root : Path)
    (incidents : List Incident) : Prop where
  config : (s.afterAll handOn incidents).workspace.registry.configFor root =
    s.workspace.registry.configFor root
  /-- The registry is told of every event but those that come too soon. -/
  told : ∀ earlier i later, incidents = earlier ++ i :: later →
    ((s.afterAll handOn earlier).isTold i = true ↔ i.event.change.isMove = true ∨
      s.handler.debounce ≤ Time.elapsed (s.lastTime handOn earlier i.event.source) i.time)
  /-- If it was never told of any file, nothing has become of it. -/
  untold : s.lastMet handOn Watching.isTold incidents = none →
    (s.afterAll handOn incidents).workspace.registry = s.workspace.registry
  /-- If no event led to the ignore file of the project, its profile is what it was. -/
  unreached : s.lastMet handOn (Watching.isReached root) incidents = none →
    profile? (s.afterAll handOn incidents).workspace root = profile? s.workspace root
  /-- So it is if the paths of all events lead to other files, as those of an ignore file that is a link do. -/
  linked : s.Along handOn (fun w event => ∀ path ∈ event.paths, leadsToFile w root path = false) incidents →
    profile? (s.afterAll handOn incidents).workspace root = profile? s.workspace root
  published : ∀ w p, s.lastMet handOn (Watching.isReached root) incidents = some w →
    w.loaded root (s.workspace.registry.configFor root) = .ok p →
      profile? (s.afterAll handOn incidents).workspace root = some p

section runs

variable {handOn : Text → Option Held → Work Unit} {s : Watching}

theorem isTold_iff {i : Incident} : s.isTold i = true ↔ (s.handler.react i.time i.event).2.notices ≠ [] := by
  rw [Watching.isTold, Bool.not_eq_true', List.isEmpty_eq_false_iff]

theorem lastMet_cons (picks : Watching → Incident → Bool) (i : Incident) (incidents : List Incident) :
    s.lastMet handOn picks (i :: incidents) =
      ((s.after handOn i).lastMet handOn picks incidents).or (if picks s i then some (s.changed i) else none) := by
  rw [Watching.lastMet, Watching.met, List.getLast?_append, Option.map_or]
  cases picks s i <;> rfl

/-- A handler keeps the time when the registry was last told that a file was created, modified or deleted. -/
theorem lastChange_afterAll (incidents : List Incident) (path : Text) :
    (s.afterAll handOn incidents).handler.lastChange path = s.lastTime handOn incidents path := by
  induction incidents generalizing s with
  | nil => rfl
  | cons i incidents ih =>
    have hstep : (s.after handOn i).handler.lastChange path =
        if s.isTold i && i.event.isChangeOf path then i.time else s.handler.lastChange path :=
      Handler.lastChange_react ..
    refine (ih (s := s.after handOn i)).trans ?_
    rw [Watching.lastTime, Watching.lastTime, hstep, Watching.met, List.filter_append,
      List.getLast?_append, Option.map_or, Option.getD_or]
    cases s.isTold i with
    | false => rfl
    | true =>
      rw [if_pos rfl, Bool.true_and, List.filter_singleton]
      cases i.event.isChangeOf path <;> rfl

theorem debounce_afterAll (incidents : List Incident) :
    (s.afterAll handOn incidents).handler.debounce = s.handler.debounce := by
  induction incidents generalizing s with
  | nil => rfl
  | cons i incidents ih => exact ih.trans (Handler.debounce_react ..)

theorem fileName_afterAll (incidents : List Incident) :
    (s.afterAll handOn incidents).handler.fileName = s.handler.fileName := by
  induction incidents generalizing s with
  | nil => rfl
  | cons i incidents ih => exact ih.trans (Handler.fileName_react ..)

/-- What holds along some incidents holds of each of them. -/
theorem along_append_cons {Meets : Workspace → Event → Prop} {earlier later : List Incident} {i : Incident}
    (h : s.Along handOn Meets (earlier ++ i :: later)) :
    Meets ((s.afterAll handOn earlier).changed i) i.event := by
  induction earlier generalizing s with
  | nil => exact h.1
  | cons first earlier ih => exact ih h.2

/-- If the registry is not told of any file, nothing becomes of it. -/
theorem registry_after {i : Incident} (htold : s.isTold i = false) :
    (s.after handOn i).workspace.registry = s.workspace.registry := by
  have hnone : (s.handler.react i.time i.event).2.notices = [] := by
    by_contra h
    rw [isTold_iff.mpr h] at htold
    cases htold
  show ((carryOut _ handOn).on (s.changed i)).2.registry = _
  rw [on_carryOut, hnone]
  exact Workspace.reportedAll_registry _ _

theorem registry_afterAll {incidents : List Incident}
    (hnone : s.lastMet handOn Watching.isTold incidents = none) :
    (s.afterAll handOn incidents).workspace.registry = s.workspace.registry := by
  induction incidents generalizing s with
  | nil => rfl
  | cons i incidents ih =>
    rw [lastMet_cons, Option.or_eq_none_iff] at hnone
    obtain ⟨hlater, hnow⟩ := hnone
    have htold : s.isTold i = false := by
      cases htold : s.isTold i with
      | false => rfl
      | true => rw [htold] at hnow; cases hnow
    exact (ih hlater).trans (registry_after htold)

/-- Events whose paths lead to other files do not reach a project. -/
theorem lastMet_of_linked {root : Path} {incidents : List Incident} (hlinked : s.Along handOn
      (fun w event => ∀ path ∈ event.paths, leadsToFile w root path = false) incidents) :
    s.lastMet handOn (Watching.isReached root) incidents = none := by
  induction incidents generalizing s with
  | nil => rfl
  | cons i incidents ih =>
    obtain ⟨helsewhere, hrest⟩ := hlinked
    have hunreached : s.isReached root i = false := by
      refine List.any_eq_false.mpr fun path hpath => ?_
      rw [helsewhere path (Handler.mem_paths_of_notices _ _ _ hpath)]
      exact Bool.false_ne_true
    rw [lastMet_cons, ih hrest, hunreached]
    rfl

variable (hhand : PutsOut handOn) {start : Workspace} {root : Path} {config : Config}
  (hregistered : Registered root config start s.workspace)
include hhand hregistered

theorem afterAll_registered (incidents : List Incident) :
    Registered root config start (s.afterAll handOn incidents).workspace := by
  induction incidents generalizing s with
  | nil => exact hregistered
  | cons i incidents ih => exact ih (after_registered hhand hregistered i)

/-- If no event reaches a project, its profile stays; else what is published in the end is what loading the
project came to when it was last reached. -/
theorem afterAll_publishes
    (hwriter : ∀ tree path content, (start.writer tree path content).1.here = tree.here)
    {incidents : List Incident}
    (hmeets : s.Along handOn (fun w event => Undisturbed w ∧ IsAbout w root event) incidents) :
    match s.lastMet handOn (Watching.isReached root) incidents with
    | none => profile? (s.afterAll handOn incidents).workspace root = profile? s.workspace root
    | some w => ∀ p, w.loaded root config = .ok p →
      profile? (s.afterAll handOn incidents).workspace root = some p := by
  induction incidents generalizing s with
  | nil => rfl
  | cons i incidents ih =>
    obtain ⟨⟨hquiet, habout⟩, hrest⟩ := hmeets
    have hlast := ih (after_registered hhand hregistered i) hrest
    have hchanged := hregistered.changed i
    rw [lastMet_cons]
    cases hlater : (s.after handOn i).lastMet handOn (Watching.isReached root) incidents with
    | some w =>
      rw [hlater] at hlast
      exact hlast
    | none =>
      rw [hlater] at hlast
      cases hreached : s.isReached root i with
      | false =>
        have hstays : profile? (s.after handOn i).workspace root = profile? (s.changed i) root :=
          stays_of_unreached hhand (hchanged.writer.symm ▸ hwriter) hchanged.ordered hreached
        exact hlast.trans hstays
      | true =>
        intro p hloaded
        have hpublished : profile? (s.after handOn i).workspace root = some p :=
          publishes_of_reached hhand (hchanged.writer.symm ▸ hwriter) hquiet
            ⟨hchanged.ordered, hchanged.known, rfl, rfl⟩ habout hreached hloaded
        exact hlast.trans hpublished

end runs

/-! ## 7. A file that is saved -/

/-- Reports that are not stored are out of the way. -/
theorem undisturbed_of_no_sink {w : Workspace} (hsink : w.logging.file = none) : Undisturbed w :=
  fun root _ rs => by rw [Workspace.files_reportedAll_of_no_sink rs hsink]

/-- The text of the path of an ignore file. -/
def savedPath : Text := Text.ofString "/w/p/.gitignore"

/-- An ignore file is written to in place. -/
def Incident.saved (text : String) (time : Time) : Incident where
  change tree := (tree.ensureFile (Path.ofText savedPath) ((Text.ofString text).flatMap Text.Utf8.bytesOf)).1
  time := time
  event := { change := .modified, source := savedPath }

/-- An ignore file is written to another file, which is then moved to its place. -/
def Incident.replaced (text : String) (time : Time) : Incident where
  change tree := (tree.ensureFile (Path.ofText savedPath) ((Text.ofString text).flatMap Text.Utf8.bytesOf)).1
  time := time
  event := { change := .moved savedPath, source := savedPath ++ [.char '~'] }

/-- A project that was compiled once, and a handler. -/
def Watching.ofProject : Watching :=
  let s := Situation.afterAll { workspace := Workspace.bare (Path.ofString "/scripts") }
    [.begin (.compile (Path.ofString "/w/p") (some ['#']) none none), .finish 0]
  { handler := { fileName := s.workspace.loader.fileName, debounce := defaultDebounce }
    workspace := s.workspace }

/-- Nothing is done with profiles. -/
def ignoring : Text → Option Held → Work Unit := fun _ _ => pure ()

theorem ignoring_putsOut : PutsOut ignoring := fun _ _ w => ⟨w.output, rfl⟩

theorem writer_ofProject : Watching.ofProject.workspace.writer = Files.Tree.ensureFile :=
  Work.view_finish (·.writer) (fun _ _ _ _ _ => rfl) _ _

/-- Whether reports are not stored, the loader reads files of the usual name, and what the ignore file is replaced
by is no ignore file. -/
def isPlain (w : Workspace) : Bool :=
  w.logging.file.isNone && w.loader.fileName == Text.ofString ".gitignore" &&
    (w.resolve (Path.ofText (savedPath ++ [.char '~']))).toOption.any (·.name != w.loader.fileName)

section plain

variable {w : Workspace} (h : isPlain w = true)
include h

theorem undisturbed_of_isPlain : Undisturbed w := by
  simp only [isPlain, Bool.and_eq_true, Option.isNone_iff_eq_none] at h
  exact undisturbed_of_no_sink h.1.1

theorem namesFile_of_isPlain : NamesFile w savedPath := by
  simp only [isPlain, Bool.and_eq_true, beq_iff_eq] at h
  rw [NamesFile, h.1.2]
  decide +kernel

theorem meets_saved (root : Path) (text : String) (time : Time) :
    Undisturbed w ∧ IsAbout w root (Incident.saved text time).event :=
  ⟨undisturbed_of_isPlain h, .changed rfl (namesFile_of_isPlain h)⟩

theorem meets_replaced (root : Path) (text : String) (time : Time) :
    Undisturbed w ∧ IsAbout w root (Incident.replaced text time).event := by
  refine ⟨undisturbed_of_isPlain h,
    .moved (.inr ⟨namesFile_of_isPlain h, by decide +kernel⟩) fun _ _ => ?_⟩
  simp only [isPlain, Bool.and_eq_true] at h
  obtain ⟨full, hfull, hname⟩ := (Option.any_eq_true _ _).mp h.2
  exact ⟨full, toOption_eq_some.mp hfull, fun other hfile => absurd hfile.1 (bne_iff_ne.mp hname)⟩

end plain

/-- A file is saved, replaced soon after that, and saved again soon after the replacement. -/
def Incident.savesAndReplacement : List Incident :=
  [.saved "*.a" 2000, .replaced "*.b" (mkRat 20002 10), .saved "*.c" (mkRat 20004 10)]

/-! ## 8. Hot reload -/

/-- **Hot reload.**  In every situation of every run, after incidents that are about the ignore file of a known
project, what is published of the project is what loading it came to when an event last reached it, that is, when
the registry was last told of a path that led to its ignore file, all links followed; and it is told of every
event but those that come too soon. -/
theorem follows_last_told {handOn : Text → Option Held → Work Unit} (hhand : PutsOut handOn)
    {defaults : Config} {start : Workspace} (hstart : start.registry = { defaultConfig := defaults })
    {s : Watching} {pending : List Request} {history : List Happening}
    (hrun : Run Workspace.Aside start { workspace := s.workspace, pending := pending, history := history })
    {root : Path} (hknown : s.workspace.registry.isKnown root = true)
    (hwriter : ∀ tree path content, (s.workspace.writer tree path content).1.here = tree.here)
    (hname : s.handler.fileName = s.workspace.loader.fileName) {incidents : List Incident}
    (hmeets : s.Along handOn (fun w event => Undisturbed w ∧ IsAbout w root event) incidents) :
    Follows handOn s root incidents := by
  obtain ⟨config, hconfig⟩ : ∃ config, s.workspace.registry.configs.get? root = some config :=
    Option.isSome_iff_exists.mp hknown
  have hregistered : Registered root config s.workspace s.workspace :=
    ⟨(hrun.tracked hstart).ordered, hconfig, rfl, rfl⟩
  have hpublishes := afterAll_publishes hhand hregistered hwriter hmeets
  have hunreached : s.lastMet handOn (Watching.isReached root) incidents = none →
      profile? (s.afterAll handOn incidents).workspace root = profile? s.workspace root := by
    intro hnone
    rw [hnone] at hpublishes
    exact hpublishes
  constructor
  case config =>
    rw [(afterAll_registered hhand hregistered incidents).configFor, hregistered.configFor]
  case told =>
    rintro earlier i later rfl
    have hloader := (afterAll_registered hhand hregistered earlier).loader
    have habout := (along_append_cons hmeets).2
    rw [isTold_iff, told_iff_of_about ((fileName_afterAll earlier).trans (hname.trans ?_)) habout,
      debounce_afterAll, lastChange_afterAll]
    exact congrArg Loader.fileName hloader.symm
  case untold => exact registry_afterAll
  case unreached => exact hunreached
  case linked => exact fun hlinked => hunreached (lastMet_of_linked hlinked)
  case published =>
    intro w p hlast hloaded
    rw [hlast] at hpublishes
    exact hpublishes p (hregistered.configFor ▸ hloaded)

/-- Of a replacement the registry is told though it comes soon, of what is saved after it not. -/
theorem follows_last_told_replaced :
    (profile? (Watching.ofProject.afterAll ignoring Incident.savesAndReplacement).workspace
      (Path.ofString "/w/p")).map (·.fragments.drop 1) = some [Text.ofString "\\.b$"] := by
  have hmeets : Watching.ofProject.Along ignoring
      (fun w event => Undisturbed w ∧ IsAbout w (Path.ofString "/w/p") event)
      Incident.savesAndReplacement :=
    ⟨meets_saved (by decide +kernel) _ _ _, meets_replaced (by decide +kernel) _ _ _,
      meets_saved (by decide +kernel) _ _ _, trivial⟩
  have hfollows := follows_last_told ignoring_putsOut rfl (Run.afterAll .start _) (by decide +kernel)
    (fun tree path content => (congrArg (fun writer => (writer tree path content).1.here)
      writer_ofProject).trans (Files.Tree.here_ensureFile tree path content)) rfl hmeets
  have hloaded : ((Watching.ofProject.lastMet ignoring (Watching.isReached (Path.ofString "/w/p"))
          Incident.savesAndReplacement).bind fun w =>
        (w.loaded (Path.ofString "/w/p") (Watching.ofProject.workspace.registry.configFor
          (Path.ofString "/w/p"))).toOption).map (·.fragments.drop 1) =
      some [Text.ofString "\\.b$"] := by
    decide +kernel
  obtain ⟨p, hp, hfragments⟩ := Option.map_eq_some_iff.mp hloaded
  obtain ⟨w, hlast, hp⟩ := Option.bind_eq_some_iff.mp hp
  have hpublished := hfollows.published w p hlast (toOption_eq_some.mp hp)
  exact (congrArg (Option.map (·.fragments.drop 1)) hpublished).trans (congrArg some hfragments)

/-- A file that is saved again too soon: what is published is not what loading it comes to. -/
theorem saved_too_soon :
    let s := Watching.ofProject.afterAll ignoring [.saved "*.a" 2000, .saved "*.b" (mkRat 20001 10)]
    Watching.ofProject.Along ignoring
      (fun w event => Undisturbed w ∧ IsAbout w (Path.ofString "/w/p") event)
      [.saved "*.a" 2000, .saved "*.b" (mkRat 20001 10)] ∧
    ∃ p, s.workspace.loaded (Path.ofString "/w/p")
        (s.workspace.registry.configFor (Path.ofString "/w/p")) = .ok p ∧
      profile? s.workspace (Path.ofString "/w/p") ≠ some p := by
  intro s
  have hloaded : (s.workspace.loaded (Path.ofString "/w/p")
      (s.workspace.registry.configFor (Path.ofString "/w/p"))).toOption.any
        (fun p => profile? s.workspace (Path.ofString "/w/p") != some p) = true := by
    decide +kernel
  obtain ⟨p, hp, hother⟩ := exists_ok _ _ hloaded
  exact ⟨⟨meets_saved (by decide +kernel) _ _ _, meets_saved (by decide +kernel) _ _ _, trivial⟩, p,
    hp, bne_iff_ne.mp hother⟩

end SkipPath.Watch
