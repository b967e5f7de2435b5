import SkipPath.Proofs.Workspace.Deed

/-!
Projects do not interfere.

A course is a run that keeps, for each step, what was met outside and what was answered.  The steps of one
project, taken out of a course, make a course again: whatever the requests of the other projects do in between,
the project is answered the same, and what there is of it in the end is the same
(`projects_do_not_interfere`).  That goes by shares: a step about another project leaves the share alone
(`Situation.share_doing_other`), and a step about the project is decided by the share (`Situation.doing_congr`).
-/

namespace SkipPath

/-! ## 1. Courses -/

/-- What the world outside may do between two steps: it leaves the registry, the records and the links alone, and
the scripts of the projects hold what they held. -/
structure Workspace.Between (roots : List Path) (w w' : Workspace) : Prop where
  registry : w'.registry = w.registry
  ledger : w'.ledger = w.ledger
  loader : w'.loader = w.loader
  links : w'.links = w.links
  scripts : w'.scripts = w.scripts
  content : ∀ root ∈ roots, ∀ shell script, w.scriptPath root shell = .ok script →
    w'.files.content? script = w.files.content? script

/-- A course of steps about some projects: what was done, met and answered, last first, and the situation that
it leads to. -/
inductive Course (roots : List Path) (start : Workspace) : List (Turn × Answer) → Situation → Prop where
  | start : Course roots start [] { workspace := start }
  | turn {log : List (Turn × Answer)} {s : Situation} {w : Workspace} (turn : Turn)
    (h : Course roots start log s) (hw : s.workspace.Between roots w) (hfits : turn.Fits w)
    (hproject : ∀ root, turn.project? = some root → root ∈ roots) :
    Course roots start
      ((turn, Situation.answer { s with workspace := w } turn.deed) :: log)
      (Situation.doing { s with workspace := w } turn.deed)

/-- The steps of one project. -/
def stepsOf (root : Path) (log : List (Turn × Answer)) : List (Turn × Answer) :=
  log.filter (·.1.concerns root)

theorem stepsOf_cons {root : Path} {turn : Turn} (h : turn.concerns root = true) (answer : Answer)
    (log : List (Turn × Answer)) :
    stepsOf root ((turn, answer) :: log) = (turn, answer) :: stepsOf root log := List.filter_cons_of_pos h

theorem stepsOf_cons_other {root : Path} {turn : Turn} (h : ¬ turn.concerns root = true) (answer : Answer)
    (log : List (Turn × Answer)) : stepsOf root ((turn, answer) :: log) = stepsOf root log :=
  List.filter_cons_of_neg h

/-- Every step leaves every profile with a record of its own. -/
theorem Situation.Step.recordsApart {s s' : Situation} (hstep : s.Step s') (h : s.workspace.RecordsApart) :
    s'.workspace.RecordsApart := by
  cases hstep with
  | quiet hw =>
    obtain ⟨rs, rfl⟩ := hw
    exact h.of_same (Workspace.reportedAll_registry _ rs) (Workspace.reportedAll_ledger _ rs)
  | begun hw =>
    obtain ⟨-, -, rs, rfl⟩ := hw
    exact h.forgetting (Workspace.reportedAll_ledger _ rs) fun root held hheld => hheld
  | @finished index request hpending =>
    have hmade : (s.workspace.reportedAll request.records).RecordsApart :=
      h.of_same (Workspace.reportedAll_registry _ _) (Workspace.reportedAll_ledger _ _)
    have hleft := Work.finish_leaves request s.workspace
    simp only
    generalize ((Work.finish request).on s.workspace).2 = left at hleft ⊢
    cases hleft with
    | faulted _ => exact hmade
    | idle _ _ r =>
      exact hmade.concluded.of_same (Workspace.reported_registry _ r) (Workspace.reported_ledger _ r)
    | exported _ _ rs =>
      exact (hmade.concluded.exported _ _).of_same (Workspace.reportedAll_registry _ rs)
        (Workspace.reportedAll_ledger _ rs)
  | exported hheld => exact h.exported _ _
  | @removed root r =>
    refine h.forgetting (Workspace.reported_ledger _ r) fun other held hheld => ?_
    rw [Workspace.reported_registry, Registry.get?_remove] at hheld
    split at hheld
    · cases hheld
    · exact hheld
  | cleared => exact h.forgetting rfl fun root held hheld => by cases hheld

/-- A workspace with an empty registry is orderly. -/
theorem Situation.Orderly.start {defaults : Config} {start : Workspace}
    (hstart : start.registry = { defaultConfig := defaults }) : Orderly defaults { workspace := start } := by
  refine ⟨.start hstart, Workspace.recordsApart_of_unpublished fun root => ?_⟩
  show start.registry.get? root = none
  rw [hstart]
  rfl

/-- Every step keeps a situation orderly. -/
theorem Situation.Orderly.step {defaults : Config} {s s' : Situation} (h : s.Orderly defaults)
    (hstep : s.Step s') : s'.Orderly defaults := ⟨h.sound.step hstep, hstep.recordsApart h.records⟩

namespace Course

variable {defaults : Config} {roots : List Path} {start : Workspace} {log : List (Turn × Answer)}
  {s : Situation}

/-- What the world outside does keeps a situation orderly. -/
theorem orderly_between {w : Workspace} (h : s.Orderly defaults) (hw : s.workspace.Between roots w) :
    Situation.Orderly defaults { s with workspace := w } where
  sound := h.sound.move (.world hw.registry)
  records := h.records.of_same hw.registry hw.ledger

theorem orderly (hstart : start.registry = { defaultConfig := defaults }) (h : Course roots start log s) :
    s.Orderly defaults := by
  induction h with
  | start => exact .start hstart
  | @turn log s w turn h hw hfits hproject ih =>
    exact (orderly_between ih hw).step (Situation.step_doing { s with workspace := w } turn.deed)

/-- The folder for scripts stays where it is, and the links and the loader stay the same. -/
theorem constant (h : Course roots start log s) :
    s.workspace.scripts = start.scripts ∧ s.workspace.links = start.links ∧
      s.workspace.loader = start.loader := by
  induction h with
  | start => exact ⟨rfl, rfl, rfl⟩
  | @turn log s w turn h hw hfits hproject ih =>
    have hstep := Situation.step_doing { s with workspace := w } turn.deed
    have hscripts := hstep.view (·.scripts) fun _ _ _ _ _ => rfl
    have hlinks := hstep.view (·.links) fun _ _ _ _ _ => rfl
    have hloader := hstep.view (·.loader) fun _ _ _ _ _ => rfl
    exact ⟨hscripts.trans (hw.scripts.trans ih.1), hlinks.trans (hw.links.trans ih.2.1),
      hloader.trans (hw.loader.trans ih.2.2)⟩

end Course

theorem Workspace.Between.share {roots : List Path} {s : Situation} {w : Workspace}
    (hw : s.workspace.Between roots w) {root : Path} (hmem : root ∈ roots) (hroot : root.anchor = .root) :
    Situation.share { s with workspace := w } root = s.share root :=
  congrArg (·, _) (Workspace.share_of_same hroot hw.registry hw.ledger hw.loader hw.links
    hw.scripts (hw.content root hmem))

/-! ## 2. Ordinary files -/

namespace Workspace

/-- What is met outside where nothing else happens to the files. -/
def surroundings (w : Workspace) (root : Path) : Surroundings where
  resolve := w.resolve
  content := w.loader.read w.files root
  trouble a := (w.writing a).2
  remains a := (w.writing a).1.content? a.script

/-- The step of a deed where nothing else happens to the files. -/
def turn (w : Workspace) (deed : Deed) : Turn :=
  { w.surroundings ((deed.project? w.resolve).getD w.files.here) with deed := deed }

/-- Reports are not stored, and scripts are written like other files, into a folder that is there. -/
structure Ordinary (w : Workspace) : Prop where
  sink : w.logging.file = none
  writer : w.writer = Files.Tree.ensureFile
  folder : w.files.lookup w.scripts = .ok .folder

theorem Ordinary.steady {w : Workspace} (h : w.Ordinary) : w.Steady where
  log r t name _ := by rw [Log.Setup.store, h.sink]
  writer name other content hname hother hne := by
    rw [h.writer]
    exact Files.Tree.content?_ensureFile_other h.folder hname hother hne content

theorem Ordinary.reportedAll {w : Workspace} (h : w.Ordinary) (rs : List Log.Record) :
    (w.reportedAll rs).Ordinary where
  sink := by rw [reportedAll_logging, h.sink]
  writer := by rw [reportedAll_writer, h.writer]
  folder := by rw [files_reportedAll_of_no_sink rs h.sink, reportedAll_scripts, h.folder]

/-- A script that was written without trouble holds what was written. -/
theorem Ordinary.writes {w : Workspace} (h : w.Ordinary) (root : Path) :
    w.Writes root (w.surroundings root) where
  trouble a _ := rfl
  left a ha := by
    unfold Surroundings.left
    split
    · next hnone =>
      have hwritten : (w.writing a).2 = none := Option.isNone_iff_eq_none.mp hnone
      obtain ⟨name, hname, hinner, -⟩ := ha.isScript.named
      rw [writing, h.writer, hname] at hwritten ⊢
      exact Files.Tree.content?_eq_some.mpr ((Files.Tree.ensureFile_lawful w.scripts).holds _ _ _ _
        hinner (Prod.ext rfl hwritten))
    · rfl

/-- In an ordinary workspace every deed is met as it is expected. -/
theorem Ordinary.fits {w : Workspace} (h : w.Ordinary) (deed : Deed) : (w.turn deed).Fits w := by
  have hfiles : ∀ rs, (w.reportedAll rs).files = w.files := fun rs =>
    files_reportedAll_of_no_sink rs h.sink
  have hproject : ∀ root, (w.turn deed).project? = some root →
      (w.turn deed).toSurroundings = w.surroundings root := by
    intro root hroot
    have hroot : deed.project? w.resolve = some root := hroot
    simp [turn, hroot]
  refine ⟨rfl, fun rs => (h.reportedAll rs).steady, fun root hroot rs => ?_, fun root hroot rs => ?_⟩
  · have hcontent := congrArg Surroundings.content (hproject root hroot)
    rw [hfiles, hcontent]
    rfl
  · rw [hproject root hroot]
    exact (h.writes root).of_same (hfiles rs) (reportedAll_links w rs) (reportedAll_writer w rs)
      (reportedAll_scripts w rs)

end Workspace

theorem Workspace.Between.refl (roots : List Path) (w : Workspace) : w.Between roots w :=
  ⟨rfl, rfl, rfl, rfl, rfl, fun _ _ _ _ _ => rfl⟩

namespace Situation

/-- The situation after some deeds in turn. -/
def doingAll (s : Situation) (deeds : List Deed) : Situation := deeds.foldl doing s

/-- What there is to tell of some deeds in turn, where nothing else happens to the files. -/
def telling (s : Situation) (log : List (Turn × Answer)) : List Deed → List (Turn × Answer)
  | [] => log
  | deed :: deeds => telling (s.doing deed) ((s.workspace.turn deed, s.answer deed) :: log) deeds

/-- Every one of some deeds in turn is about one of the projects and finds the folder for scripts. -/
def canDo (roots : List Path) (s : Situation) : List Deed → Bool
  | [] => true
  | deed :: deeds =>
    s.workspace.files.lookup s.workspace.scripts = .ok .folder &&
      (deed.project? s.workspace.resolve).all (· ∈ roots) && canDo roots (s.doing deed) deeds

end Situation

/-- In an ordinary workspace deeds make a course. -/
theorem Course.doingAll {roots : List Path} {start : Workspace} {log : List (Turn × Answer)} {s : Situation}
    (h : Course roots start log s) (hsink : s.workspace.logging.file = none)
    (hwriter : s.workspace.writer = Files.Tree.ensureFile) {deeds : List Deed}
    (hdeeds : s.canDo roots deeds = true) : Course roots start (s.telling log deeds) (s.doingAll deeds) := by
  induction deeds generalizing log s with
  | nil => exact h
  | cons deed deeds ih =>
    simp only [Situation.canDo, Bool.and_eq_true, decide_eq_true_eq] at hdeeds
    obtain ⟨⟨hfolder, hproject⟩, hrest⟩ := hdeeds
    have hordinary : s.workspace.Ordinary := ⟨hsink, hwriter, hfolder⟩
    have hstep := s.step_doing deed
    have hcourse := h.turn (s.workspace.turn deed) (.refl roots _) (hordinary.fits deed) fun root hroot => by
      have hroot : deed.project? s.workspace.resolve = some root := hroot
      simpa [hroot] using hproject
    exact ih hcourse ((hstep.view (·.logging.file) fun _ _ _ _ _ => rfl).trans hsink)
      ((hstep.view (·.writer) fun _ _ _ _ _ => rfl).trans hwriter) hrest

/-! ## 3. The steps of one project -/

section projects

variable {defaults : Config} {roots : List Path} {start : Workspace}
  (hstart : start.registry = { defaultConfig := defaults }) (hroots : ∀ root ∈ roots, root.anchor = .root)
  (hapart : ∀ root ∈ roots, ∀ other ∈ roots, root ≠ other → start.ScriptsDiffer root other)
  {root : Path} (hroot : root ∈ roots)
include hstart hroots hapart hroot

/-- A step of another project leaves the share alone. -/
theorem Course.share_other {log : List (Turn × Answer)} {s : Situation} {w : Workspace} {turn : Turn}
    (h : Course roots start log s) (hw : s.workspace.Between roots w) (hfits : turn.Fits w)
    (hproject : ∀ root, turn.project? = some root → root ∈ roots) (hother : ¬ turn.concerns root = true) :
    (Situation.doing { s with workspace := w } turn.deed).share root = s.share root := by
  have hfull := hroots root hroot
  rw [← hw.share hroot hfull]
  refine Situation.share_doing_other (orderly_between (h.orderly hstart) hw) hfits hfull hother
    fun other hsome => ?_
  have hmem := hproject other hsome
  have hne : root ≠ other := fun he => hother (Turn.concerns_of_project (he ▸ hsome))
  exact (hapart root hroot other hmem hne).of_same hfull (hroots other hmem)
    (hw.links.trans h.constant.2.1) (hw.scripts.trans h.constant.1)

/-- A course and one of the same steps of a single project: the answers and the shares are the same. -/
theorem Course.congr {log log' : List (Turn × Answer)} {s s' : Situation} (h : Course roots start log s)
    (h' : Course [root] start log' s') (hturns : log'.map (·.1) = (stepsOf root log).map (·.1)) :
    log' = stepsOf root log ∧ s'.share root = s.share root := by
  induction h generalizing log' s' with
  | start =>
    obtain rfl := List.map_eq_nil_iff.mp hturns
    cases h'
    exact ⟨rfl, rfl⟩
  | @turn log s w turn h hw hfits hproject ih =>
    have hfull := hroots root hroot
    by_cases hconcerns : turn.concerns root = true
    · rw [stepsOf_cons hconcerns] at hturns ⊢
      cases h' with
      | start => cases hturns
      | @turn log' s' w' turn' h' hw' hfits' hproject' =>
        obtain ⟨rfl, hrest⟩ := List.cons.inj hturns
        obtain ⟨rfl, hshare⟩ := ih h' hrest
        have hs := Course.orderly_between (h.orderly hstart) hw
        have hs' := Course.orderly_between (h'.orderly hstart) hw'
        rw [← hw.share hroot hfull, ← hw'.share List.mem_cons_self hfull] at hshare
        obtain ⟨hanswer, hleft⟩ := Situation.doing_congr hs hs' hfits hfits' hfull hconcerns hshare
        exact ⟨by rw [hanswer], hleft⟩
    · rw [stepsOf_cons_other hconcerns] at hturns ⊢
      obtain ⟨hlog, hshare⟩ := ih h' hturns
      exact ⟨hlog, hshare.trans (h.share_other hstart hroots hapart hroot hw hfits hproject hconcerns).symm⟩

/-- The steps of one project make a course by themselves: outside, the same files are met. -/
theorem Course.restrict {log : List (Turn × Answer)} {s : Situation} (h : Course roots start log s) :
    ∃ s', Course [root] start (stepsOf root log) s' := by
  induction h with
  | start => exact ⟨_, .start⟩
  | @turn log s w turn h hw hfits hproject ih =>
    obtain ⟨s', h'⟩ := ih
    by_cases hconcerns : turn.concerns root = true
    · have hfull := hroots root hroot
      have hshare := (h.congr hstart hroots hapart hroot h' rfl).2
      -- the files are those of the whole course, the registry and the records those of the steps alone
      let alone : Workspace :=
        { w with registry := s'.workspace.registry, ledger := s'.workspace.ledger }
      have hscripts : s.workspace.scripts = s'.workspace.scripts := h.constant.1.trans h'.constant.1.symm
      have hlinks : s.workspace.links = s'.workspace.links := h.constant.2.1.trans h'.constant.2.1.symm
      have hw' : s'.workspace.Between [root] alone := by
        refine ⟨rfl, rfl, ?_, hw.links.trans hlinks, hw.scripts.trans hscripts,
          fun other hother shell script hscript => ?_⟩
        · exact hw.loader.trans (h.constant.2.2.trans h'.constant.2.2.symm)
        · obtain rfl := List.mem_singleton.mp hother
          have hsame : s.workspace.scriptPath other shell = .ok script :=
            (Workspace.scriptPath_of_root hfull hlinks hscripts shell).trans hscript
          have hcontent : (s'.workspace.scriptPath other shell).toOption.bind s'.workspace.files.content? =
              (s.workspace.scriptPath other shell).toOption.bind s.workspace.files.content? :=
            congrFun (congrArg (·.1.script) hshare) shell
          rw [hscript, hsame] at hcontent
          exact (hw.content other hroot shell script hsame).trans hcontent.symm
      have hfits' : turn.Fits alone := hfits.of_same rfl rfl rfl rfl rfl rfl rfl
      have hproject' : ∀ other, turn.project? = some other → other ∈ [root] := fun other hother =>
        List.mem_singleton.mpr (Turn.eq_of_concerns hother hconcerns)
      have hs := Course.orderly_between (h.orderly hstart) hw
      have hs' := Course.orderly_between (h'.orderly hstart) hw'
      rw [← hw.share hroot hfull, ← hw'.share List.mem_cons_self hfull] at hshare
      have hanswer := (Situation.doing_congr hs hs' hfits hfits' hfull hconcerns hshare).1
      rw [stepsOf_cons hconcerns, ← hanswer]
      exact ⟨_, .turn turn h' hw' hfits' hproject'⟩
    · rw [stepsOf_cons_other hconcerns]
      exact ⟨s', h'⟩

/-- **Projects do not interfere.**  Whatever is asked of several projects with different scripts, in any order:
the steps of one project can be taken by themselves, with the same to be met outside, and then the answers are
the same, and so is what there is of the project in the end: its published profile, its settings, the record of
its exports, its scripts and its pending requests. -/
theorem projects_do_not_interfere {log : List (Turn × Answer)} {s : Situation}
    (hcourse : Course roots start log s) :
    (∃ s', Course [root] start (stepsOf root log) s') ∧
    ∀ log' s', Course [root] start log' s' → log'.map (·.1) = (stepsOf root log).map (·.1) →
      log' = stepsOf root log ∧ s'.share root = s.share root :=
  ⟨hcourse.restrict hstart hroots hapart hroot, fun _ _ h' hturns =>
    hcourse.congr hstart hroots hapart hroot h' hturns⟩

end projects

namespace Interleaved

def app : Path := Path.ofString "/w/app"

def lib : Path := Path.ofString "/w/lib"

/-- A workspace with a folder for scripts. -/
def start : Workspace :=
  let scripts := Path.ofString "/scripts"
  { Workspace.bare scripts with files := ((Workspace.bare scripts).files.ensureFolder scripts).1 }

/-- Requests of two projects that are interleaved, with patterns that go to scripts.  One of the projects is
removed before the pattern of the other one is used. -/
def deeds : List Deed :=
  let compile (root : Path) := Deed.begin (.compile root (some ['#']) (some .exporting) none)
  [compile app, compile lib, .finish lib 1, .finish app 1, .option lib true, .remove lib, .option app true]

/-- What there is to tell of them. -/
def log : List (Turn × Answer) := Situation.telling { workspace := start } [] deeds

end Interleaved

open Interleaved in
/-- Three of the seven steps make a course of one of the projects, which ends with the same answer. -/
theorem projects_do_not_interfere_interleaved :
    ∃ s s', Course [app, lib] start log s ∧ log.length = 7 ∧
      Course [app] start (stepsOf app log) s' ∧ (stepsOf app log).length = 3 ∧
      s'.share app = s.share app ∧
      (stepsOf app log).head?.bind (·.2.text?) =
        some (Export.optionName ++ .char ' ' :: Export.reference .posix) := by
  have hroots : ∀ root ∈ [app, lib], root.anchor = .root := by decide +kernel
  have hapart : ∀ root ∈ [app, lib], ∀ other ∈ [app, lib], root ≠ other → start.ScriptsDiffer root other := by
    intro root hroot other hother hne
    refine .of_ne fun shell => ?_
    simp only [List.mem_cons, List.not_mem_nil, or_false] at hroot hother
    rcases hroot with rfl | rfl <;> rcases hother with rfl | rfl
    · exact absurd rfl hne
    · cases shell <;> decide +kernel
    · cases shell <;> decide +kernel
    · exact absurd rfl hne
  have hcan : Situation.canDo [app, lib] { workspace := start } deeds = true := by decide +kernel
  have hcourse : Course [app, lib] start log (Situation.doingAll { workspace := start } deeds) :=
    Course.start.doingAll rfl rfl hcan
  obtain ⟨⟨s', halone⟩, hsame⟩ := projects_do_not_interfere rfl hroots hapart List.mem_cons_self hcourse
  exact ⟨_, s', hcourse, rfl, halone, by decide +kernel, (hsame _ s' halone rfl).2, by decide +kernel⟩

end SkipPath
