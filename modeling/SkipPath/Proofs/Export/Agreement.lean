import SkipPath.Proofs.Export.Record
import SkipPath.Proofs.Registry.LastRequest

/-!
The script and the variable agree.

A caller that is told to use the variable relies on the script: it has to hold the pattern of the profile
that is published at that moment.  The answers look at one thing only, whether the last attempt to write a
script succeeded.  That this is enough is the invariant of runs (`Agreeing`): between operations every
record that claims success is true and up to date, as long as nobody else writes to the folder for scripts
and no two projects share a script.
-/

namespace SkipPath

/-! ## 1. All runs -/

/-- What is published may be taken away. -/
theorem Workspace.Synced.forgetting {w : Workspace} (h : w.Synced) {registry : Registry}
    (hless : ∀ root held, registry.get? root = some held → w.registry.get? root = some held) :
    Synced { w with registry := registry } where
  recorded := h.recorded.forgetting hless
  upToDate root held pattern hheld := h.upToDate root held pattern (hless root held hheld)

/-- Different projects of which requests have begun have different scripts. -/
def ScriptsApart (w : Workspace) (history : List Happening) : Prop :=
  ∀ request other, .begun request ∈ history → .begun other ∈ history → request.root ≠ other.root →
    w.ScriptsDiffer request.root other.root

/-- The patterns that come of the requests that have begun can be encoded. -/
def PatternsEncodable (history : List Happening) : Prop :=
  ∀ request, .begun request ∈ history → request.Encodable

/-- The request that has begun, if that is what has happened. -/
def Happening.begun? : Happening → Option Request
  | .begun request => some request
  | .finished _ | .removed _ | .cleared => none

theorem mem_begun {history : List Happening} {request : Request} :
    request ∈ history.filterMap Happening.begun? ↔ .begun request ∈ history := by
  rw [List.mem_filterMap]
  constructor
  · rintro ⟨happening, hmem, hbegun⟩
    cases happening with
    | begun other =>
      cases hbegun
      exact hmem
    | _ => cases hbegun
  · exact fun hmem => ⟨_, hmem, rfl⟩

instance (history : List Happening) : Decidable (PatternsEncodable history) :=
  decidable_of_iff (∀ request ∈ history.filterMap Happening.begun?, request.Encodable) <| by
    simp only [mem_begun, PatternsEncodable]

/-- The invariant of runs. -/
structure Agreeing (defaults : Config) (start : Workspace) (s : Situation) : Prop where
  tracked : s.Tracked defaults
  scripts : s.workspace.scripts = start.scripts
  links : s.workspace.links = start.links
  synced : s.workspace.Synced

namespace Agreeing

variable {defaults : Config} {start : Workspace} {s s' : Situation}

/-- A request of every published project has begun. -/
theorem begun_of_published (h : Agreeing defaults start s) {root : Path} {held : Held}
    (hheld : s.workspace.registry.get? root = some held) :
    ∃ request, .begun request ∈ s.history ∧ request.root = root := by
  rcases h.tracked.shows root with ⟨request, _, _, hlatest, -, -⟩ | ⟨-, hnone, -⟩
  · exact ⟨request, h.tracked.tickets.finished_begun request hlatest.finished, hlatest.about⟩
  · rw [hheld] at hnone
    cases hnone

theorem apart (h : Agreeing defaults start s) (hapart : ScriptsApart start s.history)
    {request : Request} (hbegun : .begun request ∈ s.history) : s.workspace.Apart request.root := by
  intro root held hheld hne
  obtain ⟨other, hother, rfl⟩ := h.begun_of_published hheld
  have hroot := (h.tracked.tickets.wellFormed other hother).resolved
  have hroot' := (h.tracked.tickets.wellFormed request hbegun).resolved
  intro shell script
  rw [Workspace.scriptPath_of_root hroot h.links h.scripts,
    Workspace.scriptPath_of_root hroot' h.links h.scripts]
  exact hapart other request hother hbegun hne shell script

theorem step (h : Agreeing defaults start s) (hapart : ScriptsApart start s.history)
    (hencodable : PatternsEncodable s.history) (hstep : s.Step s') : Agreeing defaults start s' := by
  refine ⟨h.tracked.step hstep, ?_, ?_, ?_⟩
  · rw [← h.scripts]
    exact hstep.view (·.scripts) fun _ _ _ _ _ => rfl
  · rw [← h.links]
    exact hstep.view (·.links) fun _ _ _ _ _ => rfl
  · have hguarded := h.synced.recorded.guarded
    cases hstep with
    | quiet hw =>
      obtain ⟨rs, rfl⟩ := hw
      exact h.synced.outside (Workspace.outside_reportedAll hguarded rs)
    | begun hw =>
      obtain ⟨-, -, rs, rfl⟩ := hw
      refine (h.synced.outside (Workspace.outside_reportedAll hguarded rs)).forgetting ?_
      intro root held hheld
      rwa [Workspace.reportedAll_registry]
    | @finished index request hpending =>
      have hmem := h.tracked.tickets.pending_begun request (List.mem_of_getElem? hpending)
      exact h.synced.finished (h.tracked.tickets.wellFormed request hmem) (hencodable request hmem)
        (h.apart hapart hmem)
    | exported hheld =>
      obtain ⟨request, hbegun, rfl⟩ := h.begun_of_published hheld
      exact (h.synced.recorded.exported hheld (h.apart hapart hbegun) false).synced
        fun other _ => h.synced.upToDate other
    | removed =>
      refine Workspace.Synced.outside (h.synced.forgetting ?_) (Workspace.outside_reported ?_ _)
      · intro root held hheld
        rw [Registry.get?_remove] at hheld
        split at hheld
        · cases hheld
        · exact hheld
      · exact hguarded.of_same rfl rfl rfl rfl
    | cleared => exact h.synced.forgetting fun root held hheld => by cases hheld

end Agreeing

/-- There is nothing to tell apart where all requests are for one project. -/
theorem ScriptsApart.of_root {w : Workspace} {history : List Happening} {root : Path}
    (h : ∀ request ∈ history.filterMap Happening.begun?, request.root = root) : ScriptsApart w history := by
  intro request other hrequest hother hne
  have hroot := h request (mem_begun.mpr hrequest)
  have hroot' := h other (mem_begun.mpr hother)
  exact absurd (hroot.trans hroot'.symm) hne

theorem ScriptsApart.before {w : Workspace} {s s' : Situation} (h : ScriptsApart w s'.history)
    (hstep : s.Step s') : ScriptsApart w s.history :=
  fun request other hrequest hother => h request other (hstep.history hrequest) (hstep.history hother)

theorem PatternsEncodable.before {s s' : Situation} (h : PatternsEncodable s'.history)
    (hstep : s.Step s') : PatternsEncodable s.history :=
  fun request hrequest => h request (hstep.history hrequest)

theorem Run.agreeing {defaults : Config} {start : Workspace}
    (hstart : start.registry = { defaultConfig := defaults }) (hguarded : start.Guarded)
    {s : Situation} (h : Run Workspace.Outside start s) (hapart : ScriptsApart start s.history)
    (hencodable : PatternsEncodable s.history) : Agreeing defaults start s := by
  induction h with
  | start =>
    have hnone : ∀ root, start.registry.get? root = none := by rw [hstart]; exact fun _ => rfl
    have hno : ∀ {P : Prop} root held, start.registry.get? root = some held → P := by
      intro P root held hheld
      rw [hnone] at hheld
      cases hheld
    exact {
      tracked := Run.tracked hstart .start
      scripts := rfl
      links := rfl
      synced :=
        { upToDate := fun root held _ hheld => hno root held hheld
          recorded :=
            { toRecordsApart := Workspace.recordsApart_of_unpublished hnone
              guarded := hguarded
              about := fun root held => hno root held
              starts := fun root held _ => hno root held
              encodable := fun root held => hno root held
              written := fun root held => hno root held } } }
  | @operation s operation _ ih =>
    have hstep := s.step_after operation
    exact (ih (hapart.before hstep) (hencodable.before hstep)).step (hapart.before hstep)
      (hencodable.before hstep) hstep
  | @world s w _ hw ih =>
    have hs := ih hapart hencodable
    refine ⟨?_, hw.scripts.trans hs.scripts, hw.links.trans hs.links, hs.synced.outside hw⟩
    have htracked := hs.tracked
    unfold Situation.Tracked at htracked ⊢
    rw [hw.registry]
    exact htracked

/-! ## 2. Answers by reference -/

/-- The script of a profile holds the command that sets the variable to the pattern of the profile. -/
def Workspace.ScriptHolds (w : Workspace) (p : Profile) : Prop :=
  ∃ pattern script, p.pattern = some pattern ∧ w.scriptPath p.root p.config.shell = .ok script ∧
    w.Sets script p.config.shell pattern

theorem Profile.pattern_of_usable {p : Profile} {pattern : Text} (h : p.usable? = some pattern) :
    p.pattern = some pattern := by
  unfold usable? at h
  split at h
  · exact (Option.filter_eq_some_iff.mp h).1
  · cases h

/-- Where the variable is to carry the pattern and the record claims success, the script is right. -/
theorem Workspace.Synced.script_holds {w : Workspace} (h : w.Synced) {root : Path} {held : Held}
    (hheld : w.registry.get? root = some held) {pattern : Text} (hcarries : held.profile.Carries pattern)
    (hsucceeded : (w.ledger.get held.record).succeeded = true) : w.ScriptHolds held.profile := by
  obtain ⟨script, hpath, hscript, hpattern⟩ := h.upToDate root held pattern hheld hcarries hsucceeded
  obtain ⟨shell, script', pattern', hpath', -, hscript', hpattern', bytes, hbytes, hread⟩ :=
    h.recorded.written root held hheld hsucceeded
  cases hpattern.symm.trans hpattern'
  cases hscript.symm.trans hscript'
  refine ⟨pattern, script, held.profile.pattern_of_usable hcarries.1, ?_, bytes, ?_, hread⟩
  · rw [(h.recorded.about root held hheld).2]
    exact hpath
  · have hfamily := (isScript_scriptPath hpath).isCmd_eq (isScript_scriptPath hpath')
    rw [Export.assignment_congr hfamily]
    exact hbytes

/-- A placement by the variable is one of a pattern that the variable is to carry. -/
theorem Work.placement_of_export {held : Held} {force : Bool} {w w' : Workspace}
    {placement : Option Export.Placement}
    (h : (exportProfile held force).on w = (.ok placement, w')) :
    placement = none ∨ ∃ pattern, held.profile.usable? = some pattern ∧
      (placement = some (.inlined pattern) ∨
        held.profile.Carries pattern ∧ ∃ name script, placement = some (.externalized name script)) := by
  rw [on_exportProfile] at h
  cases hp : held.profile.usable? with
  | none =>
    rw [if_pos (Profile.isUsable_eq_false.mpr hp)] at h
    exact .inl (Except.ok.inj (Prod.mk.inj h).1).symm
  | some pattern =>
    refine .inr ⟨pattern, rfl, ?_⟩
    rw [if_neg (Profile.isUsable_of_usable hp)] at h
    split at h
    · cases (Prod.mk.inj h).1
    · next script _ =>
      rw [Workspace.exportPlan] at h
      rcases Export.plan_cases hp script (w.ledger.get held.record) force with
        ⟨he, -⟩ | ⟨hlong, he, -⟩ | ⟨hlong, he⟩
      · rw [he] at h
        exact .inl (Except.ok.inj (Prod.mk.inj h).1).symm
      · rw [he] at h
        exact .inr ⟨⟨hp, hlong⟩, _, _, (Except.ok.inj (Prod.mk.inj h).1).symm⟩
      · rw [he] at h
        simp only at h
        split at h
        · cases (Prod.mk.inj h).1
        · have hplaced := (Export.Attempt.map_ending_eq_ok.mp (Prod.mk.inj h).1).2
          exact .inr ⟨⟨hp, hlong⟩, _, _, hplaced.symm⟩

/-- An answer by reference means that the variable is to carry the pattern and that the record claims
success, since no pattern is a reference. -/
theorem Workspace.carries_of_reference {w : Workspace} {held : Held} {shell : Shell}
    (hstarts : ∀ pattern, held.profile.usable? = some pattern → Text.StartsSeparated pattern)
    {canUseVariable : Bool}
    (hanswer : (w.usageOf canUseVariable (some held)).text = Export.reference shell) :
    ∃ pattern, held.profile.Carries pattern ∧ (w.ledger.get held.record).succeeded = true ∧
      Export.reference shell = Export.reference held.profile.config.shell := by
  have hsome := Export.reference_ne_nil shell
  rw [← hanswer] at hsome ⊢
  unfold usageOf at hanswer hsome ⊢
  cases hp : held.profile.usable? with
  | none =>
    simp only [hp] at hsome
    exact absurd rfl hsome
  | some pattern =>
    have hpattern : pattern ≠ Export.reference shell :=
      Export.ne_reference (hstarts pattern hp) shell
    simp only [hp] at hanswer ⊢
    split at hanswer
    · next huse =>
      rw [if_pos huse]
      simp only [Bool.and_eq_true, Bool.not_eq_true', decide_eq_false_iff_not] at huse
      exact ⟨pattern, ⟨hp, huse.1.2⟩, huse.2, rfl⟩
    · exact absurd hanswer hpattern

namespace Workspace.Synced

variable {w : Workspace} {root : Path} {held : Held} {shell : Shell}

/-- An answer by reference means that the variable is to carry the pattern and that the script was
written. -/
theorem carries_of_usage (h : w.Synced) (hheld : w.registry.get? root = some held)
    {canUseVariable : Bool}
    (hanswer : (w.usageOf canUseVariable (some held)).text = Export.reference shell) :
    ∃ pattern, held.profile.Carries pattern ∧ (w.ledger.get held.record).succeeded = true ∧
      Export.reference shell = Export.reference held.profile.config.shell :=
  Workspace.carries_of_reference (fun pattern => h.recorded.starts root held pattern hheld) hanswer

/-- The option that follows such an answer is the same reference, and nothing is written for it. -/
theorem option_of_carries (h : w.Synced) (hheld : w.registry.get? root = some held) {pattern : Text}
    (hcarries : held.profile.Carries pattern)
    (hsucceeded : (w.ledger.get held.record).succeeded = true) :
    ∃ script, w.scriptPath held.profile.root held.profile.config.shell = .ok script ∧
      (Work.optionFor held true).on w =
        (.ok (Export.optionName ++ .char ' ' :: Export.reference held.profile.config.shell),
          w.reported (Export.alreadyExported script)) := by
  obtain ⟨script, hpath, hscript, hpattern⟩ := h.upToDate root held pattern hheld hcarries hsucceeded
  rw [← (h.recorded.about root held hheld).2] at hpath
  refine ⟨script, hpath, ?_⟩
  have hplan : w.exportPlan held script false = .done script := by
    rw [exportPlan, Export.plan, hcarries.1]
    simp only [Export.place, if_neg hcarries.2, hsucceeded, hscript, hpattern]
    rfl
  have hexport : (Work.exportProfile held false).on w =
      (.ok (some (.externalized Export.variableName script)),
        w.reported (Export.alreadyExported script)) := by
    rw [Work.on_exportProfile, if_neg (Profile.isUsable_of_usable hcarries.1), hpath]
    simp only [hplan]
  rw [Work.on_optionFor, hexport]
  simp only [reported_ledger, Export.optionText, hsucceeded]
  rfl

/-- An option by reference means that the script is right, once the option has been given. -/
theorem script_holds_of_option (h : w.Synced) (hheld : w.registry.get? root = some held)
    {before : Workspace}
    (hoption : (Work.optionFor held true).on before =
      (.ok (Export.optionName ++ .char ' ' :: Export.reference shell), w)) :
    w.ScriptHolds held.profile := by
  rw [Work.on_optionFor] at hoption
  cases hexport : (Work.exportProfile held false).on before with
  | mk result w' =>
    rw [hexport] at hoption
    cases result with
    | error fault => cases hoption
    | ok placement =>
      obtain ⟨htext, rfl⟩ := Prod.mk.inj hoption
      have htext := Except.ok.inj htext
      rcases Work.placement_of_export hexport with rfl | ⟨pattern, hp, hplacement⟩
      · cases htext
      · have hquoted := Export.doubleQuoted_ne_reference (h.recorded.starts _ held pattern hheld hp) shell
        have hpattern := held.profile.pattern_of_usable hp
        rcases hplacement with rfl | ⟨hcarries, name, script, rfl⟩
        · simp only [Export.optionText, hpattern, Option.getD_some] at htext
          exact absurd (List.cons.inj (List.append_cancel_left htext)).2 hquoted
        · refine h.script_holds hheld hcarries ?_
          by_contra hfailed
          simp only [Export.optionText, hpattern, Option.getD_some, Bool.true_and, hfailed] at htext
          exact absurd (List.cons.inj (List.append_cancel_left htext)).2 hquoted

/-- After an answer by reference the script is right, and the option is the same reference. -/
theorem agrees_of_usage (h : w.Synced) {p : Path} {canUseVariable : Bool} {answer : Work.Usage} {w' : Workspace}
    (husage : (Work.usage p canUseVariable).on w = (.ok answer, w'))
    (hreference : answer.text = Export.reference shell) :
    ∃ full held script, w.resolve p = .ok full ∧ w.registry.get? full = some held ∧ w.ScriptHolds held.profile ∧
      w.scriptPath held.profile.root held.profile.config.shell = .ok script ∧
      (Work.projectOption p true).on w =
        (.ok (Export.optionName ++ .char ' ' :: answer.text), w.reported (Export.alreadyExported script)) := by
  obtain ⟨result, hresult, hanswer⟩ := Work.on_usage p canUseVariable w
  rw [husage] at hresult
  obtain ⟨full, hfull, -, hanswer⟩ := hanswer answer (Prod.mk.inj hresult).1.symm
  cases hheld : w.registry.get? full with
  | none =>
    rw [hanswer, hheld] at hreference
    exact absurd hreference.symm (Export.reference_ne_nil shell)
  | some held =>
    rw [hheld] at hanswer
    rw [hanswer] at hreference
    obtain ⟨pattern, hcarries, hsucceeded, hsame⟩ := h.carries_of_usage hheld hreference
    obtain ⟨script, hscript, hoption⟩ := h.option_of_carries hheld hcarries hsucceeded
    refine ⟨full, held, script, hfull, hheld, h.script_holds hheld hcarries hsucceeded, hscript, ?_⟩
    rw [Work.on_projectOption, hfull]
    simp only [hheld]
    rw [hanswer, hreference, hsame]
    exact hoption

/-- After an option by reference the script is right.  The option may have written it, so it is the workspace after
it that counts. -/
theorem agrees_of_option (h : w.Synced) {p : Path} {before : Workspace}
    (hoption : (Work.projectOption p true).on before =
      (.ok (Export.optionName ++ .char ' ' :: Export.reference shell), w)) :
    ∃ full held, before.resolve p = .ok full ∧ w.registry.get? full = some held ∧ w.ScriptHolds held.profile := by
  rw [Work.on_projectOption] at hoption
  cases hfull : before.resolve p with
  | error fault =>
    rw [hfull] at hoption
    cases hoption
  | ok full =>
    rw [hfull] at hoption
    cases hheld : before.registry.get? full with
    | none =>
      simp only [hheld] at hoption
      cases hoption
    | some held =>
      simp only [hheld] at hoption
      have hregistry := Work.view_exportProfile (·.registry) (fun _ _ _ _ => rfl) held false before
      rw [← Work.optionFor_snd held true, hoption] at hregistry
      have hheld' : w.registry.get? full = some held := by
        rw [hregistry]
        exact hheld
      exact ⟨full, held, rfl, hheld', h.script_holds_of_option hheld' hoption⟩

end Workspace.Synced

/-- **The script and the variable agree.**  In every situation of every run in which the patterns can be
encoded, whenever the answer about a project or the option for it refers to the variable, the script of the
published profile holds the command that sets the variable to the pattern of that profile.  And when the answer
refers to it, the option that follows is the same reference, for which nothing is written. -/
theorem reference_agrees {defaults : Config} {start : Workspace}
    (hstart : start.registry = { defaultConfig := defaults }) (hguarded : start.Guarded)
    {s : Situation} (hrun : Run Workspace.Outside start s) (hapart : ScriptsApart start s.history)
    (hencodable : PatternsEncodable s.history) (root : Path) (shell : Shell) :
    (∀ canUseVariable answer w,
      (Work.usage root canUseVariable).on s.workspace = (.ok answer, w) →
      answer.text = Export.reference shell →
      ∃ full held script, s.workspace.resolve root = .ok full ∧
        s.workspace.registry.get? full = some held ∧ s.workspace.ScriptHolds held.profile ∧
        s.workspace.scriptPath held.profile.root held.profile.config.shell = .ok script ∧
        (Work.projectOption root true).on s.workspace =
          (.ok (Export.optionName ++ .char ' ' :: answer.text),
            s.workspace.reported (Export.alreadyExported script))) ∧
    (∀ answer w,
      (Work.projectOption root true).on s.workspace = (.ok answer, w) →
      answer = Export.optionName ++ .char ' ' :: Export.reference shell →
      ∃ full held, s.workspace.resolve root = .ok full ∧ w.registry.get? full = some held ∧
        w.ScriptHolds held.profile) := by
  have hagreeing := hrun.agreeing hstart hguarded hapart hencodable
  refine ⟨fun _ _ _ => hagreeing.synced.agrees_of_usage, fun answer w hoption hreference => ?_⟩
  subst hreference
  -- the option is an operation, so the run goes on to the workspace after it
  have hafter := (hrun.operation (.option root true)).agreeing hstart hguarded hapart hencodable
  have hw : (s.after (.option root true)).workspace = w := congrArg Prod.snd hoption
  rw [← hw] at hoption ⊢
  exact hafter.synced.agrees_of_option hoption

theorem Workspace.guarded_bare (scripts : Path) : (Workspace.bare scripts).Guarded where
  lawful := Files.Tree.ensureFile_lawful scripts
  log _ t := .refl scripts t

/-- Two projects whose patterns go to scripts. -/
def Situation.twoProjects : Situation :=
  let compile (project : String) := Operation.begin
    (.compile (Path.ofString project) (some ['#']) (some .exporting) none)
  Situation.afterAll { workspace := Workspace.bare (Path.ofString "/scripts") }
    [compile "/w/app", .finish 0, compile "/w/lib", .finish 0]

/-- The answer about the first of two projects refers to the variable, its script is right, and the option
refers to the variable too. -/
theorem reference_agrees_two_projects :
    ∃ held, Situation.twoProjects.workspace.registry.get? (Path.ofString "/w/app") = some held ∧
      Situation.twoProjects.workspace.ScriptHolds held.profile ∧
      ((Work.projectOption (Path.ofString "/w/app") true).on Situation.twoProjects.workspace).1 =
        .ok (Export.optionName ++ .char ' ' :: Export.reference .posix) := by
  have hrun : Run Workspace.Outside (Workspace.bare (Path.ofString "/scripts"))
      Situation.twoProjects := Run.afterAll .start _
  have hroots : ∀ request ∈ Situation.twoProjects.history.filterMap Happening.begun?,
      request.root = Path.ofString "/w/lib" ∨ request.root = Path.ofString "/w/app" := by decide +kernel
  have hbegun : ∀ request, .begun request ∈ Situation.twoProjects.history →
      request.root = Path.ofString "/w/lib" ∨ request.root = Path.ofString "/w/app" := fun request hrequest =>
    hroots request (mem_begun.mpr hrequest)
  have hapart : ScriptsApart (Workspace.bare (Path.ofString "/scripts"))
      Situation.twoProjects.history := by
    intro request other hrequest hother hne
    refine .of_ne fun shell => ?_
    rcases hbegun request hrequest with h | h <;> rcases hbegun other hother with h' | h' <;>
      rw [h, h'] at hne ⊢
    · exact absurd rfl hne
    · cases shell <;> decide +kernel
    · cases shell <;> decide +kernel
    · exact absurd rfl hne
  have hencodable : PatternsEncodable Situation.twoProjects.history := by decide +kernel
  obtain ⟨answer, w, husage, hreference⟩ := (Work.usage (Path.ofString "/w/app") true).exists_on
    Situation.twoProjects.workspace (·.text == Export.reference .posix) (by decide +kernel)
  have hreference : answer.text = Export.reference .posix := eq_of_beq hreference
  obtain ⟨full, held, script, hfull, hheld, hholds, -, hoption⟩ := (reference_agrees rfl
    (Workspace.guarded_bare (Path.ofString "/scripts")) hrun hapart hencodable
    (Path.ofString "/w/app") .posix).1 true answer w husage hreference
  have hroot : Situation.twoProjects.workspace.resolve (Path.ofString "/w/app") =
      .ok (Path.ofString "/w/app") := by decide +kernel
  cases hroot.symm.trans hfull
  refine ⟨held, hheld, hholds, ?_⟩
  rw [hoption, hreference]

/-- A project whose pattern went to its script; then another one of its patterns, which cannot be encoded; and then
the first one again. -/
def Situation.emptied : Situation :=
  let compile (text : Text) := Operation.begin
    (.compile (Path.ofString "/w/p") (some text) (some .exporting) none)
  Situation.afterAll { workspace := Workspace.bare (Path.ofString "/scripts") }
    [compile ['#'], .finish 0, compile Text.unencodable, .finish 0, compile ['#'], .finish 0]

/-- The answer about that project refers to the variable, though its script is empty: the record still names the
first pattern, so it is not written again. -/
theorem reference_to_empty_script :
    Run Workspace.Outside (Workspace.bare (Path.ofString "/scripts")) Situation.emptied ∧
      ScriptsApart (Workspace.bare (Path.ofString "/scripts")) Situation.emptied.history ∧
      (∃ answer, ((Work.usage (Path.ofString "/w/p") true).on Situation.emptied.workspace).1 = .ok answer ∧
        answer.text = Export.reference .posix) ∧
      ∃ held, Situation.emptied.workspace.registry.get? (Path.ofString "/w/p") = some held ∧
        ¬ Situation.emptied.workspace.ScriptHolds held.profile := by
  have hroots : ∀ request ∈ Situation.emptied.history.filterMap Happening.begun?,
      request.root = Path.ofString "/w/p" := by decide +kernel
  refine ⟨Run.afterAll .start _, .of_root hroots, ?_, ?_⟩
  · obtain ⟨answer, w, husage, hreference⟩ := (Work.usage (Path.ofString "/w/p") true).exists_on
      Situation.emptied.workspace (·.text == Export.reference .posix) (by decide +kernel)
    exact ⟨answer, congrArg Prod.fst husage, eq_of_beq hreference⟩
  · have hempty : ((Situation.emptied.workspace.registry.get? (Path.ofString "/w/p")).any fun held =>
        (Situation.emptied.workspace.scriptPath held.profile.root held.profile.config.shell).toOption.all
          fun script => Situation.emptied.workspace.files.read script = .ok []) = true := by
      decide +kernel
    obtain ⟨held, hheld, hread⟩ := (Option.any_eq_true ..).mp hempty
    refine ⟨held, hheld, ?_⟩
    rintro ⟨pattern, script, -, hscript, bytes, hbytes, hholds⟩
    rw [hscript] at hread
    cases hholds.symm.trans (of_decide_eq_true hread)
    exact Export.encode_assignment_ne_nil hbytes

end SkipPath
