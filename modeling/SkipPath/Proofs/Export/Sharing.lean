import SkipPath.Proofs.Export.Agreement

/-!
Several profiles of one project.

Besides the published profile of a project there may be others: those that were published before it, which
share its record of exports, and those that were compiled elsewhere, which have records of their own.  The
script of the project is the same for all of them, as far as their shells are of one family.  A use of another
profile exports that one, which comes to one attempt to write a script at most (`Workspace.attemptOf`).

Whoever asks about the project afterwards is told of the variable if the record of the published profile
claims success, whatever the script holds by then.  That answer is right exactly if the use does not spoil the
script (`use_spoils_iff`), and there are uses that do (`another_profile_spoils`).
-/

namespace SkipPath

/-! ## 1. Uses of a profile -/

/-- A use of a profile. -/
inductive Use where
  /-- It is exported, by force or not. -/
  | export (force : Bool)
  /-- The option of the search command is asked for. -/
  | option (byReference : Bool)
  /-- The pattern is replaced in a command. -/
  | replace (command : Text)

namespace Use

/-- Whether the script is written even if the record says that it is there. -/
def force : Use → Bool
  | .export force => force
  | .option _ | .replace _ => false

/-- The workspace after a use of a profile. -/
def after (use : Use) (other : Held) (w : Workspace) : Workspace :=
  match use with
  | .export force => ((Work.exportProfile other force).on w).2
  | .option byReference => ((Work.optionFor other byReference).on w).2
  | .replace command => ((Work.withReference other command).on w).2

/-- What a use does is to export the profile. -/
theorem after_eq (use : Use) (other : Held) (w : Workspace) :
    use.after other w = ((Work.exportProfile other use.force).on w).2 := by
  cases use with
  | «export» force => rfl
  | option byReference => exact Work.optionFor_snd other byReference w
  | replace command =>
    show ((Work.withReference other command).on w).2 = ((Work.exportProfile other false).on w).2
    simp only [Work.withReference, Work.on_bind]
    cases (Work.exportProfile other false).on w with
    | mk result w' => cases result <;> rfl

end Use

/-! ## 2. What becomes of the script -/

namespace Workspace

variable {w : Workspace} {held other : Held} {force : Bool}

/-- The script of a profile, or why there is none. -/
def scriptOf (w : Workspace) (p : Profile) : Except Fault Path := w.scriptPath p.root p.config.shell

theorem scriptHolds_iff {p : Profile} :
    w.ScriptHolds p ↔ ∃ script, w.scriptOf p = .ok script ∧ ∃ pattern, p.pattern = some pattern ∧
      ∃ bytes, Text.Utf8.encode (Export.assignment p.config.shell pattern) = .ok bytes ∧
        w.files.content? script = some bytes := by
  simp only [ScriptHolds, Sets, Files.Tree.content?_eq_some, scriptOf]
  constructor
  · rintro ⟨pattern, script, hpattern, hscript, hsets⟩
    exact ⟨script, hscript, pattern, hpattern, hsets⟩
  · rintro ⟨script, hscript, pattern, hpattern, hsets⟩
    exact ⟨pattern, script, hpattern, hscript, hsets⟩

/-- Whether the script of a profile is right is decided by what can be read there. -/
theorem scriptHolds_congr {w' : Workspace} {p : Profile} (hscript : w'.scriptOf p = w.scriptOf p)
    (hcontent : ∀ script, w.scriptOf p = .ok script → w'.files.content? script = w.files.content? script) :
    w'.ScriptHolds p ↔ w.ScriptHolds p := by
  rw [scriptHolds_iff, scriptHolds_iff, hscript]
  refine exists_congr fun script => and_congr_right fun hhere => ?_
  rw [hcontent script hhere]

theorem scriptHolds_reportedAll (hlog : w.LogsAside) {p : Profile} (hroot : p.root.anchor = .root)
    (rs : List Log.Record) : (w.reportedAll rs).ScriptHolds p ↔ w.ScriptHolds p := by
  refine scriptHolds_congr
    (scriptPath_of_root hroot (reportedAll_links w rs) (reportedAll_scripts w rs) _) fun script hscript => ?_
  obtain ⟨name, rfl, hinner, -⟩ := (isScript_scriptPath hscript).named
  exact hlog.content?_reportedAll rs hinner

instance (w : Workspace) (p : Profile) : Decidable (w.ScriptHolds p) :=
  decidable_of_iff (∃ script ∈ (w.scriptOf p).toOption, ∃ pattern ∈ p.pattern,
      ∃ bytes ∈ (Text.Utf8.encode (Export.assignment p.config.shell pattern)).toOption,
        w.files.content? script = some bytes) <| by
    simp only [scriptHolds_iff, Option.mem_def, toOption_eq_some]

/-- Using another profile of a project spoils the script of the published one: it writes that script, be it
that the attempt fails and does not leave the right one behind, or it writes another script and claims the
success of that for a script that was not right before. -/
def Spoils (w : Workspace) (held other : Held) (force : Bool) : Prop :=
  ∃ a, w.attemptOf other force = some a ∧
    (w.scriptOf held.profile = .ok a.script ∧
        ((w.writing a).2 = none ∨ ¬ (w.attempted a other.record).ScriptHolds held.profile) ∨
      w.scriptOf held.profile ≠ .ok a.script ∧ other.record = held.record ∧ ¬ w.ScriptHolds held.profile)

section attempt

variable {a : Export.Attempt} (hattempt : w.attemptOf other force = some a)
  (hroot : held.profile.root.anchor = .root)
include hattempt hroot

/-- An attempt to write another script leaves this one as it is. -/
theorem scriptHolds_attempted_elsewhere (hsteady : w.Steady)
    (helsewhere : w.scriptOf held.profile ≠ .ok a.script) :
    (w.attempted a other.record).ScriptHolds held.profile ↔ w.ScriptHolds held.profile := by
  obtain ⟨name, hname, hinner, -⟩ := (of_attemptOf hattempt).1.isScript.named
  refine scriptHolds_congr (scriptPath_of_root hroot (attempted_links _ _) (attempted_scripts _ _) _)
    fun script hscript => ?_
  obtain ⟨name', rfl, hinner', -⟩ := (isScript_scriptPath hscript).named
  have hkept := hsteady.writer name name' a.bytes hinner hinner' fun hsame => helsewhere <| by
    rw [hname, ← hsame]
    exact hscript
  rw [← hname] at hkept
  exact hkept

/-- A script that was written with another pattern is not right any more, nor is one that was emptied. -/
theorem not_scriptHolds_attempted (hguarded : w.Guarded)
    (hpattern : other.profile.pattern ≠ held.profile.pattern)
    (hscript : w.scriptOf held.profile = .ok a.script) (hwritten : (w.writing a).2 = none) :
    ¬ (w.attempted a other.record).ScriptHolds held.profile := by
  obtain ⟨hat, -, husable⟩ := of_attemptOf hattempt
  obtain ⟨name, hname, hinner, -⟩ := hat.isScript.named
  have hread : (w.attempted a other.record).files.read a.script = .ok a.bytes := by
    rw [hname]
    refine hguarded.lawful.holds w.files _ _ _ hinner ?_
    rw [← hname]
    exact Prod.ext rfl hwritten
  rintro ⟨pattern, script, hsome, hpath, bytes, hbytes, hholds⟩
  rw [scriptPath_of_root hroot (attempted_links _ _) (attempted_scripts _ _)] at hpath
  cases hscript.symm.trans hpath
  cases hread.symm.trans hholds
  cases hencoded : Text.Utf8.encode a.content with
  | error refusal =>
    rw [Export.Attempt.bytes, hencoded] at hbytes
    exact Export.encode_assignment_ne_nil hbytes
  | ok bytes =>
    have hcontent : Text.Utf8.encode a.content = .ok a.bytes := by rw [Export.Attempt.bytes, hencoded]; rfl
    have htexts := Text.Utf8.encode_inj hcontent hbytes
    rw [Export.Attempt.content,
      Export.assignment_congr (hat.isScript.isCmd_eq (isScript_scriptPath hscript))] at htexts
    refine hpattern ?_
    rw [Profile.pattern_of_usable husable, hsome]
    exact congrArg some (Export.assignment_inj htexts)

end attempt

/-! ## 3. What is told afterwards -/

/-- After a use of another profile, an answer by reference is right exactly if the use has not spoiled the
script. -/
theorem Synced.scriptHolds_exported (h : w.Synced) (hsteady : w.Steady) {root : Path}
    (hheld : w.registry.get? root = some held)
    (hpattern : other.profile.pattern ≠ held.profile.pattern) {canUseVariable : Bool} {shell : Shell}
    (hanswer : (((Work.exportProfile other force).on w).2.usageOf canUseVariable (some held)).text =
      Export.reference shell) :
    ((Work.exportProfile other force).on w).2.ScriptHolds held.profile ↔ ¬ w.Spoils held other force := by
  have habout := (h.recorded.about root held hheld)
  have hroot : held.profile.root.anchor = .root := habout.2.symm ▸ habout.1
  obtain ⟨pattern, hcarries, hsucceeded, -⟩ :=
    carries_of_reference (fun pattern => h.recorded.starts root held pattern hheld) hanswer
  rcases exportProfile_snd w other force with ⟨a, hattempt, hleft⟩ | ⟨hnone, rs, hleft⟩
  · rw [hleft] at hsucceeded ⊢
    have hlog : (w.attempted a other.record).LogsAside := hsteady.log.of_same rfl rfl rfl
    rw [scriptHolds_reportedAll hlog hroot]
    rw [reportedAll_ledger] at hsucceeded
    by_cases hscript : w.scriptOf held.profile = .ok a.script
    · -- the attempt was made at the script of the published profile
      have hspoils : w.Spoils held other force ↔
          (w.writing a).2 = none ∨ ¬ (w.attempted a other.record).ScriptHolds held.profile := by
        constructor
        · rintro ⟨a', hattempt', hcases⟩
          cases hattempt.symm.trans hattempt'
          exact hcases.elim (·.2) fun hother => absurd hscript hother.1
        · exact fun hcases => ⟨a, hattempt, .inl ⟨hscript, hcases⟩⟩
      rw [hspoils, not_or, not_not]
      refine ⟨fun hholds => ⟨fun hwritten => ?_, hholds⟩, fun hboth => hboth.2⟩
      exact not_scriptHolds_attempted hattempt hroot h.recorded.guarded hpattern hscript hwritten hholds
    · have hspoils : w.Spoils held other force ↔
          other.record = held.record ∧ ¬ w.ScriptHolds held.profile := by
        constructor
        · rintro ⟨a', hattempt', hcases⟩
          cases hattempt.symm.trans hattempt'
          exact hcases.elim (fun hhere => absurd hhere.1 hscript) (·.2)
        · exact fun hboth => ⟨a, hattempt, .inr ⟨hscript, hboth⟩⟩
      rw [hspoils, scriptHolds_attempted_elsewhere hattempt hroot hsteady hscript, not_and, not_not]
      refine ⟨fun hholds _ => hholds, fun hcase => ?_⟩
      by_cases hrecord : other.record = held.record
      · exact hcase hrecord
      · -- the record of the published profile has claimed success all the time
        have hledger : (w.attempted a other.record).ledger.get held.record = w.ledger.get held.record :=
          Export.Ledger.get_set_other _ hrecord _
        rw [hledger] at hsucceeded
        exact h.script_holds hheld hcarries hsucceeded
  · rw [hleft] at hsucceeded ⊢
    rw [reportedAll_ledger] at hsucceeded
    have hreports := h.outside (outside_reportedAll h.recorded.guarded rs)
    have hholds := hreports.script_holds ((reportedAll_registry w rs).symm ▸ hheld) hcarries
      ((reportedAll_ledger w rs).symm ▸ hsucceeded)
    refine iff_of_true hholds ?_
    rintro ⟨a, hattempt, -⟩
    cases hnone.symm.trans hattempt

end Workspace

/-- Some texts are compiled for a project, one after the other, and their patterns go to its script. -/
def Situation.compiled (texts : List String) : Situation :=
  Situation.afterAll { workspace := Workspace.bare (Path.ofString "/scripts") } <|
    texts.flatMap fun text =>
      [.begin (.compile (Path.ofString "/w/p") (some (Text.ofString text)) (some .exporting) none), .finish 0]

/-- The published profile of that project. -/
def Situation.compiled? (texts : List String) : Option Held :=
  (Situation.compiled texts).workspace.registry.get? (Path.ofString "/w/p")

/-- **When the use of another profile does no harm.**  In every situation of every run, for every published
profile and every other one with a different pattern: if after a use of the other one the answer about the
project refers to the variable, the script holds the pattern of the published profile exactly if the use has
not spoiled it. -/
theorem use_spoils_iff {defaults : Config} {start : Workspace}
    (hstart : start.registry = { defaultConfig := defaults }) (hguarded : start.Guarded)
    {s : Situation} (hrun : Run Workspace.Outside start s) (hapart : ScriptsApart start s.history)
    (hencodable : PatternsEncodable s.history) (hsteady : s.workspace.Steady) {held other : Held}
    (hheld : s.workspace.registry.get? other.profile.root = some held)
    (hpattern : other.profile.pattern ≠ held.profile.pattern) (use : Use) {root : Path}
    (hroot : (use.after other s.workspace).resolve root = .ok other.profile.root)
    {canUseVariable : Bool} {answer : Work.Usage} {w : Workspace} {shell : Shell}
    (husage : (Work.usage root canUseVariable).on (use.after other s.workspace) = (.ok answer, w))
    (hreference : answer.text = Export.reference shell) :
    w.ScriptHolds held.profile ↔ ¬ s.workspace.Spoils held other use.force := by
  have hsynced := (hrun.agreeing hstart hguarded hapart hencodable).synced
  obtain ⟨result, hresult, hanswer⟩ := Work.on_usage root canUseVariable (use.after other s.workspace)
  rw [husage] at hresult
  obtain ⟨he, rfl⟩ := Prod.mk.inj hresult
  have hregistry : (use.after other s.workspace).registry = s.workspace.registry := by
    rw [Use.after_eq]
    exact Work.view_exportProfile (·.registry) (fun _ _ _ _ => rfl) other use.force s.workspace
  obtain ⟨full, hfull, -, htext⟩ := hanswer answer he.symm
  cases hroot.symm.trans hfull
  rw [hregistry, hheld] at htext
  rw [htext] at hreference
  rw [Use.after_eq] at hreference ⊢
  exact hsynced.scriptHolds_exported hsteady hheld hpattern hreference

/-- A profile with a short pattern is put into each command, so that its use does no harm. -/
theorem use_spoils_iff_inlined :
    ∃ held other w, Situation.compiled? ["*.o"] = some held ∧
      other.profile.pattern ≠ held.profile.pattern ∧
      w = (Use.option true).after other (Situation.compiled ["*.o"]).workspace ∧
      w.ScriptHolds held.profile := by
  let other : Held :=
    { record := 1, ticket := 0
      profile := { root := Path.ofString "/w/p", config := .standard, valid := true
                   pattern := some ['/', 'a'], fragments := [['/', 'a']] } }
  have hscripts : (Situation.compiled ["*.o"]).workspace.scripts = Path.ofString "/scripts" :=
    Situation.view_afterAll (·.scripts) (fun _ _ _ _ _ => rfl) _ _
  have hwriter : (Situation.compiled ["*.o"]).workspace.writer = Files.Tree.ensureFile :=
    Situation.view_afterAll (·.writer) (fun _ _ _ _ _ => rfl) _ _
  have hsink : (Situation.compiled ["*.o"]).workspace.logging.file = none :=
    Situation.view_afterAll (·.logging.file) (fun _ _ _ _ _ => rfl) _ _
  have hfolder : (Situation.compiled ["*.o"]).workspace.files.lookup (Path.ofString "/scripts") =
      .ok .folder := by decide +kernel
  have hsteady : (Situation.compiled ["*.o"]).workspace.Steady := by
    constructor
    · intro r t name _
      rw [Log.Setup.store, hsink]
    · intro name other content hname hother hne
      rw [hscripts, hwriter]
      exact Files.Tree.content?_ensureFile_other hfolder hname hother hne content
  have hroots : ∀ request ∈ (Situation.compiled ["*.o"]).history.filterMap Happening.begun?,
      request.root = Path.ofString "/w/p" := by decide +kernel
  have hapart : ScriptsApart (Workspace.bare (Path.ofString "/scripts"))
      (Situation.compiled ["*.o"]).history := .of_root hroots
  have hencodable : PatternsEncodable (Situation.compiled ["*.o"]).history := by decide +kernel
  have hcheck : ((Situation.compiled? ["*.o"]).any fun held =>
      other.profile.pattern ≠ held.profile.pattern ∧
      (Situation.compiled ["*.o"]).workspace.attemptOf other false = none ∧
      ((Work.usage (Path.ofString "/w/p") true).on ((Use.option true).after other
        (Situation.compiled ["*.o"]).workspace)).1.toOption.any (·.text = Export.reference .posix) ∧
      ((Use.option true).after other (Situation.compiled ["*.o"]).workspace).resolve
        (Path.ofString "/w/p") = .ok other.profile.root) = true := by
    decide +kernel
  obtain ⟨held, hheld, hcheck⟩ := (Option.any_eq_true ..).mp hcheck
  obtain ⟨hpattern, hnone, htold, hroot⟩ := of_decide_eq_true hcheck
  obtain ⟨answer, w, husage, htold⟩ := Work.exists_on _ _ _ htold
  have hsame : w = (Use.option true).after other (Situation.compiled ["*.o"]).workspace := by
    obtain ⟨_, hresult, -⟩ := Work.on_usage (Path.ofString "/w/p") true
      ((Use.option true).after other (Situation.compiled ["*.o"]).workspace)
    rw [husage] at hresult
    exact (Prod.mk.inj hresult).2
  have hrun : Run Workspace.Outside (Workspace.bare (Path.ofString "/scripts"))
      (Situation.compiled ["*.o"]) := Run.afterAll .start _
  have hpublished : (Situation.compiled ["*.o"]).workspace.registry.get? other.profile.root =
      some held := hheld
  have hholds := use_spoils_iff rfl (Workspace.guarded_bare _) hrun hapart hencodable hsteady hpublished
    hpattern (.option true) hroot husage (of_decide_eq_true htold)
  refine ⟨held, other, w, hheld, hpattern, hsame, hholds.mpr ?_⟩
  rintro ⟨a, hattempt, -⟩
  cases hnone.symm.trans hattempt

/-- Another profile of the project of a published one was exported, and now the answer about the project
refers to the variable although the script is not right. -/
structure Workspace.Misled (w : Workspace) (held other : Held) : Prop where
  root : other.profile.root = held.profile.root
  pattern : other.profile.pattern ≠ held.profile.pattern
  told : ((Work.usage held.profile.root true).on ((Use.export false).after other w)).1.toOption.map (·.text) =
    some (Export.reference held.profile.config.shell)
  wrong : ¬ ((Use.export false).after other w).ScriptHolds held.profile

instance (w : Workspace) (held other : Held) : Decidable (w.Misled held other) :=
  decidable_of_iff (other.profile.root = held.profile.root ∧
      other.profile.pattern ≠ held.profile.pattern ∧
      ((Work.usage held.profile.root true).on ((Use.export false).after other w)).1.toOption.map (·.text) =
        some (Export.reference held.profile.config.shell) ∧
      ¬ ((Use.export false).after other w).ScriptHolds held.profile)
    ⟨fun ⟨h₁, h₂, h₃, h₄⟩ => ⟨h₁, h₂, h₃, h₄⟩, fun ⟨h₁, h₂, h₃, h₄⟩ => ⟨h₁, h₂, h₃, h₄⟩⟩

/-- Both a profile with a record of its own and one that was published before spoil the script. -/
theorem another_profile_spoils :
    (∃ held other, Situation.compiled? ["*.o"] = some held ∧ other.record ≠ held.record ∧
      (Situation.compiled ["*.o"]).workspace.Misled held other) ∧
    ∃ held other, Situation.compiled? ["*.o", "*.a"] = some held ∧
      Situation.compiled? ["*.o"] = some other ∧ other.record = held.record ∧
      (Situation.compiled ["*.o", "*.a"]).workspace.Misled held other := by
  constructor
  · have hcheck : ((Situation.compiled? ["*.o"]).any fun held =>
        (Situation.compiled? ["*.o", "*.a"]).any fun other => 1 ≠ held.record ∧
          (Situation.compiled ["*.o"]).workspace.Misled held { other with record := 1 }) = true := by
      decide +kernel
    obtain ⟨held, hheld, hcheck⟩ := (Option.any_eq_true ..).mp hcheck
    obtain ⟨other, -, hcheck⟩ := (Option.any_eq_true ..).mp hcheck
    exact ⟨held, { other with record := 1 }, hheld, of_decide_eq_true hcheck⟩
  · have hcheck : ((Situation.compiled? ["*.o", "*.a"]).any fun held =>
        (Situation.compiled? ["*.o"]).any fun other => other.record = held.record ∧
          (Situation.compiled ["*.o", "*.a"]).workspace.Misled held other) = true := by decide +kernel
    obtain ⟨held, hheld, hcheck⟩ := (Option.any_eq_true ..).mp hcheck
    obtain ⟨other, hother, hcheck⟩ := (Option.any_eq_true ..).mp hcheck
    exact ⟨held, other, hheld, hother, of_decide_eq_true hcheck⟩

end SkipPath
