import SkipPath.Proofs.Results
import SkipPath.Workspace.Request

/-!
What the operations do to a workspace.

`Work.on` runs an operation.  For each operation there is one lemma that says what comes of it and which
workspace it leaves, in terms of pure functions only; later proofs go by these lemmas and never open an
operation again.  Reports are kept apart: `Workspace.reportedAll` is the workspace after some records,
and it touches nothing but the output and, through a log file, the files.
-/

namespace SkipPath

/-! ## 1. Reports -/

namespace Workspace

/-- The workspace after records that are reported in order. -/
def reportedAll (w : Workspace) (rs : List Log.Record) : Workspace := rs.foldl reported w

variable (w : Workspace) (r : Log.Record) (rs : List Log.Record)

theorem reportedAll_cons : w.reportedAll (r :: rs) = (w.reported r).reportedAll rs := rfl

theorem reportedAll_append (rs' : List Log.Record) :
    (w.reportedAll rs).reportedAll rs' = w.reportedAll (rs ++ rs') := by
  simp [reportedAll]

/-- What a report leaves alone stays as it is: any view that looks at neither the output nor the files. -/
theorem view_reported {β : Type} (view : Workspace → β)
    (h : ∀ v output files, view { v with output := output, files := files } = view v) :
    view (w.reported r) = view w := by
  unfold reported
  split
  · exact h w _ _
  · rfl

theorem view_reportedAll {β : Type} (view : Workspace → β)
    (h : ∀ v output files, view { v with output := output, files := files } = view v) :
    view (w.reportedAll rs) = view w := by
  induction rs generalizing w with
  | nil => rfl
  | cons r rs ih => rw [reportedAll_cons, ih, view_reported w r view h]

@[simp] theorem reportedAll_registry : (w.reportedAll rs).registry = w.registry :=
  view_reportedAll w rs _ fun _ _ _ => rfl

@[simp] theorem reportedAll_ledger : (w.reportedAll rs).ledger = w.ledger :=
  view_reportedAll w rs _ fun _ _ _ => rfl

@[simp] theorem reportedAll_scripts : (w.reportedAll rs).scripts = w.scripts :=
  view_reportedAll w rs _ fun _ _ _ => rfl

@[simp] theorem reportedAll_writer : (w.reportedAll rs).writer = w.writer :=
  view_reportedAll w rs _ fun _ _ _ => rfl

@[simp] theorem reportedAll_links : (w.reportedAll rs).links = w.links :=
  view_reportedAll w rs _ fun _ _ _ => rfl

@[simp] theorem reportedAll_logging : (w.reportedAll rs).logging = w.logging :=
  view_reportedAll w rs _ fun _ _ _ => rfl

@[simp] theorem reportedAll_stamp : (w.reportedAll rs).stamp = w.stamp :=
  view_reportedAll w rs _ fun _ _ _ => rfl

@[simp] theorem reported_registry : (w.reported r).registry = w.registry :=
  reportedAll_registry w [r]

@[simp] theorem reported_ledger : (w.reported r).ledger = w.ledger := reportedAll_ledger w [r]

end Workspace

namespace Work

variable {α β : Type}

/-! ## 2. The parts of operations -/

theorem on_pure (a : α) (w : Workspace) : (pure a : Work α).on w = (.ok a, w) := rfl

theorem on_get (w : Workspace) : (get : Work Workspace).on w = (.ok w, w) := rfl

theorem on_modify (f : Workspace → Workspace) (w : Workspace) :
    (modify f : Work PUnit).on w = (.ok (), f w) := rfl

theorem on_modifyGet (f : Workspace → α × Workspace) (w : Workspace) :
    (modifyGet f : Work α).on w = (.ok (f w).1, (f w).2) := rfl

/-- One operation after another: the second runs only if the first ends without a fault. -/
theorem on_bind (x : Work α) (f : α → Work β) (w : Workspace) :
    (x >>= f).on w = match x.on w with
      | (.ok a, w') => (f a).on w'
      | (.error fault, w') => (.error fault, w') := by
  show (ExceptT.bindCont f (x.on w).1).run (x.on w).2 = _
  cases h : x.on w with
  | mk result w' => cases result <;> rfl

theorem on_map (f : α → β) (x : Work α) (w : Workspace) :
    (f <$> x).on w = ((x.on w).1.map f, (x.on w).2) := by
  rw [map_eq_pure_bind, on_bind]
  cases x.on w with
  | mk result w' => cases result <;> rfl

theorem on_ofExcept {ε : Type} (fault : ε → Fault) (x : Except ε α) (w : Workspace) :
    (ofExcept fault x).on w = (x.mapError fault, w) := by
  cases x <;> rfl

/-- An answer of which something is checked is there. -/
theorem exists_on (x : Work α) (w : Workspace) (check : α → Bool) (h : (x.on w).1.toOption.any check = true) :
    ∃ a w', x.on w = (.ok a, w') ∧ check a = true := by
  obtain ⟨a, ha, hcheck⟩ := exists_ok (x.on w).1 check h
  exact ⟨a, (x.on w).2, Prod.ext ha rfl, hcheck⟩

/-! ## 3. Reports and paths -/

theorem on_report (r : Log.Record) (w : Workspace) : (report r).on w = (.ok (), w.reported r) := rfl

theorem on_say (level : Log.Level) (source : String) (message : Text) (w : Workspace) :
    (say level source message).on w = (.ok (), w.reported (Log.record level source message)) := rfl

theorem on_reportAll (rs : List Log.Record) (w : Workspace) :
    (reportAll rs).on w = (.ok (), w.reportedAll rs) := by
  induction rs generalizing w with
  | nil => rfl
  | cons r rs ih =>
    show (report r >>= fun _ => reportAll rs).on w = _
    rw [on_bind, on_report]
    exact ih _

theorem on_fullPath (p : Path) (w : Workspace) : (fullPath p).on w = (w.resolve p, w) := by
  simp only [fullPath, on_bind, on_get, on_ofExcept]
  cases w.resolve p <;> rfl

theorem on_checkPath (p : Path) (w : Workspace) :
    (checkPath p).on w = ((Fault.ofPath? p).elim (.ok ()) .error, w) := by
  unfold checkPath
  cases Fault.ofPath? p <;> rfl

end Work

/-! ## 4. Exports -/

namespace Profile

variable {p : Profile}

theorem isUsable_eq_false : p.isUsable = false ↔ p.usable? = none := by
  rw [isUsable, Option.isSome_eq_false_iff, Option.isNone_iff_eq_none]

theorem isUsable_of_usable {pattern : Text} (h : p.usable? = some pattern) : ¬ p.isUsable = false := by
  rw [isUsable_eq_false, h]
  exact Option.some_ne_none pattern

end Profile

/-- The script of a project for a shell, or why there is none: its path cannot be resolved, or not be
encoded. -/
def Workspace.scriptPath (w : Workspace) (root : Path) (shell : Shell) : Except Fault Path :=
  (w.resolve root).bind fun full => (Export.scriptPath w.scripts full shell).mapError .encoding

namespace Work

theorem on_scriptOf (p : Profile) (w : Workspace) :
    (scriptOf p).on w = (w.scriptPath p.root p.config.shell, w) := by
  simp only [scriptOf, on_bind, on_fullPath, Workspace.scriptPath]
  cases w.resolve p.root with
  | error fault => rfl
  | ok full =>
    simp only [on_get, on_ofExcept]
    rfl

theorem on_exportRecord (held : Held) (w : Workspace) :
    (exportRecord held).on w = (.ok (w.ledger.get held.record), w) := rfl

end Work

namespace Export.Attempt

/-- Why the content of a script cannot be encoded, if it cannot. -/
def refusal? (a : Attempt) : Option Text.Utf8.Refusal :=
  match Text.Utf8.encode a.content with
  | .error refusal => some refusal
  | .ok _ => none

/-- What is written: nothing, if the content cannot be encoded. -/
def bytes (a : Attempt) : List UInt8 := (Text.Utf8.encode a.content).toOption.getD []

/-- Whether an attempt is given up: the script is emptied, and then its content cannot be encoded. -/
def givenUp? (a : Attempt) (trouble : Option Files.Error) : Option Text.Utf8.Refusal :=
  if trouble.isNone then a.refusal? else none

/-- What is remembered after an attempt: of one that is given up, nothing. -/
def remembered (a : Attempt) (trouble : Option Files.Error) (r : Record) : Record :=
  if (a.givenUp? trouble).isSome then r else settle a trouble r

/-- The record that is reported of an attempt to write a script. -/
def report (a : Attempt) (trouble : Option Files.Error) : Log.Record :=
  match trouble with
  | some e =>
    Log.record Log.error Work.exportSource (Text.ofString "Failed to write skip path script "
      ++ a.script.render ++ Text.ofString ": " ++ e.message)
  | none =>
    Log.record Log.info Work.exportSource (Text.ofString "Exported " ++ Export.variableName
      ++ Text.ofString s!" ({a.pattern.length} chars) to " ++ a.script.render)

/-- What is reported of an attempt: of one that is given up, nothing. -/
def reports (a : Attempt) (trouble : Option Files.Error) : List Log.Record :=
  if (a.givenUp? trouble).isSome then [] else [a.report trouble]

/-- How an attempt ends: if it is given up, with a fault. -/
def ending (a : Attempt) (trouble : Option Files.Error) : Except Fault Unit :=
  (a.givenUp? trouble).elim (.ok ()) (.error <| .encoding ·)

end Export.Attempt

/-- A record may be put in its own place. -/
theorem Export.Ledger.set_get (l : Ledger) (id : RecordId) : l.set id (l.get id) = l := by
  unfold set get
  congr 1
  refine List.ext_getElem? fun n => ?_
  rw [List.getElem?_set]
  split
  · next he =>
    subst he
    split
    · next hlt => rw [List.getElem?_eq_getElem hlt, Option.getD_some]
    · next hge => rw [List.getElem?_eq_none (Nat.not_lt.mp hge)]
  · rfl

/-- The record that is reported of a script that is there already. -/
def Export.alreadyExported (script : Path) : Log.Record :=
  Log.record Log.debug Work.exportSource
    (Text.ofString "Skip path variable already exported to " ++ script.render)

namespace Workspace

/-- What an attempt to write a script comes to: the files after it, and the trouble. -/
def writing (w : Workspace) (a : Export.Attempt) : Files.Tree × Option Files.Error :=
  w.writer w.files a.script a.bytes

/-- The workspace after an attempt to write a script, before it is reported. -/
def attempted (w : Workspace) (a : Export.Attempt) (id : Export.RecordId) : Workspace :=
  { w with
    files := (w.writing a).1
    ledger := w.ledger.set id (a.remembered (w.writing a).2 (w.ledger.get id)) }

/-- What has to be done to export a profile with the given script. -/
def exportPlan (w : Workspace) (held : Held) (script : Path) (force : Bool) : Export.Plan :=
  Export.plan held.profile script (w.ledger.get held.record) force

end Workspace

namespace Work

theorem on_settle (a : Export.Attempt) (id : Export.RecordId) (trouble : Option Files.Error)
    (w : Workspace) :
    (settle a id trouble).on w =
      (.ok (), Workspace.reported
        { w with ledger := w.ledger.set id (Export.settle a trouble (w.ledger.get id)) }
        (a.report trouble)) := by
  simp only [settle, on_bind, on_modify]
  cases trouble <;> rfl

/-- An attempt to write a script, in full: a fault if no system takes its path; else the file is written, and
unless the content cannot be encoded the outcome is remembered and reported. -/
theorem on_attempt (a : Export.Attempt) (id : Export.RecordId) (w : Workspace) :
    (attempt a id).on w =
      match Fault.ofPath? a.script with
      | some fault => (.error fault, w)
      | none =>
        (a.ending (w.writing a).2, (w.attempted a id).reportedAll (a.reports (w.writing a).2)) := by
  simp only [attempt, on_bind, on_checkPath]
  cases Fault.ofPath? a.script with
  | some fault => rfl
  | none =>
    simp only [Option.elim_none]
    have hput : ∀ bytes, (put a.script bytes).on w = (.ok (w.writer w.files a.script bytes).2,
        { w with files := (w.writer w.files a.script bytes).1 }) := fun _ => rfl
    cases hencoded : Text.Utf8.encode a.content with
    | ok bytes =>
      have hbytes : a.bytes = bytes := by rw [Export.Attempt.bytes, hencoded]; rfl
      have hkept : ∀ trouble, a.givenUp? trouble = none := fun trouble => by
        rw [Export.Attempt.givenUp?, Export.Attempt.refusal?, hencoded, ite_self]
      simp only [on_bind, hput, on_settle, Workspace.attempted, Workspace.writing, Export.Attempt.remembered,
        Export.Attempt.reports, Export.Attempt.ending, hkept, hbytes]
      rfl
    | error refusal =>
      have hbytes : a.bytes = [] := by rw [Export.Attempt.bytes, hencoded]; rfl
      have hrefused : a.refusal? = some refusal := by rw [Export.Attempt.refusal?, hencoded]
      simp only [on_bind, hput, Workspace.attempted, Workspace.writing, Export.Attempt.remembered,
        Export.Attempt.reports, Export.Attempt.ending, Export.Attempt.givenUp?, hrefused, hbytes]
      cases (w.writer w.files a.script []).2 with
      | some e =>
        simp only [on_settle]
        rfl
      | none =>
        simp only [Option.isNone_none, if_true, Option.isSome_some, w.ledger.set_get]
        rfl

/-- Exporting a profile, in full: nothing for one without a pattern to use, a fault for a project without a
script, else what the plan says. -/
theorem on_exportProfile (held : Held) (force : Bool) (w : Workspace) :
    (exportProfile held force).on w =
      if held.profile.isUsable = false then (.ok none, w)
      else match w.scriptPath held.profile.root held.profile.config.shell with
        | .error fault => (.error fault, w)
        | .ok script =>
          match w.exportPlan held script force with
          | .nothing => (.ok none, w)
          | .inlined pattern => (.ok (some (.inlined pattern)), w)
          | .done script =>
            (.ok (some (.externalized Export.variableName script)),
              w.reported (Export.alreadyExported script))
          | .write a =>
            match Fault.ofPath? a.script with
            | some fault => (.error fault, w)
            | none =>
              ((a.ending (w.writing a).2).map fun _ => some a.placement,
                (w.attempted a held.record).reportedAll (a.reports (w.writing a).2)) := by
  unfold exportProfile
  cases held.profile.isUsable with
  | false => rfl
  | true =>
    simp only [Bool.not_true, Bool.false_eq_true, if_false, on_bind, on_scriptOf]
    cases w.scriptPath held.profile.root held.profile.config.shell with
    | error fault => rfl
    | ok script =>
      simp only [on_exportRecord, Bool.true_eq_false, if_false]
      show (match w.exportPlan held script force with
        | .nothing => _
        | .inlined _ => _
        | .done _ => _
        | .write _ => _ : Work _).on w = _
      cases w.exportPlan held script force with
      | nothing => rfl
      | inlined pattern => rfl
      | done script => rfl
      | write a =>
        simp only [on_bind, on_attempt]
        cases Fault.ofPath? a.script with
        | some fault => rfl
        | none => cases a.ending (w.writing a).2 <;> rfl

/-- What an export leaves alone stays as it is: any view that looks at neither the output nor the files
nor the records of exports. -/
theorem view_exportProfile {β : Type} (view : Workspace → β)
    (h : ∀ v output files ledger,
      view { v with output := output, files := files, ledger := ledger } = view v)
    (held : Held) (force : Bool) (w : Workspace) :
    view ((exportProfile held force).on w).2 = view w := by
  have hreports : ∀ v rs, view (Workspace.reportedAll v rs) = view v := fun v rs =>
    Workspace.view_reportedAll v rs view fun v output files => h v output files v.ledger
  rw [on_exportProfile]
  split
  · rfl
  · split
    · rfl
    · next script _ =>
      cases w.exportPlan held script force with
      | nothing => rfl
      | inlined pattern => rfl
      | done script => exact hreports w [_]
      | write a =>
        simp only
        split
        · rfl
        · rw [hreports]
          exact h w w.output _ _

theorem on_optionFor (held : Held) (byReference : Bool) (w : Workspace) :
    (optionFor held byReference).on w =
      match (exportProfile held false).on w with
      | (.ok placement, w') =>
        (.ok (Export.optionText held.profile placement (w'.ledger.get held.record) byReference), w')
      | (.error fault, w') => (.error fault, w') := by
  simp only [optionFor, on_bind]
  cases (exportProfile held false).on w with
  | mk result w' => cases result <;> rfl

/-- To give an option is to export the profile, and to read the option off what came of it. -/
theorem optionFor_snd (held : Held) (byReference : Bool) (w : Workspace) :
    ((optionFor held byReference).on w).2 = ((exportProfile held false).on w).2 := by
  rw [on_optionFor]
  cases (exportProfile held false).on w with
  | mk result w' => cases result <;> rfl

end Work

/-! ## 5. Finishing a request -/

namespace Request

/-- What compiling for a request comes to: its profile, or the fault with which compiling ends. -/
def outcome (request : Request) : Except Fault Profile :=
  match request.making with
  | .compiling task => task.compile.outcome.mapError (Fault.expression [])
  | .ready profile => .ok profile

/-- What is reported while the profile of a request is made. -/
def records (request : Request) : List Log.Record :=
  match request.making with
  | .compiling task => task.compile.records
  | .ready _ => []

end Request

namespace Workspace

/-- How a request ends whose profile is made. -/
def endingOf (w : Workspace) (request : Request) (profile : Profile) : Registry.Ending :=
  w.registry.ending request.root request.ticket profile w.ledger.fresh.1

/-- Reports make no difference to how a request ends. -/
@[simp] theorem endingOf_reportedAll (w : Workspace) (rs : List Log.Record) (request : Request)
    (profile : Profile) : (w.reportedAll rs).endingOf request profile = w.endingOf request profile := by
  simp only [endingOf, reportedAll_registry, reportedAll_ledger]

/-- The workspace when a request has ended, before the export. -/
def concluded (w : Workspace) (request : Request) (profile : Profile) : Workspace :=
  { w with
    ledger := w.ledger.fresh.2
    registry := w.registry.apply request.root request.config (w.endingOf request profile) }

end Workspace

namespace Work

theorem on_make (request : Request) (w : Workspace) :
    (make request).on w = (request.outcome, w.reportedAll request.records) := by
  unfold make Request.outcome Request.records
  cases request.making with
  | compiling task => simp only [compile, on_bind, on_reportAll, on_ofExcept]
  | ready profile => rfl

/-- What is reported when a request ends without publishing. -/
def discardRecord (message : String) (root : Path) : Log.Record :=
  Log.record Log.debug registrySource (Text.ofString message ++ root.render)

/-- Finishing a request, in full: a fault of compiling ends it at once; else it is discarded, or it gives
the profile of a later request, or its own profile is published and, if it can be used, exported. -/
theorem on_finish (request : Request) (w : Workspace) :
    (finish request).on w =
      match request.outcome with
      | .error fault => (.error fault, w.reportedAll request.records)
      | .ok profile =>
        let made := w.reportedAll request.records
        let done := made.concluded request profile
        match made.endingOf request profile with
        | .discarded =>
          (.ok { profile := profile, record := made.ledger.fresh.1, ticket := request.ticket },
            done.reported (discardRecord "Discarding compilation of removed root " request.root))
        | .superseded current =>
          (.ok current,
            done.reported (discardRecord "Discarding superseded compilation of " request.root))
        | .published held =>
          if profile.isUsable then
            match (exportProfile held false).on done with
            | (.ok _, w') =>
              (.ok held, w'.reported (Log.record Log.info registrySource profile.summary))
            | (.error fault, w') => (.error fault, w')
          else (.ok held, done.reported (Log.record Log.info registrySource profile.summary)) := by
  unfold finish
  simp only [on_bind, on_make]
  cases request.outcome with
  | error fault => rfl
  | ok profile =>
    simp only [freshRecord, on_modifyGet, on_get, on_modify]
    show (match (w.reportedAll request.records).endingOf request profile with
      | .discarded => _
      | .superseded _ => _
      | .published _ => _ : Work _).on
        ((w.reportedAll request.records).concluded request profile) = _
    cases (w.reportedAll request.records).endingOf request profile with
    | discarded => rfl
    | superseded current => rfl
    | published held =>
      cases profile.isUsable with
      | false => rfl
      | true =>
        simp only [if_true, on_bind]
        generalize (exportProfile held false).on _ = exported
        obtain ⟨result, w'⟩ := exported
        cases result <;> rfl

/-- What can be left when a request is finished that has made its reports: nothing else if compiling ended
in a fault; and otherwise what the request comes to, after an export if its profile is published and can
be used. -/
inductive Finish (request : Request) (made : Workspace) : Workspace → Prop where
  | faulted {fault : Fault} (h : request.outcome = .error fault) : Finish request made made
  | idle {profile : Profile} (h : request.outcome = .ok profile)
    (hidle : ∀ held, made.endingOf request profile = .published held → profile.isUsable = false)
    (r : Log.Record) : Finish request made ((made.concluded request profile).reported r)
  | exported {profile : Profile} {held : Held} (h : request.outcome = .ok profile)
    (hending : made.endingOf request profile = .published held) (rs : List Log.Record) :
    Finish request made
      (((exportProfile held false).on (made.concluded request profile)).2.reportedAll rs)

theorem finish_leaves (request : Request) (w : Workspace) :
    Finish request (w.reportedAll request.records) ((finish request).on w).2 := by
  rw [on_finish]
  generalize w.reportedAll request.records = made
  cases houtcome : request.outcome with
  | error fault => exact .faulted houtcome
  | ok profile =>
    simp only
    cases hending : made.endingOf request profile with
    | discarded => exact .idle houtcome (fun held he => by cases hending.symm.trans he) _
    | superseded current => exact .idle houtcome (fun held he => by cases hending.symm.trans he) _
    | published held =>
      cases husable : profile.isUsable with
      | false => exact .idle houtcome (fun _ _ => husable) _
      | true =>
        have hleft := Finish.exported houtcome hending
        simp only [if_true]
        revert hleft
        generalize (exportProfile held false).on _ = exported
        obtain ⟨result, w'⟩ := exported
        intro hleft
        cases result with
        | error fault => exact hleft []
        | ok placement => exact hleft [_]

/-- The registry after a request is finished. -/
theorem finish_registry (request : Request) (w : Workspace) :
    ((finish request).on w).2.registry =
      match request.outcome with
      | .error _ => w.registry
      | .ok profile => w.registry.apply request.root request.config (w.endingOf request profile) := by
  have hdone : ∀ profile, ((w.reportedAll request.records).concluded request profile).registry =
      w.registry.apply request.root request.config (w.endingOf request profile) := fun profile => by
    simp only [Workspace.concluded, Workspace.endingOf_reportedAll, Workspace.reportedAll_registry]
  have hleft := finish_leaves request w
  generalize ((finish request).on w).2 = left at hleft
  cases hleft with
  | faulted houtcome => rw [houtcome, Workspace.reportedAll_registry]
  | idle houtcome _ r => rw [houtcome, Workspace.reported_registry, hdone]
  | exported houtcome _ rs =>
    rw [houtcome, Workspace.reportedAll_registry, view_exportProfile (·.registry) fun _ _ _ _ => rfl]
    exact hdone _

/-- What finishing a request leaves alone stays as it is. -/
theorem view_finish {β : Type} (view : Workspace → β)
    (h : ∀ v output files ledger registry, view { v with
      output := output, files := files, ledger := ledger, registry := registry } = view v)
    (request : Request) (w : Workspace) : view ((finish request).on w).2 = view w := by
  have hreports : ∀ v rs, view (Workspace.reportedAll v rs) = view v := fun v rs =>
    Workspace.view_reportedAll v rs view fun v output files => h v output files v.ledger v.registry
  have hdone : ∀ v profile, view (Workspace.concluded v request profile) = view v := fun v profile =>
    h v v.output v.files _ _
  have hleft := finish_leaves request w
  rw [← hreports w request.records]
  generalize ((finish request).on w).2 = left at hleft
  cases hleft with
  | faulted _ => rfl
  | idle _ _ r => exact (hreports _ [r]).trans (hdone _ _)
  | exported _ _ rs =>
    rw [hreports, view_exportProfile view fun v output files ledger => h v output files ledger v.registry]
    exact hdone _ _

/-- What finishing a request gives if it ends without a fault. -/
theorem finish_result {request : Request} {w w' : Workspace} {held : Held}
    (h : (finish request).on w = (.ok held, w')) :
    ∃ profile, request.outcome = .ok profile ∧
      match w.endingOf request profile with
      | .discarded => held.profile = profile ∧ held.ticket = request.ticket
      | .superseded current => held = current
      | .published published => held = published := by
  rw [on_finish] at h
  cases ho : request.outcome with
  | error fault => simp [ho] at h
  | ok profile =>
    refine ⟨profile, rfl, ?_⟩
    simp only [ho, Workspace.endingOf_reportedAll] at h
    cases he : w.endingOf request profile with
    | discarded =>
      simp only [he, Prod.mk.injEq, Except.ok.injEq] at h
      rw [← h.1]
      exact ⟨rfl, rfl⟩
    | superseded current =>
      simp only [he, Prod.mk.injEq, Except.ok.injEq] at h
      exact h.1.symm
    | published published =>
      simp only [he] at h
      split at h
      · split at h
        · exact (Except.ok.inj (Prod.mk.inj h).1).symm
        · cases (Prod.mk.inj h).1
      · exact (Except.ok.inj (Prod.mk.inj h).1).symm

end Work

/-! ## 6. Questions and removals -/

/-- The answer about a project whose published profile, if any, is known. -/
def Workspace.usageOf (w : Workspace) (canUseVariable : Bool) : Option Held → Work.Usage
  | none => { usable := false, exemptions := 0, text := [] }
  | some held =>
    let p := held.profile
    match p.usable? with
    | none => { usable := false, exemptions := p.exemptions, text := [] }
    | some pattern =>
      { usable := true
        exemptions := p.exemptions
        text :=
          if canUseVariable && !decide ((pattern.length : Int) ≤ p.config.exportThreshold) &&
              (w.ledger.get held.record).succeeded then Export.reference p.config.shell
          else pattern }

/-- What a question about a project comes to: its answer, or a fault if the published profile has a pattern to
use and no script. -/
def Workspace.usageResult (w : Workspace) (canUseVariable : Bool) : Option Held → Except Fault Work.Usage
  | none => .ok (w.usageOf canUseVariable none)
  | some held =>
    if held.profile.isUsable then
      (w.scriptPath held.profile.root held.profile.config.shell).map fun _ =>
        w.usageOf canUseVariable (some held)
    else .ok (w.usageOf canUseVariable (some held))

namespace Work

theorem on_published (root : Path) (w : Workspace) :
    (published root).on w = ((w.resolve root).map w.registry.get?, w) := by
  simp only [published, on_bind, on_fullPath]
  cases w.resolve root <;> rfl

theorem on_usage_eq (root : Path) (canUseVariable : Bool) (w : Workspace) :
    (usage root canUseVariable).on w =
      ((w.resolve root).bind fun full => w.usageResult canUseVariable (w.registry.get? full), w) := by
  simp only [usage, on_bind, on_published]
  cases w.resolve root with
  | error fault => rfl
  | ok full =>
    simp only [Except.map, Except.bind]
    cases w.registry.get? full with
    | none => rfl
    | some held =>
      simp only [Workspace.usageResult, Workspace.usageOf]
      cases hu : held.profile.usable? with
      | none =>
        rw [Profile.isUsable_eq_false.mpr hu]
        rfl
      | some pattern =>
        have husable : held.profile.isUsable = true := by simp [Profile.isUsable, hu]
        simp only [placementOf, husable, if_true, on_bind, on_scriptOf]
        cases w.scriptPath held.profile.root held.profile.config.shell with
        | error fault => rfl
        | ok script =>
          simp only [on_exportRecord, on_pure, Export.placement?, hu, Option.map_some, Export.place]
          by_cases hle : (pattern.length : Int) ≤ held.profile.config.exportThreshold
          · simp [hle, Except.map]
          · simp [hle, Except.map]

/-- A question about a project changes nothing.  It has an answer where the path can be resolved and the
published profile has a script if it needs one. -/
theorem on_usage (root : Path) (canUseVariable : Bool) (w : Workspace) :
    ∃ result, (usage root canUseVariable).on w = (result, w) ∧
      ∀ answer, result = .ok answer → ∃ full, w.resolve root = .ok full ∧
        w.usageResult canUseVariable (w.registry.get? full) = .ok answer ∧
        answer = w.usageOf canUseVariable (w.registry.get? full) := by
  refine ⟨_, on_usage_eq root canUseVariable w, fun answer h => ?_⟩
  obtain ⟨full, hfull, h⟩ := bind_eq_ok.mp h
  refine ⟨full, hfull, h, ?_⟩
  unfold Workspace.usageResult at h
  split at h
  · next hnone =>
    cases h
    rw [hnone]
  · next held hheld =>
    rw [hheld]
    split at h
    · obtain ⟨script, -, h⟩ := map_eq_ok.mp h
      exact h.symm
    · exact (Except.ok.inj h).symm

theorem on_projectOption (root : Path) (byReference : Bool) (w : Workspace) :
    (projectOption root byReference).on w =
      match w.resolve root with
      | .error fault => (.error fault, w)
      | .ok full =>
        match w.registry.get? full with
        | none => (.ok [], w)
        | some held => (optionFor held byReference).on w := by
  simp only [projectOption, on_bind, on_published]
  cases w.resolve root with
  | error fault => rfl
  | ok full =>
    simp only [Except.map]
    cases w.registry.get? full <;> rfl

theorem on_remove (root : Path) (w : Workspace) :
    (remove root).on w =
      match w.resolve root with
      | .error fault => (.error fault, w)
      | .ok full =>
        (.ok (), Workspace.reported { w with registry := w.registry.remove full }
          (Log.record Log.debug registrySource
            (Text.ofString "Removed ignore profile: " ++ full.render))) := by
  simp only [remove, on_bind, on_fullPath]
  cases w.resolve root <;> rfl

theorem on_clear (w : Workspace) :
    clear.on w = (.ok (), { w with registry := w.registry.clear }) := rfl

end Work

end SkipPath
