import SkipPath.Proofs.Export.Script
import SkipPath.Proofs.Registry.Ticket
import SkipPath.Proofs.Workspace.Begin

/-!
The records of exports.

A record is handed on from profile to profile of one project, and it says which script was written last,
with which pattern, and whether the last attempt succeeded.  Two facts tie it to the files.  What a record
that claims success says of the script is true at any time (`Workspace.Written`), even between publishing
a profile and exporting it.  And once the export is through, such a record is about the pattern of the
published profile, if the variable is to carry that one (`Workspace.UpToDate`).  Exporting and finishing a
request keep both, whether or not the script can be written.
-/

namespace SkipPath

/-! ## 1. The world outside -/

namespace Workspace

/-- What exports need of their surroundings: writing into the folder for scripts is lawful, and the log
leaves the scripts alone. -/
structure Guarded (w : Workspace) : Prop where
  lawful : Files.Tree.Lawful w.scripts w.writer
  log : ∀ r t, Files.Tree.KeepsFiles w.scripts t (w.logging.store w.stamp r t)

/-- A step that leaves the registry, the records of exports, the scripts and the links alone.  It may change
other files, and also whether and how writing fails. -/
structure Outside (w w' : Workspace) : Prop where
  registry : w'.registry = w.registry
  ledger : w'.ledger = w.ledger
  scripts : w'.scripts = w.scripts
  links : w'.links = w.links
  files : Files.Tree.KeepsFiles w.scripts w.files w'.files
  guarded : w'.Guarded

theorem Guarded.of_same {w w' : Workspace} (h : w.Guarded) (hscripts : w'.scripts = w.scripts)
    (hwriter : w'.writer = w.writer) (hlogging : w'.logging = w.logging) (hstamp : w'.stamp = w.stamp) :
    w'.Guarded := by
  constructor
  · rw [hscripts, hwriter]; exact h.lawful
  · rw [hscripts, hlogging, hstamp]; exact h.log

theorem Guarded.reported {w : Workspace} (h : w.Guarded) (r : Log.Record) : (w.reported r).Guarded :=
  h.of_same (reportedAll_scripts w [r]) (reportedAll_writer w [r]) (reportedAll_logging w [r])
    (reportedAll_stamp w [r])

theorem outside_reported {w : Workspace} (h : w.Guarded) (r : Log.Record) : Outside w (w.reported r) := by
  refine ⟨reported_registry w r, reported_ledger w r, reportedAll_scripts w [r], reportedAll_links w [r], ?_,
    h.reported r⟩
  unfold reported
  split
  · exact h.log r w.files
  · exact .refl _ _

theorem Outside.refl {w : Workspace} (h : w.Guarded) : Outside w w := ⟨rfl, rfl, rfl, rfl, .refl _ _, h⟩

theorem Outside.trans {w w' w'' : Workspace} (h : Outside w w') (h' : Outside w' w'') :
    Outside w w'' where
  registry := h'.registry.trans h.registry
  ledger := h'.ledger.trans h.ledger
  scripts := h'.scripts.trans h.scripts
  links := h'.links.trans h.links
  files := h.files.trans (h.scripts ▸ h'.files)
  guarded := h'.guarded

theorem outside_reportedAll {w : Workspace} (h : w.Guarded) (rs : List Log.Record) :
    Outside w (w.reportedAll rs) := by
  induction rs generalizing w with
  | nil => exact .refl h
  | cons r rs ih => exact (outside_reported h r).trans (ih (h.reported r))

/-- The log makes no difference to what can be read of the scripts. -/
def LogsAside (w : Workspace) : Prop :=
  ∀ r t name, Files.Tree.IsInner name →
    (w.logging.store w.stamp r t).content? (w.scripts.child name) = t.content? (w.scripts.child name)

/-- Writing one script makes no difference to what can be read of the others, and neither does the log. -/
structure Steady (w : Workspace) : Prop where
  log : w.LogsAside
  writer : ∀ name other content, Files.Tree.IsInner name → Files.Tree.IsInner other → other ≠ name →
    (w.writer w.files (w.scripts.child name) content).1.content? (w.scripts.child other) =
      w.files.content? (w.scripts.child other)

theorem LogsAside.of_same {w w' : Workspace} (h : w.LogsAside) (hscripts : w'.scripts = w.scripts)
    (hlogging : w'.logging = w.logging) (hstamp : w'.stamp = w.stamp) : w'.LogsAside := by
  unfold LogsAside
  rw [hscripts, hlogging, hstamp]
  exact h

theorem LogsAside.content?_reported {w : Workspace} (h : w.LogsAside) (r : Log.Record) {name : Text}
    (hname : Files.Tree.IsInner name) :
    (w.reported r).files.content? (w.scripts.child name) = w.files.content? (w.scripts.child name) := by
  unfold reported
  split
  · exact h r w.files name hname
  · rfl

theorem LogsAside.content?_reportedAll {w : Workspace} (h : w.LogsAside) (rs : List Log.Record) {name : Text}
    (hname : Files.Tree.IsInner name) :
    (w.reportedAll rs).files.content? (w.scripts.child name) = w.files.content? (w.scripts.child name) := by
  induction rs generalizing w with
  | nil => rfl
  | cons r rs ih =>
    have hscripts : (w.reported r).scripts = w.scripts := reportedAll_scripts w [r]
    have hnext : (w.reported r).LogsAside :=
      h.of_same hscripts (reportedAll_logging w [r]) (reportedAll_stamp w [r])
    have hrest := ih hnext
    rw [hscripts] at hrest
    rw [reportedAll_cons, hrest, h.content?_reported r hname]

/-- Two projects have different scripts. -/
def ScriptsDiffer (w : Workspace) (root other : Path) : Prop :=
  ∀ shell script, w.scriptPath root shell = .ok script → w.scriptPath other shell ≠ .ok script

/-- Projects with different scripts for each shell have different ones for any two shells. -/
theorem ScriptsDiffer.ne {w : Workspace} {root other : Path} (h : w.ScriptsDiffer root other)
    {shell shell' : Shell} {script : Path} (hscript : w.scriptPath root shell = .ok script) :
    w.scriptPath other shell' ≠ .ok script := by
  intro hsame
  refine h shell script hscript ?_
  rw [scriptPath_congr ((isScript_scriptPath hscript).isCmd_eq (isScript_scriptPath hsame))]
  exact hsame

theorem ScriptsDiffer.of_ne {w : Workspace} {root other : Path}
    (h : ∀ shell, w.scriptPath root shell ≠ w.scriptPath other shell) : w.ScriptsDiffer root other :=
  fun shell _ hscript hother => h shell (hscript.trans hother.symm)

theorem ScriptsDiffer.of_same {w w' : Workspace} {root other : Path} (h : w.ScriptsDiffer root other)
    (hroot : root.anchor = .root) (hother : other.anchor = .root) (hlinks : w'.links = w.links)
    (hscripts : w'.scripts = w.scripts) : w'.ScriptsDiffer root other := by
  intro shell script
  rw [scriptPath_of_root hroot hlinks hscripts, scriptPath_of_root hother hlinks hscripts]
  exact h shell script

theorem ScriptsDiffer.symm {w : Workspace} {root other : Path} (h : w.ScriptsDiffer root other) :
    w.ScriptsDiffer other root := fun shell script hother hroot => h shell script hroot hother

end Workspace

namespace Export.Ledger

theorem get_fresh (l : Ledger) (id : RecordId) : l.fresh.2.get id = l.get id := by
  unfold get fresh
  rcases Nat.lt_trichotomy id l.records.length with h | h | h
  · rw [List.getElem?_append_left h]
  · rw [h, List.getElem?_append_right (Nat.le_refl _), Nat.sub_self, List.getElem?_eq_none (Nat.le_refl _)]
    rfl
  · rw [List.getElem?_eq_none (Nat.le_of_lt h), List.getElem?_eq_none]
    rw [List.length_append, List.length_singleton]
    exact h

theorem length_fresh (l : Ledger) : l.fresh.2.records.length = l.records.length + 1 := by
  simp [fresh]

theorem get_set_self (l : Ledger) {id : RecordId} (h : id < l.records.length) (r : Record) :
    (l.set id r).get id = r := by
  unfold get set
  rw [List.getElem?_set_self h]
  rfl

theorem get_set_other (l : Ledger) {id other : RecordId} (h : id ≠ other) (r : Record) :
    (l.set id r).get other = l.get other := by
  unfold get set
  rw [List.getElem?_set_ne h]

end Export.Ledger

namespace Export

/-- What has to be done for a profile with a pattern to use, given its script and its record. -/
theorem plan_cases {p : Profile} {pattern : Text} (hp : p.usable? = some pattern) (script : Path)
    (r : Record) (force : Bool) :
    (plan p script r force = .inlined pattern ∧ (pattern.length : Int) ≤ p.config.exportThreshold) ∨
    (¬ (pattern.length : Int) ≤ p.config.exportThreshold ∧
      plan p script r force = .done script ∧
        r.succeeded = true ∧ r.script = some script ∧ r.pattern = some pattern) ∨
    (¬ (pattern.length : Int) ≤ p.config.exportThreshold ∧
      plan p script r force = .write
        { pattern := pattern, shell := p.config.shell, script := script }) := by
  unfold plan place
  rw [hp]
  by_cases hle : (pattern.length : Int) ≤ p.config.exportThreshold
  · exact .inl ⟨by simp only [if_pos hle], hle⟩
  · refine .inr ?_
    simp only [if_neg hle]
    split
    · next hdone =>
      simp only [Bool.and_eq_true, decide_eq_true_eq] at hdone
      exact .inl ⟨hle, rfl, hdone.1.1.2, hdone.1.2, hdone.2⟩
    · exact .inr ⟨hle, rfl⟩

/-- The attempt to write a script that is made when a profile is exported, if one is made. -/
def attempt? (p : Profile) (script : Except Fault Path) (r : Record) (force : Bool) : Option Attempt :=
  if p.isUsable = false then none
  else match script with
    | .error _ => none
    | .ok script =>
      match plan p script r force with
      | .write a => if a.script.isWritable then some a else none
      | .nothing | .inlined _ | .done _ => none

/-- What the export of a profile gives: the place of its pattern; or a fault if there is no script, or no system
takes its path, or the attempt to write it is given up. -/
def placed (p : Profile) (script : Except Fault Path) (r : Record) (force : Bool)
    (trouble : Attempt → Option Files.Error) : Except Fault (Option Placement) :=
  if p.isUsable = false then .ok none
  else match script with
    | .error fault => .error fault
    | .ok script =>
      match plan p script r force with
      | .nothing => .ok none
      | .inlined pattern => .ok (some (.inlined pattern))
      | .done script => .ok (some (.externalized variableName script))
      | .write a =>
        match Fault.ofPath? a.script with
        | some fault => .error fault
        | none => (a.ending (trouble a)).map fun _ => some a.placement

/-- What an export gives goes by how the attempt ends that is made. -/
theorem placed_congr {p : Profile} {script : Except Fault Path} {r : Record} {force : Bool}
    {trouble trouble' : Attempt → Option Files.Error}
    (h : ∀ a, attempt? p script r force = some a → trouble a = trouble' a) :
    placed p script r force trouble = placed p script r force trouble' := by
  revert h
  unfold placed attempt?
  cases p.isUsable with
  | false => exact fun _ => rfl
  | true =>
    cases script with
    | error fault => exact fun _ => rfl
    | ok script =>
      simp only [Bool.true_eq_false, if_false]
      intro h
      cases hplan : plan p script r force with
      | write a =>
        simp only
        cases hpath : Fault.ofPath? a.script with
        | some fault => rfl
        | none =>
          rw [hplan] at h
          rw [h a (if_pos (Fault.ofPath?_eq_none.mp hpath))]
      | _ => rfl

namespace Attempt

variable {a : Attempt}

/-- What can be encoded is not given up. -/
theorem givenUp?_of_encodable (h : a.pattern.Encodable) (trouble : Option Files.Error) :
    a.givenUp? trouble = none := by
  have hencoded : Text.Utf8.encode a.content = .ok _ :=
    Text.Utf8.encode_of_encodable (encodable_assignment.mpr h)
  rw [givenUp?, refusal?, hencoded, ite_self]

theorem remembered_of_encodable (h : a.pattern.Encodable) (trouble : Option Files.Error) (r : Record) :
    a.remembered trouble r = settle a trouble r := by
  rw [remembered, givenUp?_of_encodable h]
  rfl

/-- An attempt ends well if it is not given up. -/
theorem map_ending_eq_ok {α : Type} {f : Unit → α} {trouble : Option Files.Error} {x : α} :
    (a.ending trouble).map f = .ok x ↔ a.givenUp? trouble = none ∧ f () = x := by
  rw [ending]
  cases a.givenUp? trouble <;> simp [Except.map]

theorem encode_of_encodable (h : a.pattern.Encodable) :
    Text.Utf8.encode (assignment a.shell a.pattern) = .ok a.bytes := by
  rw [bytes, Attempt.content, Text.Utf8.encode_of_encodable (encodable_assignment.mpr h)]
  rfl

end Attempt

end Export

/-! ## 2. What records claim -/

/-- A profile has a pattern, and the variable is to carry it. -/
def Profile.Carries (p : Profile) (pattern : Text) : Prop :=
  p.usable? = some pattern ∧ ¬ (pattern.length : Int) ≤ p.config.exportThreshold

/-- If a profile has a pattern to use, that can be encoded. -/
def Profile.Encodable (p : Profile) : Prop := ∀ pattern, p.usable? = some pattern → pattern.Encodable

namespace Workspace

/-- A file holds the command that sets the variable to a pattern. -/
def Sets (w : Workspace) (script : Path) (shell : Shell) (pattern : Text) : Prop :=
  ∃ bytes, Text.Utf8.encode (Export.assignment shell pattern) = .ok bytes ∧ w.files.read script = .ok bytes

/-- What a record claims of a project's script is true. -/
def Written (w : Workspace) (root : Path) (r : Export.Record) : Prop :=
  ∃ shell script pattern,
    w.scriptPath root shell = .ok script ∧ script.isWritable = true ∧
      r.script = some script ∧ r.pattern = some pattern ∧ w.Sets script shell pattern

/-- The record of a published profile, if it claims success and the variable is to carry the pattern, is
about this profile. -/
def UpToDate (w : Workspace) (root : Path) : Prop :=
  ∀ held pattern, w.registry.get? root = some held → held.profile.Carries pattern →
    (w.ledger.get held.record).succeeded = true →
    ∃ script, w.scriptPath root held.profile.config.shell = .ok script ∧
      (w.ledger.get held.record).script = some script ∧
      (w.ledger.get held.record).pattern = some pattern

/-- Every published profile has a record of exports, and no two projects share one. -/
structure RecordsApart (w : Workspace) : Prop where
  known : ∀ root held, w.registry.get? root = some held → held.record < w.ledger.records.length
  separate : ∀ root root' held held', w.registry.get? root = some held →
    w.registry.get? root' = some held' → held.record = held'.record → root = root'

theorem recordsApart_of_unpublished {w : Workspace} (h : ∀ root, w.registry.get? root = none) :
    w.RecordsApart where
  known root held hheld := by rw [h] at hheld; cases hheld
  separate root _ held _ hheld := by rw [h] at hheld; cases hheld

/-- Less may be published. -/
theorem RecordsApart.forgetting {w w' : Workspace} (h : w.RecordsApart) (hledger : w'.ledger = w.ledger)
    (hless : ∀ root held, w'.registry.get? root = some held → w.registry.get? root = some held) :
    w'.RecordsApart where
  known root held hheld := by rw [hledger]; exact h.known root held (hless root held hheld)
  separate root root' held held' hheld hheld' :=
    h.separate root root' held held' (hless root held hheld) (hless root' held' hheld')

theorem RecordsApart.of_same {w w' : Workspace} (h : w.RecordsApart) (hregistry : w'.registry = w.registry)
    (hledger : w'.ledger = w.ledger) : w'.RecordsApart :=
  h.forgetting hledger fun root held hheld => by rwa [hregistry] at hheld

/-- What holds at any time, even between publishing a profile and exporting it. -/
structure Recorded (w : Workspace) : Prop extends RecordsApart w where
  guarded : w.Guarded
  about : ∀ root held, w.registry.get? root = some held →
    root.anchor = .root ∧ held.profile.root = root
  starts : ∀ root held pattern, w.registry.get? root = some held →
    held.profile.usable? = some pattern → Text.StartsSeparated pattern
  encodable : ∀ root held, w.registry.get? root = some held → held.profile.Encodable
  written : ∀ root held, w.registry.get? root = some held →
    (w.ledger.get held.record).succeeded = true → w.Written root (w.ledger.get held.record)

/-- The scripts of all other published projects lie elsewhere. -/
def Apart (w : Workspace) (root : Path) : Prop :=
  ∀ other held, w.registry.get? other = some held → other ≠ root → w.ScriptsDiffer other root

theorem Written.keeps {w w' : Workspace} {root : Path} {r : Export.Record} (h : w.Written root r)
    (hroot : root.anchor = .root) (hlinks : w'.links = w.links) (hscripts : w'.scripts = w.scripts)
    (hfiles : ∀ shell script content, w.scriptPath root shell = .ok script →
      w.files.read script = .ok content → w'.files.read script = .ok content) : w'.Written root r := by
  obtain ⟨shell, script, pattern, hpath, hwritable, hscript, hpattern, bytes, hbytes, hread⟩ := h
  refine ⟨shell, script, pattern, ?_, hwritable, hscript, hpattern, bytes, hbytes,
    hfiles shell script bytes hpath hread⟩
  rw [scriptPath_of_root hroot hlinks hscripts]
  exact hpath

theorem UpToDate.keeps {w w' : Workspace} {root : Path} (h : w.UpToDate root)
    (hroot : ∀ held, w.registry.get? root = some held → root.anchor = .root)
    (hlinks : w'.links = w.links) (hscripts : w'.scripts = w.scripts)
    (hget : w'.registry.get? root = w.registry.get? root)
    (hrecord : ∀ held, w.registry.get? root = some held →
      w'.ledger.get held.record = w.ledger.get held.record) : w'.UpToDate root := by
  intro held pattern hheld hcarries hsucceeded
  rw [hget] at hheld
  rw [hrecord held hheld] at hsucceeded ⊢
  rw [scriptPath_of_root (hroot held hheld) hlinks hscripts]
  exact h held pattern hheld hcarries hsucceeded

namespace Recorded

variable {w w' : Workspace}

theorem outside (h : w.Recorded) (hw : Outside w w') : w'.Recorded where
  guarded := hw.guarded
  toRecordsApart := h.toRecordsApart.of_same hw.registry hw.ledger
  about := by rw [hw.registry]; exact h.about
  starts := by rw [hw.registry]; exact h.starts
  encodable := by rw [hw.registry]; exact h.encodable
  written root held hheld hsucceeded := by
    rw [hw.registry] at hheld
    rw [hw.ledger] at hsucceeded ⊢
    refine (h.written root held hheld hsucceeded).keeps (h.about root held hheld).1 hw.links hw.scripts ?_
    intro shell script content hscript hread
    obtain ⟨name, rfl, hinner, -⟩ := (isScript_scriptPath hscript).named
    exact hw.files name content hinner hread

theorem upToDate_outside (h : w.Recorded) {root : Path} (hroot : w.UpToDate root)
    (hw : Outside w w') : w'.UpToDate root :=
  hroot.keeps (fun held hheld => (h.about root held hheld).1) hw.links hw.scripts (by rw [hw.registry])
    fun _ _ => by rw [hw.ledger]

/-- What is published may be taken away. -/
theorem forgetting (h : w.Recorded) {registry : Registry}
    (hless : ∀ root held, registry.get? root = some held → w.registry.get? root = some held) :
    Recorded { w with registry := registry } where
  guarded := h.guarded.of_same rfl rfl rfl rfl
  about root held hheld := h.about root held (hless root held hheld)
  starts root held pattern hheld := h.starts root held pattern (hless root held hheld)
  encodable root held hheld := h.encodable root held (hless root held hheld)
  toRecordsApart := h.toRecordsApart.forgetting rfl hless
  written root held hheld := h.written root held (hless root held hheld)

end Recorded

/-! ## 3. Exports -/

section attempt

variable {w : Workspace} {root : Path} {pattern : Text} {shell : Shell} {script : Path}

theorem attempted_scripts (a : Export.Attempt) (id : Export.RecordId) :
    (w.attempted a id).scripts = w.scripts := by rw [Workspace.attempted]

theorem attempted_links (a : Export.Attempt) (id : Export.RecordId) :
    (w.attempted a id).links = w.links := by rw [Workspace.attempted]

theorem RecordsApart.attempted (h : w.RecordsApart) (a : Export.Attempt) (id : Export.RecordId) :
    (w.attempted a id).RecordsApart where
  known root held hheld := by
    have hlength := h.known root held hheld
    rwa [Workspace.attempted, Export.Ledger.set, List.length_set]
  separate := h.separate

/-- The attempt that is made when a profile that is held is exported, if one is made. -/
def attemptOf (w : Workspace) (held : Held) (force : Bool) : Option Export.Attempt :=
  Export.attempt? held.profile (w.scriptPath held.profile.root held.profile.config.shell)
    (w.ledger.get held.record) force

/-- An attempt is made at the script of a project, whose path a system takes. -/
structure AttemptAt (w : Workspace) (root : Path) (a : Export.Attempt) : Prop where
  script : w.scriptPath root a.shell = .ok a.script
  writable : a.script.isWritable = true

theorem AttemptAt.isScript {a : Export.Attempt} (h : w.AttemptAt root a) :
    Export.IsScript w.scripts a.shell a.script := isScript_scriptPath h.script

section exports

variable {held : Held} {force : Bool}

/-- An attempt is about the script of the profile and its pattern. -/
theorem of_attemptOf {a : Export.Attempt} (h : w.attemptOf held force = some a) :
    w.AttemptAt held.profile.root a ∧ a.shell = held.profile.config.shell ∧
      held.profile.usable? = some a.pattern := by
  unfold attemptOf Export.attempt? at h
  split at h
  · cases h
  · next husable =>
    obtain ⟨pattern, hpattern⟩ := Option.isSome_iff_exists.mp (eq_true_of_ne_false husable)
    cases hscript : w.scriptPath held.profile.root held.profile.config.shell with
    | error fault =>
      rw [hscript] at h
      cases h
    | ok script =>
    rw [hscript] at h
    simp only at h
    rcases Export.plan_cases hpattern script (w.ledger.get held.record) force with
      ⟨he, -⟩ | ⟨-, he, -⟩ | ⟨-, he⟩
    · rw [he] at h
      cases h
    · rw [he] at h
      cases h
    · rw [he] at h
      simp only at h
      split at h
      · next hwritable =>
        cases h
        exact ⟨⟨hscript, hwritable⟩, rfl, hpattern⟩
      · cases h

/-- An export is an attempt with its reports, or nothing but reports. -/
theorem exportProfile_snd (w : Workspace) (held : Held) (force : Bool) :
    (∃ a, w.attemptOf held force = some a ∧ ((Work.exportProfile held force).on w).2 =
      (w.attempted a held.record).reportedAll (a.reports (w.writing a).2)) ∨
    w.attemptOf held force = none ∧ OnlyReports w ((Work.exportProfile held force).on w).2 := by
  rw [Work.on_exportProfile]
  unfold attemptOf Export.attempt?
  cases held.profile.isUsable with
  | false => exact .inr ⟨rfl, .refl w⟩
  | true =>
    cases w.scriptPath held.profile.root held.profile.config.shell with
    | error fault => exact .inr ⟨rfl, .refl w⟩
    | ok script =>
      simp only [Bool.true_eq_false, if_false, exportPlan]
      cases Export.plan held.profile script (w.ledger.get held.record) force with
      | nothing => exact .inr ⟨rfl, .refl w⟩
      | inlined pattern => exact .inr ⟨rfl, .refl w⟩
      | done script => exact .inr ⟨rfl, .reported w _⟩
      | write a =>
        simp only
        cases hfault : Fault.ofPath? a.script with
        | some fault => exact .inr ⟨if_neg (Fault.not_isWritable hfault), .refl w⟩
        | none => exact .inl ⟨a, if_pos (Fault.ofPath?_eq_none.mp hfault), rfl⟩

theorem exportProfile_fst (w : Workspace) (held : Held) (force : Bool) :
    ((Work.exportProfile held force).on w).1 =
      Export.placed held.profile (w.scriptPath held.profile.root held.profile.config.shell)
        (w.ledger.get held.record) force (fun a => (w.writing a).2) := by
  rw [Work.on_exportProfile]
  unfold Export.placed
  cases held.profile.isUsable with
  | false => rfl
  | true =>
    cases w.scriptPath held.profile.root held.profile.config.shell with
    | error fault => rfl
    | ok script =>
      simp only [Bool.true_eq_false, if_false, exportPlan]
      cases Export.plan held.profile script (w.ledger.get held.record) force with
      | write a =>
        simp only
        cases Fault.ofPath? a.script <;> rfl
      | _ => rfl

/-- Exports leave every profile with a record of its own. -/
theorem RecordsApart.exported (h : w.RecordsApart) (held : Held) (force : Bool) :
    ((Work.exportProfile held force).on w).2.RecordsApart := by
  rcases exportProfile_snd w held force with ⟨a, -, hleft⟩ | ⟨-, rs, hleft⟩
  · rw [hleft]
    exact (h.attempted a held.record).of_same (reportedAll_registry ..) (reportedAll_ledger ..)
  · rw [hleft]
    exact h.of_same (reportedAll_registry w rs) (reportedAll_ledger w rs)

end exports

variable {a : Export.Attempt}

/-- An attempt that succeeds makes the record true, if the pattern can be encoded. -/
theorem AttemptAt.written (ha : w.AttemptAt root a) (h : w.Guarded) (hroot : root.anchor = .root)
    (hencodable : a.pattern.Encodable) (id : Export.RecordId) {r : Export.Record}
    (hsucceeded : (a.remembered (w.writing a).2 r).succeeded = true) :
    (w.attempted a id).Written root (a.remembered (w.writing a).2 r) := by
  rw [Export.Attempt.remembered_of_encodable hencodable] at hsucceeded ⊢
  obtain ⟨name, hname, hinner, -⟩ := ha.isScript.named
  cases htrouble : (w.writing a).2 with
  | some e => rw [htrouble] at hsucceeded; cases hsucceeded
  | none =>
    refine ⟨a.shell, a.script, a.pattern, ?_, ha.writable, rfl, rfl, a.bytes,
      Export.Attempt.encode_of_encodable hencodable, ?_⟩
    · exact (scriptPath_of_root hroot (attempted_links a id) (attempted_scripts a id) _).trans ha.script
    · rw [hname]
      refine h.lawful.holds w.files _ _ _ hinner ?_
      rw [← hname]
      exact Prod.ext rfl htrouble

/-- An attempt leaves the scripts at other paths as they are. -/
theorem AttemptAt.read_other (ha : w.AttemptAt root a) (h : w.Guarded) (id : Export.RecordId)
    (hother : Export.IsScript w.scripts shell script) (hne : script ≠ a.script) {content : List UInt8}
    (hread : w.files.read script = .ok content) : (w.attempted a id).files.read script = .ok content := by
  obtain ⟨name, hname, hinner, -⟩ := ha.isScript.named
  obtain ⟨name', rfl, hinner', -⟩ := hother.named
  have hkept := h.lawful.keeps w.files name a.bytes name' content hinner hinner'
    (fun he => hne (by rw [hname, he])) hread
  rw [← hname] at hkept
  exact hkept

/-- What an attempt to write a script of a project leaves: the record of that project is true again, be it
that the attempt failed, and the scripts of the other projects are as they were. -/
theorem Recorded.attempted (h : w.Recorded) {held : Held} (hheld : w.registry.get? root = some held)
    (hapart : w.Apart root) (ha : w.AttemptAt root a) (hencodable : a.pattern.Encodable) :
    (w.attempted a held.record).Recorded := by
  have hknown := h.known root held hheld
  refine ⟨h.toRecordsApart.attempted _ _, h.guarded.of_same rfl rfl rfl rfl, h.about, h.starts,
    h.encodable, ?_⟩
  intro other held' hheld' hsucceeded
  have hledger : (w.attempted a held.record).ledger =
    w.ledger.set held.record (a.remembered (w.writing a).2 (w.ledger.get held.record)) := rfl
  by_cases he : other = root
  · subst he
    cases hheld.symm.trans hheld'
    rw [hledger, Export.Ledger.get_set_self _ hknown] at hsucceeded ⊢
    exact ha.written h.guarded (h.about other held hheld).1 hencodable _ hsucceeded
  · have hrecord : held.record ≠ held'.record := fun hsame =>
      he (h.separate root other held held' hheld hheld' hsame).symm
    rw [hledger, Export.Ledger.get_set_other _ hrecord] at hsucceeded ⊢
    refine (h.written other held' hheld' hsucceeded).keeps (h.about other held' hheld').1
      (attempted_links _ _) (attempted_scripts _ _) fun shell' script content hscript hread => ?_
    refine ha.read_other h.guarded _ (isScript_scriptPath hscript) (fun hsame => ?_) hread
    exact (hapart other held' hheld' he).ne hscript (hsame ▸ ha.script)

end attempt

/-- What an export of a published profile leaves: the record of its project is about it, if it claims
success, and the other projects are as before. -/
structure Exported (w : Workspace) (root : Path) (w' : Workspace) : Prop where
  recorded : w'.Recorded
  current : w'.UpToDate root
  others : ∀ other, other ≠ root → w.UpToDate other → w'.UpToDate other

/-- There was nothing to do but to report. -/
theorem Recorded.exported_outside {w w' : Workspace} (h : w.Recorded) {root : Path}
    (hcurrent : w.UpToDate root) (hw : Outside w w') : Exported w root w' where
  recorded := h.outside hw
  current := h.upToDate_outside hcurrent hw
  others _ _ hother := h.upToDate_outside hother hw

theorem Exported.outside {w w₁ w' : Workspace} {root : Path} (h : Exported w root w₁)
    (hw : Outside w₁ w') : Exported w root w' where
  recorded := h.recorded.outside hw
  current := h.recorded.upToDate_outside h.current hw
  others other hne hother := h.recorded.upToDate_outside (h.others other hne hother) hw

theorem upToDate_of_not_succeeded {w : Workspace} {root : Path} {held : Held}
    (hheld : w.registry.get? root = some held) (h : (w.ledger.get held.record).succeeded ≠ true) :
    w.UpToDate root := by
  intro held' pattern hheld' _ hsucceeded
  cases hheld.symm.trans hheld'
  exact absurd hsucceeded h

theorem upToDate_of_not_carried {w : Workspace} {root : Path} {held : Held}
    (hheld : w.registry.get? root = some held) (h : ∀ pattern, ¬ held.profile.Carries pattern) :
    w.UpToDate root := by
  intro held' pattern hheld' hcarries
  cases hheld.symm.trans hheld'
  exact absurd hcarries (h pattern)

theorem Recorded.exported_attempted {w : Workspace} (h : w.Recorded) {root : Path} {held : Held}
    (hheld : w.registry.get? root = some held) (hapart : w.Apart root) {a : Export.Attempt}
    (ha : w.AttemptAt root a) (hshell : a.shell = held.profile.config.shell)
    (hp : held.profile.usable? = some a.pattern) : Exported w root (w.attempted a held.record) := by
  have hknown := h.known root held hheld
  have hencodable := h.encodable root held hheld a.pattern hp
  have hledger : (w.attempted a held.record).ledger =
    w.ledger.set held.record (a.remembered (w.writing a).2 (w.ledger.get held.record)) := rfl
  refine ⟨h.attempted hheld hapart ha hencodable, ?_, ?_⟩
  · intro held' pattern' hheld' hcarries hsucceeded
    cases hheld.symm.trans hheld'
    cases hp.symm.trans hcarries.1
    rw [hledger, Export.Ledger.get_set_self _ hknown,
      Export.Attempt.remembered_of_encodable hencodable] at hsucceeded ⊢
    cases htrouble : (w.writing a).2 with
    | some e => rw [htrouble] at hsucceeded; cases hsucceeded
    | none =>
      refine ⟨a.script, ?_, rfl, rfl⟩
      rw [← hshell]
      exact (scriptPath_of_root (h.about root held hheld).1 (attempted_links _ _) (attempted_scripts _ _)
        _).trans ha.script
  · intro other hne hother
    refine hother.keeps (fun held' hheld' => (h.about other held' hheld').1) (attempted_links _ _)
      (attempted_scripts _ _) rfl fun held' hheld' => ?_
    rw [hledger, Export.Ledger.get_set_other]
    exact fun hsame => hne (h.separate root other held held' hheld hheld' hsame).symm

/-- An export without an attempt, though the variable is to carry the pattern and the record is not about it:
no earlier one can have succeeded either. -/
theorem Recorded.not_succeeded {w : Workspace} (h : w.Recorded) {root : Path} {held : Held}
    (hheld : w.registry.get? root = some held)
    (hno : ∀ script, w.scriptPath root held.profile.config.shell = .ok script → ¬ script.isWritable = true) :
    (w.ledger.get held.record).succeeded ≠ true := by
  intro hsucceeded
  obtain ⟨shell, script, _, hpath, hwritable, -⟩ := h.written root held hheld hsucceeded
  obtain ⟨script', hpath'⟩ := exists_scriptPath hpath held.profile.config.shell
  exact hno script' hpath' ((scriptPath_isWritable hpath hpath').symm.trans hwritable)

theorem Recorded.exported {w : Workspace} (h : w.Recorded) {root : Path} {held : Held}
    (hheld : w.registry.get? root = some held) (hapart : w.Apart root) (force : Bool) :
    Exported w root ((Work.exportProfile held force).on w).2 := by
  obtain ⟨hroot, habout⟩ := h.about root held hheld
  rw [Work.on_exportProfile, habout]
  cases hp : held.profile.usable? with
  | none =>
    rw [if_pos (Profile.isUsable_eq_false.mpr hp)]
    exact h.exported_outside
      (upToDate_of_not_carried hheld fun pattern hc => by cases hp.symm.trans hc.1) (.refl h.guarded)
  | some pattern =>
    rw [if_neg (Profile.isUsable_of_usable hp)]
    have hfault : (∀ script, w.scriptPath root held.profile.config.shell = .ok script →
        ¬ script.isWritable = true) → Exported w root w := fun hno =>
      h.exported_outside (upToDate_of_not_succeeded hheld (h.not_succeeded hheld hno)) (.refl h.guarded)
    cases hscript : w.scriptPath root held.profile.config.shell with
    | error fault => exact hfault fun script he => by cases hscript.symm.trans he
    | ok script =>
      simp only [exportPlan]
      rcases Export.plan_cases hp script (w.ledger.get held.record) force with
        ⟨he, hle⟩ | ⟨-, he, hrecord⟩ | ⟨-, he⟩
      · rw [he]
        refine h.exported_outside (upToDate_of_not_carried hheld fun pattern' hc => ?_)
          (.refl h.guarded)
        cases hp.symm.trans hc.1
        exact hc.2 hle
      · rw [he]
        refine h.exported_outside (fun held' pattern' hheld' hc _ => ?_) (outside_reported h.guarded _)
        cases hheld.symm.trans hheld'
        cases hp.symm.trans hc.1
        exact ⟨script, hscript, hrecord.2⟩
      · rw [he]
        simp only
        cases hpath : Fault.ofPath? script with
        | some fault =>
          refine hfault fun script' he => ?_
          cases hscript.symm.trans he
          exact Fault.not_isWritable hpath
        | none =>
          have ha : w.AttemptAt root
              { pattern := pattern, shell := held.profile.config.shell, script := script } :=
            ⟨hscript, Fault.ofPath?_eq_none.mp hpath⟩
          have hdone := h.exported_attempted hheld hapart ha rfl hp
          exact hdone.outside (outside_reportedAll hdone.recorded.guarded _)

/-! ## 4. Finishing a request -/

/-- What holds between operations. -/
structure Synced (w : Workspace) : Prop where
  recorded : w.Recorded
  upToDate : ∀ root, w.UpToDate root

theorem Synced.outside {w w' : Workspace} (h : w.Synced) (hw : Outside w w') : w'.Synced where
  recorded := h.recorded.outside hw
  upToDate root := h.recorded.upToDate_outside (h.upToDate root) hw

/-- An export brings everything into step if the other projects were so before. -/
theorem Exported.synced {w w' : Workspace} {root : Path} (h : Exported w root w')
    (hothers : ∀ other, other ≠ root → w.UpToDate other) : w'.Synced where
  recorded := h.recorded
  upToDate other := by
    by_cases he : other = root
    · rw [he]; exact h.current
    · exact h.others other he (hothers other he)

end Workspace

/-- What comes of a request can be encoded. -/
def Request.Encodable (request : Request) : Prop :=
  ∀ profile, request.outcome = .ok profile → profile.Encodable

instance (p : Profile) : Decidable p.Encodable :=
  inferInstanceAs (Decidable (∀ pattern ∈ p.usable?, pattern.Encodable))

instance (request : Request) : Decidable request.Encodable :=
  decidable_of_iff (∀ profile ∈ request.outcome.toOption, profile.Encodable) <| by
    unfold Request.Encodable
    cases request.outcome <;> simp [Except.toOption]

theorem Request.WellFormed.startsSeparated {request : Request} (h : request.WellFormed) {p : Profile}
    (hp : request.outcome = .ok p) {pattern : Text} (hpattern : p.usable? = some pattern) :
    Text.StartsSeparated pattern := by
  have hsuits := h.suits
  unfold Request.outcome at hp
  cases hm : request.making with
  | compiling task =>
    rw [hm] at hp
    exact Task.compile_startsSeparated (ok_of_mapError hp) hpattern
  | ready q =>
    rw [hm] at hp hsuits
    cases hp
    exact absurd hsuits.2.2 (Profile.isUsable_of_usable hpattern)

namespace Workspace

theorem Apart.keeps {w w' : Workspace} {root : Path} (h : w.Apart root) (hrecorded : w.Recorded)
    (hroot : root.anchor = .root) (hlinks : w'.links = w.links) (hscripts : w'.scripts = w.scripts)
    (hget : ∀ other held, w'.registry.get? other = some held → other ≠ root →
      w.registry.get? other = some held) : w'.Apart root := by
  intro other held hheld hne shell script
  have hbefore := hget other held hheld hne
  rw [scriptPath_of_root (hrecorded.about other held hbefore).1 hlinks hscripts,
    scriptPath_of_root hroot hlinks hscripts]
  exact h other held hbefore hne shell script

section conclude

variable {w : Workspace} {request : Request} {profile : Profile}

theorem concluded_scripts : (w.concluded request profile).scripts = w.scripts := by
  rw [concluded]

theorem concluded_links : (w.concluded request profile).links = w.links := by
  rw [concluded]

theorem concluded_files : (w.concluded request profile).files = w.files := by
  rw [concluded]

theorem concluded_ledger : (w.concluded request profile).ledger = w.ledger.fresh.2 := by
  rw [concluded]

theorem concluded_registry : (w.concluded request profile).registry =
    w.registry.apply request.root request.config (w.endingOf request profile) := by
  rw [concluded]

theorem Written.concluded {root : Path} {r : Export.Record} (h : w.Written root r)
    (hroot : root.anchor = .root) : (w.concluded request profile).Written root r :=
  h.keeps hroot concluded_links concluded_scripts fun _ _ _ _ hread => by rw [concluded_files]; exact hread

theorem Guarded.concluded (h : w.Guarded) : (w.concluded request profile).Guarded :=
  h.of_same concluded_scripts (by rw [Workspace.concluded]) (by rw [Workspace.concluded])
    (by rw [Workspace.concluded])

theorem UpToDate.concluded {root : Path} (h : w.UpToDate root) (hrecorded : w.Recorded)
    (hsame : (w.concluded request profile).registry.get? root = w.registry.get? root) :
    (w.concluded request profile).UpToDate root :=
  h.keeps (fun held hheld => (hrecorded.about root held hheld).1) concluded_links concluded_scripts hsame
    fun held _ => by rw [concluded_ledger, Export.Ledger.get_fresh]

/-- The record that a published profile comes with. -/
def recordFor (w : Workspace) (root : Path) : Export.RecordId :=
  (w.registry.get? root).elim w.ledger.fresh.1 (·.record)

theorem recordFor_lt (h : w.RecordsApart) (root : Path) :
    w.recordFor root < w.ledger.fresh.2.records.length := by
  rw [Export.Ledger.length_fresh, recordFor]
  cases hget : w.registry.get? root with
  | none => exact Nat.lt_succ_self _
  | some current => exact Nat.lt_succ_of_lt (h.known root current hget)

/-- No other project has the record that a profile is published with. -/
theorem recordFor_separate (h : w.RecordsApart) {root other : Path} {held : Held}
    (hheld : w.registry.get? other = some held) (hrecord : held.record = w.recordFor root) :
    other = root := by
  unfold recordFor at hrecord
  cases hget : w.registry.get? root with
  | none =>
    rw [hget] at hrecord
    have hlt := h.known other held hheld
    rw [hrecord] at hlt
    exact absurd hlt (Nat.lt_irrefl _)
  | some current =>
    rw [hget] at hrecord
    exact h.separate other root held current hheld hget hrecord

/-- The record that a profile is published with claims no success, or it is that of the profile before. -/
theorem written_recordFor (h : w.Recorded) {root : Path}
    (hsucceeded : (w.ledger.get (w.recordFor root)).succeeded = true) :
    root.anchor = .root ∧ w.Written root (w.ledger.get (w.recordFor root)) := by
  unfold recordFor at hsucceeded ⊢
  cases hget : w.registry.get? root with
  | none =>
    rw [hget] at hsucceeded
    simp [Export.Ledger.get, Export.Ledger.fresh, Export.Record.blank] at hsucceeded
  | some current =>
    rw [hget] at hsucceeded
    exact ⟨(h.about root current hget).1, h.written root current hget hsucceeded⟩

/-- What is published of a request, and with which record. -/
def heldFor (w : Workspace) (request : Request) (profile : Profile) : Held :=
  { profile := profile, ticket := request.ticket, record := w.recordFor request.root }

theorem heldFor_of_published {held : Held} (h : w.endingOf request profile = .published held) :
    held = w.heldFor request profile := by
  rcases w.registry.ending_cases request.root request.ticket profile w.ledger.fresh.1 with
    ⟨-, he⟩ | ⟨-, current, -, -, he⟩ | ⟨-, -, he⟩
  · cases he.symm.trans h
  · cases he.symm.trans h
  · exact (Registry.Ending.published.inj (he.symm.trans h)).symm

/-- Whatever is published after a request has ended was published before, or it is the profile of the
request. -/
theorem get?_concluded {other : Path} {held : Held}
    (h : (w.concluded request profile).registry.get? other = some held) :
    (other = request.root ∧ held = w.heldFor request profile) ∨
    w.registry.get? other = some held ∧ (other = request.root →
      w.endingOf request profile ≠ .published (w.heldFor request profile)) := by
  rw [concluded_registry] at h
  cases hending : w.endingOf request profile with
  | published new =>
    rw [hending, Registry.get?_apply_published] at h
    split at h
    · next he =>
      rw [← Option.some.inj h]
      exact .inl ⟨he, heldFor_of_published hending⟩
    · next he => exact .inr ⟨h, fun hroot => absurd hroot he⟩
  | superseded current =>
    rw [hending] at h
    exact .inr ⟨h, fun _ => nofun⟩
  | discarded =>
    rw [hending] at h
    exact .inr ⟨h, fun _ => nofun⟩

theorem RecordsApart.concluded (h : w.RecordsApart) : (w.concluded request profile).RecordsApart where
  known other held hheld := by
    rw [concluded_ledger]
    rcases get?_concluded hheld with ⟨-, rfl⟩ | ⟨hbefore, -⟩
    · exact recordFor_lt h request.root
    · rw [Export.Ledger.length_fresh]
      exact Nat.lt_succ_of_lt (h.known other held hbefore)
  separate one other held held' hheld hheld' hrecord := by
    rcases get?_concluded hheld with ⟨rfl, rfl⟩ | ⟨hbefore, -⟩
    · rcases get?_concluded hheld' with ⟨rfl, rfl⟩ | ⟨hbefore', -⟩
      · rfl
      · exact (recordFor_separate h hbefore' hrecord.symm).symm
    · rcases get?_concluded hheld' with ⟨rfl, rfl⟩ | ⟨hbefore', -⟩
      · exact recordFor_separate h hbefore hrecord
      · exact h.separate one other held held' hbefore hbefore' hrecord

/-- A new record makes no difference to a registry that stays as it is. -/
theorem Recorded.concluded_same (h : w.Recorded)
    (hsame : (w.concluded request profile).registry = w.registry) :
    (w.concluded request profile).Recorded where
  toRecordsApart := h.toRecordsApart.concluded
  guarded := h.guarded.concluded
  about := by rw [hsame]; exact h.about
  starts := by rw [hsame]; exact h.starts
  encodable := by rw [hsame]; exact h.encodable
  written root held hheld hsucceeded := by
    rw [hsame] at hheld
    rw [concluded_ledger, Export.Ledger.get_fresh] at hsucceeded ⊢
    exact (h.written root held hheld hsucceeded).concluded (h.about root held hheld).1

section published

variable (hending : w.endingOf request profile = .published (w.heldFor request profile))
include hending

theorem get?_concluded_published (other : Path) :
    (w.concluded request profile).registry.get? other =
      if other = request.root then some (w.heldFor request profile) else w.registry.get? other := by
  rw [concluded_registry, hending, Registry.get?_apply_published]

theorem Recorded.concluded_published (h : w.Recorded) (hwell : request.WellFormed)
    (houtcome : request.outcome = .ok profile) (hencodable : profile.Encodable) :
    (w.concluded request profile).Recorded := by
  have hget : ∀ other held, (w.concluded request profile).registry.get? other = some held →
      (other = request.root ∧ held = w.heldFor request profile) ∨
      (other ≠ request.root ∧ w.registry.get? other = some held) := by
    intro other held hheld
    rw [get?_concluded_published hending] at hheld
    split at hheld
    · next he => exact .inl ⟨he, (Option.some.inj hheld).symm⟩
    · next he => exact .inr ⟨he, hheld⟩
  refine ⟨h.toRecordsApart.concluded, h.guarded.concluded, ?_, ?_, ?_, ?_⟩
  · intro other held hheld
    rcases hget other held hheld with ⟨rfl, rfl⟩ | ⟨-, hbefore⟩
    · exact ⟨hwell.resolved, (hwell.of_outcome houtcome).1⟩
    · exact h.about other held hbefore
  · intro other held pattern hheld
    rcases hget other held hheld with ⟨rfl, rfl⟩ | ⟨-, hbefore⟩
    · exact hwell.startsSeparated houtcome
    · exact h.starts other held pattern hbefore
  · intro other held hheld
    rcases hget other held hheld with ⟨rfl, rfl⟩ | ⟨-, hbefore⟩
    · exact hencodable
    · exact h.encodable other held hbefore
  · intro other held hheld hsucceeded
    rw [concluded_ledger, Export.Ledger.get_fresh] at hsucceeded ⊢
    rcases hget other held hheld with ⟨rfl, rfl⟩ | ⟨-, hbefore⟩
    · obtain ⟨hroot, hwritten⟩ := written_recordFor h hsucceeded
      exact hwritten.concluded hroot
    · exact (h.written other held hbefore hsucceeded).concluded (h.about other held hbefore).1

/-- What was up to date of the other projects still is. -/
theorem Synced.others_concluded (h : w.Synced) (other : Path) (hne : other ≠ request.root) :
    (w.concluded request profile).UpToDate other :=
  (h.upToDate other).concluded h.recorded (by rw [get?_concluded_published hending, if_neg hne])

/-- When a profile has been published and exported, everything is in step again. -/
theorem Synced.published_exported (h : w.Synced) (hwell : request.WellFormed)
    (houtcome : request.outcome = .ok profile) (hencodable : profile.Encodable)
    (hapart : w.Apart request.root) :
    ((Work.exportProfile (w.heldFor request profile) false).on (w.concluded request profile)).2.Synced := by
  have hpublished : (w.concluded request profile).registry.get? request.root =
      some (w.heldFor request profile) := by
    rw [get?_concluded_published hending, if_pos rfl]
  have hapart' : (w.concluded request profile).Apart request.root :=
    hapart.keeps h.recorded hwell.resolved concluded_links concluded_scripts fun other held hheld hne => by
      rwa [get?_concluded_published hending, if_neg hne] at hheld
  have hrecorded := h.recorded.concluded_published hending hwell houtcome hencodable
  exact (hrecorded.exported hpublished hapart' false).synced (h.others_concluded hending)

/-- A profile that cannot be used does not need to be exported. -/
theorem Synced.published_unusable (h : w.Synced) (hwell : request.WellFormed)
    (houtcome : request.outcome = .ok profile) (hunusable : profile.isUsable = false) :
    (w.concluded request profile).Synced := by
  have hpublished : (w.concluded request profile).registry.get? request.root =
      some (w.heldFor request profile) := by
    rw [get?_concluded_published hending, if_pos rfl]
  have hencodable : profile.Encodable := fun pattern hpattern =>
    absurd hunusable (Profile.isUsable_of_usable hpattern)
  refine ⟨h.recorded.concluded_published hending hwell houtcome hencodable, fun other => ?_⟩
  by_cases hother : other = request.root
  · rw [hother]
    exact upToDate_of_not_carried hpublished fun pattern hcarries =>
      absurd hunusable (Profile.isUsable_of_usable hcarries.1)
  · exact h.others_concluded hending other hother

end published

/-- A request that is not published leaves everything in step. -/
theorem Synced.concluded_same (h : w.Synced)
    (hsame : (w.concluded request profile).registry = w.registry) :
    (w.concluded request profile).Synced where
  recorded := h.recorded.concluded_same hsame
  upToDate root := (h.upToDate root).concluded h.recorded (by rw [hsame])

/-- A report leaves everything in step. -/
theorem Synced.reported (h : w.Synced) (r : Log.Record) : (w.reported r).Synced :=
  h.outside (outside_reported h.recorded.guarded r)

end conclude

/-- Finishing a request whose pattern can be encoded keeps everything in step. -/
theorem Synced.finished {w : Workspace} (h : w.Synced) {request : Request}
    (hwell : request.WellFormed) (hencodable : request.Encodable) (hapart : w.Apart request.root) :
    ((Work.finish request).on w).2.Synced := by
  have hmade : (w.reportedAll request.records).Synced :=
    h.outside (outside_reportedAll h.recorded.guarded request.records)
  have hapart' : (w.reportedAll request.records).Apart request.root :=
    hapart.keeps h.recorded hwell.resolved (reportedAll_links w _) (reportedAll_scripts w _)
      fun other held hheld _ => by rwa [reportedAll_registry] at hheld
  have hleft := Work.finish_leaves request w
  generalize ((Work.finish request).on w).2 = left at hleft
  generalize w.reportedAll request.records = made at hmade hapart' hleft
  cases hleft with
  | faulted _ => exact hmade
  | @exported profile held houtcome hending rs =>
    cases heldFor_of_published hending
    have hexported := hmade.published_exported hending hwell houtcome (hencodable profile houtcome) hapart'
    exact hexported.outside (outside_reportedAll hexported.recorded.guarded rs)
  | @idle profile houtcome hidle r =>
    have hsame : made.registry.apply request.root request.config (made.endingOf request profile) =
        made.registry → (made.concluded request profile).Synced := fun he =>
      hmade.concluded_same (concluded_registry.trans he)
    rcases made.registry.ending_cases request.root request.ticket profile made.ledger.fresh.1 with
      ⟨-, he⟩ | ⟨-, current, -, -, he⟩ | ⟨-, -, he⟩
    · exact (hsame (by rw [endingOf, he]; rfl)).reported r
    · exact (hsame (by rw [endingOf, he]; rfl)).reported r
    · have hending : made.endingOf request profile = .published (made.heldFor request profile) := he
      exact (hmade.published_unusable hending hwell houtcome (hidle _ hending)).reported r

end Workspace

end SkipPath
