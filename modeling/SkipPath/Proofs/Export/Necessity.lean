import SkipPath.Proofs.Export.Agreement

/-!
When a script is written.

Many profiles may share one record of exports: those that are published of a project one after the other,
and whatever else is exported with that record.  They differ in their patterns, shells and thresholds, some
cannot be used, some are exported by force, and any attempt to write may fail.  For a sequence of such exports
(`Exports`), each of them is right on its own (`Exporting.Proper`): a script is written exactly if it is
asked for (`Export.Asks`), and the record is changed by attempts only.

Across the sequence one invariant carries the rest (`Exports.retried`): since a pattern was attempted at a
script, either the record still names both, or an attempt failed, or something else was written.  In the first
case nobody asks for that script with that pattern.
-/

namespace SkipPath

/-! ## 1. What asks for a script -/

namespace Export

/-- A record is about a success with just this script and this pattern. -/
structure Record.Names (r : Record) (script : Path) (pattern : Text) : Prop where
  succeeded : r.succeeded = true
  script : r.script = some script
  pattern : r.pattern = some pattern

/-- A profile asks for its script: the variable is to carry its pattern, and the record is not about that, or
it does not matter. -/
def Asks (p : Profile) (script : Path) (r : Record) (force : Bool) (pattern : Text) : Prop :=
  p.Carries pattern ∧ (force = true ∨ ¬ r.Names script pattern)

variable {p : Profile} {script : Path} {r : Record} {force : Bool} {a : Attempt}

/-- What is planned for a pattern that the variable is to carry. -/
theorem plan_of_carries {pattern : Text} (h : p.Carries pattern) (script : Path) (r : Record)
    (force : Bool) :
    (plan p script r force = .done script ∧ force = false ∧ r.Names script pattern) ∨
    (plan p script r force = .write
        { pattern := pattern, shell := p.config.shell, script := script } ∧
      (force = true ∨ ¬ r.Names script pattern)) := by
  unfold plan place
  rw [h.1]
  simp only [if_neg h.2]
  split
  · next hdone =>
    simp only [Bool.and_eq_true, Bool.not_eq_true', decide_eq_true_eq] at hdone
    exact .inl ⟨rfl, hdone.1.1.1, hdone.1.1.2, hdone.1.2, hdone.2⟩
  · next hdone =>
    refine .inr ⟨rfl, ?_⟩
    cases force with
    | true => exact .inl rfl
    | false =>
      refine .inr fun hnames => hdone ?_
      simp [hnames.succeeded, hnames.script, hnames.pattern]

theorem plan_eq_write_iff :
    plan p script r force = .write a ↔
      a.script = script ∧ a.shell = p.config.shell ∧ Asks p script r force a.pattern := by
  constructor
  · intro hplan
    cases hp : p.usable? with
    | none =>
      rw [plan, hp] at hplan
      cases hplan
    | some pattern =>
      by_cases hle : (pattern.length : Int) ≤ p.config.exportThreshold
      · simp only [plan, hp, place, if_pos hle] at hplan
        cases hplan
      · have hcarries : p.Carries pattern := ⟨hp, hle⟩
        rcases plan_of_carries hcarries script r force with ⟨hdone, -⟩ | ⟨hwrite, hasked⟩
        · cases hplan.symm.trans hdone
        · cases hplan.symm.trans hwrite
          exact ⟨rfl, rfl, hcarries, hasked⟩
  · rintro ⟨hscript, hshell, hcarries, hasked⟩
    rcases plan_of_carries hcarries script r force with ⟨-, hforce, hnames⟩ | ⟨hwrite, -⟩
    · rcases hasked with hforced | hother
      · cases hforce.symm.trans hforced
      · exact absurd hnames hother
    · rw [hwrite, ← hscript, ← hshell]

/-- An attempt is made exactly for what is asked for, if there is a script whose path a system takes. -/
theorem attempt?_eq_some_iff {found : Except Fault Path} :
    attempt? p found r force = some a ↔
      found = .ok a.script ∧ a.script.isWritable = true ∧ a.shell = p.config.shell ∧
        Asks p a.script r force a.pattern := by
  unfold attempt?
  constructor
  · intro hattempt
    split at hattempt
    · cases hattempt
    · split at hattempt
      · cases hattempt
      · next script =>
        cases hplan : plan p script r force with
        | write b =>
          rw [hplan] at hattempt
          simp only at hattempt
          split at hattempt
          · next hwritable =>
            cases hattempt
            obtain ⟨rfl, hshell, hasked⟩ := plan_eq_write_iff.mp hplan
            exact ⟨rfl, hwritable, hshell, hasked⟩
          · cases hattempt
        | _ => rw [hplan] at hattempt; cases hattempt
  · rintro ⟨rfl, hwritable, hshell, hasked⟩
    rw [if_neg (Profile.isUsable_of_usable hasked.1.1)]
    simp only [plan_eq_write_iff.mpr ⟨rfl, hshell, hasked⟩, hwritable, if_true]

theorem plan_eq_done {s : Path} (h : plan p script r force = .done s) :
    s = script ∧ ∃ pattern, p.Carries pattern ∧ force = false ∧ r.Names script pattern := by
  cases hp : p.usable? with
  | none =>
    rw [plan, hp] at h
    cases h
  | some pattern =>
    by_cases hle : (pattern.length : Int) ≤ p.config.exportThreshold
    · simp only [plan, hp, place, if_pos hle] at h
      cases h
    · have hcarries : p.Carries pattern := ⟨hp, hle⟩
      rcases plan_of_carries hcarries script r force with ⟨hdone, hnames⟩ | ⟨hwrite, -⟩
      · cases h.symm.trans hdone
        exact ⟨rfl, pattern, hcarries, hnames⟩
      · cases h.symm.trans hwrite

/-- Writing a script ends in a fault exactly if no system takes its path, or if the attempt is given up. -/
theorem write_eq_error_iff {trouble : Option Files.Error} :
    (∃ fault, (match Fault.ofPath? a.script with
      | some fault => .error fault
      | none => (a.ending trouble).map fun _ => some a.placement : Except Fault (Option Placement)) =
        .error fault) ↔
      ¬ a.script.isWritable = true ∨ (a.givenUp? trouble).isSome = true := by
  cases hpath : Fault.ofPath? a.script with
  | some fault => exact iff_of_true ⟨fault, rfl⟩ (.inl (Fault.not_isWritable hpath))
  | none =>
    have hwritable := Fault.ofPath?_eq_none.mp hpath
    rw [Attempt.ending]
    cases a.givenUp? trouble <;> simp [Except.map, hwritable]

/-- An export ends in a fault exactly if there is no script for a profile with a pattern to use, if the script is
asked for and no system takes its path, or if the attempt to write it is given up. -/
theorem placed_eq_error_iff {found : Except Fault Path} {trouble : Attempt → Option Files.Error} :
    (∃ fault, placed p found r force trouble = .error fault) ↔
      (p.isUsable = true ∧ ∃ fault, found = .error fault) ∨
      (∃ script pattern, found = .ok script ∧ Asks p script r force pattern ∧ ¬ script.isWritable = true) ∨
      ∃ a, attempt? p found r force = some a ∧ (a.givenUp? (trouble a)).isSome = true := by
  unfold placed
  cases husable : p.isUsable with
  | false =>
    have hnot : ∀ {script pattern}, ¬ Asks p script r force pattern := fun hasked =>
      Profile.isUsable_of_usable hasked.1.1 husable
    simp only [if_true, reduceCtorEq, exists_false, false_and, false_or, false_iff]
    rintro (⟨script, pattern, -, hasked, -⟩ | ⟨a, hattempt, -⟩)
    · exact hnot hasked
    · exact hnot (attempt?_eq_some_iff.mp hattempt).2.2.2
  | true =>
    simp only [Bool.true_eq_false, if_false, true_and]
    cases found with
    | error fault => exact iff_of_true ⟨fault, rfl⟩ (.inl ⟨fault, rfl⟩)
    | ok script =>
      simp only [reduceCtorEq, exists_false, false_or, Except.ok.injEq]
      cases hplan : plan p script r force with
      | write a =>
        obtain ⟨rfl, hshell, hasked⟩ := plan_eq_write_iff.mp hplan
        refine write_eq_error_iff.trans ⟨?_, ?_⟩
        · intro hfault
          by_cases hwritable : a.script.isWritable = true
          · have hattempt : attempt? p (.ok a.script) r force = some a :=
              attempt?_eq_some_iff.mpr ⟨rfl, hwritable, hshell, hasked⟩
            exact .inr ⟨a, hattempt, hfault.resolve_left (not_not_intro hwritable)⟩
          · exact .inl ⟨_, a.pattern, rfl, hasked, hwritable⟩
        · rintro (⟨_, _, rfl, -, hno⟩ | ⟨b, hb, hgivenUp⟩)
          · exact .inl hno
          · obtain ⟨he, -, hshell', hasked'⟩ := attempt?_eq_some_iff.mp hb
            rw [← Except.ok.inj he] at hasked'
            cases hplan.symm.trans (plan_eq_write_iff.mpr ⟨(Except.ok.inj he).symm, hshell', hasked'⟩)
            exact .inr hgivenUp
      | _ =>
        have hnot : ∀ pattern, ¬ Asks p script r force pattern := fun pattern hasked => by
          cases hplan.symm.trans (plan_eq_write_iff
            (a := { pattern := pattern, shell := p.config.shell, script := script }).mpr ⟨rfl, rfl, hasked⟩)
        refine iff_of_false (fun ⟨fault, h⟩ => by cases h) ?_
        rintro (⟨_, pattern, rfl, hasked, -⟩ | ⟨a, hattempt, -⟩)
        · exact hnot pattern hasked
        · obtain ⟨he, -, -, hasked⟩ := attempt?_eq_some_iff.mp hattempt
          cases he
          exact hnot _ hasked

/-- Where an export sends the reader to the variable, the script was there already, or it is attempted, and that
is not given up. -/
theorem placed_externalized {found : Except Fault Path} {trouble : Attempt → Option Files.Error} {name : Text}
    {s : Path} (h : placed p found r force trouble = .ok (some (.externalized name s))) :
    found = .ok s ∧ ∃ pattern, p.Carries pattern ∧
      ((force = false ∧ r.Names s pattern) ∨
        ∃ a, attempt? p found r force = some a ∧ a.script = s ∧ a.pattern = pattern ∧
          a.givenUp? (trouble a) = none) := by
  unfold placed at h
  split at h
  · cases h
  · cases found with
    | error fault => cases h
    | ok script =>
      simp only at h
      cases hplan : plan p script r force with
      | nothing => rw [hplan] at h; cases h
      | inlined pattern => rw [hplan] at h; cases h
      | done s' =>
        rw [hplan] at h
        cases h
        obtain ⟨rfl, pattern, hcarries, hnames⟩ := plan_eq_done hplan
        exact ⟨rfl, pattern, hcarries, .inl hnames⟩
      | write a =>
        rw [hplan] at h
        obtain ⟨rfl, hshell, hasked⟩ := plan_eq_write_iff.mp hplan
        simp only at h
        split at h
        · cases h
        · next hpath =>
          obtain ⟨hkept, hplace⟩ := Attempt.map_ending_eq_ok.mp h
          cases hplace
          refine ⟨rfl, a.pattern, hasked.1, .inr ⟨a, ?_, rfl, rfl, hkept⟩⟩
          exact attempt?_eq_some_iff.mpr ⟨rfl, Fault.ofPath?_eq_none.mp hpath, hshell, hasked⟩

end Export

/-! ## 2. One export -/

/-- An export: the workspace it is made in, the profile with its record, and whether it is by force. -/
structure Exporting where
  before : Workspace
  held : Held
  force : Bool

namespace Exporting

variable (e : Exporting)

/-- The workspace after an export. -/
def after : Workspace := ((Work.exportProfile e.held e.force).on e.before).2

/-- What an export gives back. -/
def result : Except Fault (Option Export.Placement) := ((Work.exportProfile e.held e.force).on e.before).1

/-- The script of the profile that is exported, or why there is none. -/
def script : Except Fault Path := e.before.scriptPath e.held.profile.root e.held.profile.config.shell

/-- The record before an export. -/
def record : Export.Record := e.before.ledger.get e.held.record

/-- The record after an export. -/
def recordAfter : Export.Record := e.after.ledger.get e.held.record

/-- There is a script, and a system takes its path. -/
def Reaches (script : Path) : Prop := e.script = .ok script ∧ script.isWritable = true

/-- Whether a script is asked for, with some pattern. -/
def Asks (script : Path) (pattern : Text) : Prop :=
  Export.Asks e.held.profile script e.record e.force pattern

/-- Whether an attempt to write is made. -/
def Attempts (a : Export.Attempt) : Prop := e.before.attemptOf e.held e.force = some a

/-- An attempt is made, and it fails. -/
def Fails (a : Export.Attempt) (trouble : Files.Error) : Prop :=
  e.Attempts a ∧ (e.before.writing a).2 = some trouble

/-- An attempt is made, and it is given up when the script has been emptied. -/
def GivesUp (a : Export.Attempt) (refusal : Text.Utf8.Refusal) : Prop :=
  e.Attempts a ∧ a.givenUp? (e.before.writing a).2 = some refusal

/-- An attempt is made, and the script is written. -/
def Writes (a : Export.Attempt) : Prop :=
  e.Attempts a ∧ (e.before.writing a).2 = none ∧ a.refusal? = none

/-- What ends an export with a fault: a profile with a pattern to use has no script, or one is asked for whose path
no system takes, or the attempt to write it is given up. -/
def Stops : Prop :=
  (e.held.profile.isUsable = true ∧ ∃ fault, e.script = .error fault) ∨
    (∃ script pattern, e.script = .ok script ∧ e.Asks script pattern ∧ ¬ script.isWritable = true) ∨
    ∃ a refusal, e.GivesUp a refusal

/-- An export is right: it attempts what is asked for, and it remembers what came of that, unless the attempt
was given up. -/
structure Proper : Prop where
  fault : (∃ fault, e.result = .error fault) ↔ e.Stops
  /-- An attempt is made exactly if it is asked for. -/
  needed : ∀ script, e.Reaches script → ((∃ a, e.Attempts a) ↔ ∃ pattern, e.Asks script pattern)
  /-- It is made with the pattern of the profile, at the script of the profile. -/
  own : ∀ a, e.Attempts a →
    e.Reaches a.script ∧ a.shell = e.held.profile.config.shell ∧ e.Asks a.script a.pattern
  /-- It fails, is given up, or is a success. -/
  ends : ∀ a, e.Attempts a →
    (∃ trouble, e.Fails a trouble) ∨ (∃ refusal, e.GivesUp a refusal) ∨ e.Writes a
  /-- Without one nothing happens. -/
  spared : (∀ a, ¬ e.Attempts a) → OnlyReports e.before e.after
  failed : ∀ a trouble, e.Fails a trouble →
    e.recordAfter = { e.record with succeeded := false, error := some trouble.message }
  givenUp : ∀ a refusal, e.GivesUp a refusal → ¬ a.pattern.Encodable ∧
    e.result = .error (.encoding refusal) ∧ e.recordAfter = e.record ∧ e.after.files.read a.script = .ok []
  written : ∀ a, e.Writes a → e.recordAfter.Names a.script a.pattern ∧ e.after.Sets a.script a.shell a.pattern
  /-- Whatever was remembered before, a success that is remembered afterwards is about this profile. -/
  named : ∀ name script, e.result = .ok (some (.externalized name script)) →
    e.recordAfter.succeeded = true →
      e.script = .ok script ∧ ∃ pattern, e.held.profile.usable? = some pattern ∧
        e.recordAfter.Names script pattern

variable {e : Exporting}

theorem result_eq : e.result =
    Export.placed e.held.profile e.script e.record e.force fun a => (e.before.writing a).2 :=
  Workspace.exportProfile_fst e.before e.held e.force

theorem attempts_iff {a : Export.Attempt} :
    e.Attempts a ↔ e.Reaches a.script ∧ a.shell = e.held.profile.config.shell ∧ e.Asks a.script a.pattern :=
  Export.attempt?_eq_some_iff.trans and_assoc.symm

/-- What cannot be encoded is the content of a script, and so its pattern. -/
theorem encodable_iff {a : Export.Attempt} : a.pattern.Encodable ↔ a.refusal? = none := by
  rw [Export.Attempt.refusal?, Export.Attempt.content]
  constructor
  · intro h
    rw [Text.Utf8.encode_of_encodable (Export.encodable_assignment.mpr h)]
  · intro h
    split at h
    · cases h
    · next bytes hbytes => exact Export.encodable_assignment.mp (Text.Utf8.encode_eq_ok.mp hbytes).1

/-- All that an attempt changes. -/
theorem after_of_attempts {a : Export.Attempt} (h : e.Attempts a) :
    e.after = (e.before.attempted a e.held.record).reportedAll (a.reports (e.before.writing a).2) := by
  rcases Workspace.exportProfile_snd e.before e.held e.force with ⟨b, hb, hafter⟩ | ⟨hnone, -⟩
  · cases h.symm.trans hb
    exact hafter
  · cases h.symm.trans hnone

theorem onlyReports_of_spared (h : ∀ a, ¬ e.Attempts a) : OnlyReports e.before e.after := by
  rcases Workspace.exportProfile_snd e.before e.held e.force with ⟨a, ha, -⟩ | ⟨-, hreports⟩
  · exact absurd ha (h a)
  · exact hreports

theorem recordAfter_of_spared (h : ∀ a, ¬ e.Attempts a) : e.recordAfter = e.record := by
  obtain ⟨rs, hafter⟩ := onlyReports_of_spared h
  rw [recordAfter, hafter, Workspace.reportedAll_ledger, record]

theorem ends_of_attempts {a : Export.Attempt} (h : e.Attempts a) :
    (∃ trouble, e.Fails a trouble) ∨ (∃ refusal, e.GivesUp a refusal) ∨ e.Writes a := by
  cases htrouble : (e.before.writing a).2 with
  | some trouble => exact .inl ⟨trouble, h, htrouble⟩
  | none =>
    cases hrefusal : a.refusal? with
    | none => exact .inr (.inr ⟨h, htrouble, hrefusal⟩)
    | some refusal =>
      refine .inr (.inl ⟨refusal, h, ?_⟩)
      rw [htrouble]
      exact hrefusal

theorem GivesUp.trouble_refusal {a : Export.Attempt} {refusal : Text.Utf8.Refusal} (h : e.GivesUp a refusal) :
    (e.before.writing a).2 = none ∧ a.refusal? = some refusal := by
  have hgivenUp := h.2
  unfold Export.Attempt.givenUp? at hgivenUp
  split at hgivenUp
  · next hnone => exact ⟨Option.isNone_iff_eq_none.mp hnone, hgivenUp⟩
  · cases hgivenUp

theorem stops_iff : (∃ fault, e.result = .error fault) ↔ e.Stops := by
  rw [result_eq, Export.placed_eq_error_iff]
  simp only [Stops, Option.isSome_iff_exists, ← exists_and_left]
  rfl

section guarded

variable (hguarded : e.before.Guarded)
include hguarded

/-- After an attempt without trouble the script holds what was written, also when that has been logged. -/
theorem read_of_attempts {a : Export.Attempt} (h : e.Attempts a) (hwritten : (e.before.writing a).2 = none) :
    e.after.files.read a.script = .ok a.bytes := by
  obtain ⟨name, hname, hinner, -⟩ := (Workspace.of_attemptOf h).1.isScript.named
  have hwriting : e.before.writer e.before.files (e.before.scripts.child name) a.bytes =
      ((e.before.writing a).1, none) := by
    rw [← hname, ← hwritten]
    rfl
  have hread := hguarded.lawful.holds _ _ _ _ hinner hwriting
  have hattempted : (e.before.attempted a e.held.record).Guarded := hguarded.of_same rfl rfl rfl rfl
  rw [hname, after_of_attempts h]
  exact (Workspace.outside_reportedAll hattempted _).files _ _ hinner hread

theorem sets_of_writes {a : Export.Attempt} (h : e.Writes a) : e.after.Sets a.script a.shell a.pattern :=
  ⟨a.bytes, Export.Attempt.encode_of_encodable (encodable_iff.mpr h.2.2),
    read_of_attempts hguarded h.1 h.2.1⟩

theorem guarded_after : e.after.Guarded := by
  by_cases hspared : ∀ a, ¬ e.Attempts a
  · obtain ⟨rs, hafter⟩ := onlyReports_of_spared hspared
    rw [hafter]
    exact (Workspace.outside_reportedAll hguarded rs).guarded
  · obtain ⟨a, hattempt⟩ := not_forall_not.mp hspared
    rw [after_of_attempts hattempt]
    have hattempted : (e.before.attempted a e.held.record).Guarded := hguarded.of_same rfl rfl rfl rfl
    exact (Workspace.outside_reportedAll hattempted _).guarded

end guarded

section known

variable (hknown : e.held.record < e.before.ledger.records.length)
include hknown

theorem recordAfter_of_attempts {a : Export.Attempt} (h : e.Attempts a) :
    e.recordAfter = a.remembered (e.before.writing a).2 e.record := by
  rw [recordAfter, after_of_attempts h, Workspace.reportedAll_ledger]
  exact Export.Ledger.get_set_self _ hknown _

theorem recordAfter_of_fails {a : Export.Attempt} {trouble : Files.Error} (h : e.Fails a trouble) :
    e.recordAfter = { e.record with succeeded := false, error := some trouble.message } := by
  rw [recordAfter_of_attempts hknown h.1, h.2]
  rfl

theorem recordAfter_of_givesUp {a : Export.Attempt} {refusal : Text.Utf8.Refusal} (h : e.GivesUp a refusal) :
    e.recordAfter = e.record := by
  rw [recordAfter_of_attempts hknown h.1, Export.Attempt.remembered, h.2]
  rfl

theorem names_of_writes {a : Export.Attempt} (h : e.Writes a) :
    e.recordAfter.Names a.script a.pattern := by
  rw [recordAfter_of_attempts hknown h.1,
    Export.Attempt.remembered_of_encodable (encodable_iff.mpr h.2.2), h.2.1]
  exact ⟨rfl, rfl, rfl⟩

/-- An attempt that is given up was about a pattern that cannot be encoded.  It ends the export with a fault, it
leaves an empty script, and the record is what it was. -/
theorem givenUp_of_givesUp (hguarded : e.before.Guarded) {a : Export.Attempt} {refusal : Text.Utf8.Refusal}
    (h : e.GivesUp a refusal) : ¬ a.pattern.Encodable ∧ e.result = .error (.encoding refusal) ∧
      e.recordAfter = e.record ∧ e.after.files.read a.script = .ok [] := by
  obtain ⟨htrouble, hrefusal⟩ := h.trouble_refusal
  refine ⟨fun hencodable => ?_, ?_, recordAfter_of_givesUp hknown h, ?_⟩
  · cases (encodable_iff.mp hencodable).symm.trans hrefusal
  · obtain ⟨⟨hscript, hwritable⟩, hshell, hasked⟩ := attempts_iff.mp h.1
    have hplan : Export.plan e.held.profile a.script e.record e.force = .write a :=
      Export.plan_eq_write_iff.mpr ⟨rfl, hshell, hasked⟩
    rw [result_eq]
    unfold Export.placed
    rw [if_neg (Profile.isUsable_of_usable hasked.1.1), hscript]
    simp only [hplan, Fault.ofPath?_eq_none.mpr hwritable, Export.Attempt.ending, h.2]
    rfl
  · have hbytes : a.bytes = [] := by
      unfold Export.Attempt.refusal? at hrefusal
      unfold Export.Attempt.bytes
      split at hrefusal
      · next herror => rw [herror]; rfl
      · cases hrefusal
    rw [read_of_attempts hguarded h.1 htrouble, hbytes]

/-- Where the record named the profile already, or an attempt is made for it that does not fail, it names the
profile afterwards. -/
theorem names_of_placed {name : Text} {script : Path}
    (hresult : e.result = .ok (some (.externalized name script)))
    (hsucceeded : e.recordAfter.succeeded = true) :
    e.script = .ok script ∧ ∃ pattern, e.held.profile.usable? = some pattern ∧
      e.recordAfter.Names script pattern := by
  rw [result_eq] at hresult
  obtain ⟨hscript, pattern, hcarries, ⟨hforce, hnames⟩ | ⟨a, hattempt, rfl, rfl, hkept⟩⟩ :=
    Export.placed_externalized hresult
  · refine ⟨hscript, pattern, hcarries.1, ?_⟩
    have hspared : ∀ a, ¬ e.Attempts a := fun a hattempt => by
      obtain ⟨⟨hscript', -⟩, -, hcarries', hasked⟩ := attempts_iff.mp hattempt
      cases hscript.symm.trans hscript'
      cases hcarries.1.symm.trans hcarries'.1
      rcases hasked with hforced | hother
      · cases hforce.symm.trans hforced
      · exact hother hnames
    rw [recordAfter_of_spared hspared]
    exact hnames
  · refine ⟨hscript, a.pattern, hcarries.1, ?_⟩
    rcases ends_of_attempts hattempt with ⟨trouble, hfails⟩ | ⟨refusal, hgivesUp⟩ | hwrites
    · rw [recordAfter_of_fails hknown hfails] at hsucceeded
      cases hsucceeded
    · cases hkept.symm.trans hgivesUp.2
    · exact names_of_writes hknown hwrites

theorem proper (hguarded : e.before.Guarded) : e.Proper where
  fault := stops_iff
  needed script hreaches := by
    constructor
    · rintro ⟨a, hattempt⟩
      obtain ⟨⟨hscript, -⟩, -, hasked⟩ := attempts_iff.mp hattempt
      cases hreaches.1.symm.trans hscript
      exact ⟨a.pattern, hasked⟩
    · rintro ⟨pattern, hasked⟩
      exact ⟨{ pattern := pattern, shell := e.held.profile.config.shell, script := script },
        attempts_iff.mpr ⟨hreaches, rfl, hasked⟩⟩
  own a hattempt := attempts_iff.mp hattempt
  ends a hattempt := ends_of_attempts hattempt
  spared := onlyReports_of_spared
  failed a trouble h := recordAfter_of_fails hknown h
  givenUp a refusal h := givenUp_of_givesUp hknown hguarded h
  written a h := ⟨names_of_writes hknown h, sets_of_writes hguarded h⟩
  named name script hresult hsucceeded := names_of_placed hknown hresult hsucceeded

theorem known_after : e.held.record < e.after.ledger.records.length := by
  by_cases hspared : ∀ a, ¬ e.Attempts a
  · obtain ⟨rs, hafter⟩ := onlyReports_of_spared hspared
    rw [hafter, Workspace.reportedAll_ledger]
    exact hknown
  · obtain ⟨a, hattempt⟩ := not_forall_not.mp hspared
    rw [after_of_attempts hattempt, Workspace.reportedAll_ledger]
    show _ < (Export.Ledger.set _ _ _).records.length
    rw [Export.Ledger.set, List.length_set]
    exact hknown

/-- An export after which there may be a reason to write a script with a pattern once more: an attempt fails,
or another script or another pattern is written. -/
def Unsettles (e : Exporting) (script : Path) (pattern : Text) : Prop :=
  (∃ a trouble, e.Fails a trouble) ∨
    ∃ a, e.Writes a ∧ (a.script ≠ script ∨ a.pattern ≠ pattern)

/-- What an attempt that can be encoded comes to: it unsettles, or it leaves a record that names its script and
its pattern. -/
theorem unsettles_or_names {a : Export.Attempt} (h : e.Attempts a) (hencodable : a.pattern.Encodable)
    (script : Path) (pattern : Text) :
    e.Unsettles script pattern ∨ a.script = script ∧ a.pattern = pattern ∧
      e.recordAfter.Names script pattern := by
  rcases ends_of_attempts h with ⟨trouble, hfails⟩ | ⟨refusal, hgivesUp⟩ | hwrites
  · exact .inl (.inl ⟨a, trouble, hfails⟩)
  · cases (encodable_iff.mp hencodable).symm.trans hgivesUp.trouble_refusal.2
  · by_cases hsame : a.script = script ∧ a.pattern = pattern
    · obtain ⟨rfl, rfl⟩ := hsame
      exact .inr ⟨rfl, rfl, names_of_writes hknown hwrites⟩
    · exact .inl (.inr ⟨a, hwrites, not_and_or.mp hsame⟩)

/-- What a record names it goes on naming, until something unsettles it. -/
theorem names_after {script : Path} {pattern : Text} (h : e.record.Names script pattern) :
    e.Unsettles script pattern ∨ e.recordAfter.Names script pattern := by
  by_cases hspared : ∀ a, ¬ e.Attempts a
  · rw [recordAfter_of_spared hspared]
    exact .inr h
  · obtain ⟨a, hattempt⟩ := not_forall_not.mp hspared
    by_cases hencodable : a.pattern.Encodable
    · exact (unsettles_or_names hknown hattempt hencodable script pattern).imp_right fun hnames => hnames.2.2
    · rcases ends_of_attempts hattempt with ⟨trouble, hfails⟩ | ⟨refusal, hgivesUp⟩ | hwrites
      · exact .inl (.inl ⟨a, trouble, hfails⟩)
      · rw [recordAfter_of_givesUp hknown hgivesUp]
        exact .inr h
      · exact absurd (encodable_iff.mpr hwrites.2.2) hencodable

end known

end Exporting

/-! ## 3. Exports with one record -/

/-- A step between two exports that leaves one record as it is.  All else may change: what is published, the
other records, the files, the folder for scripts, and whether and how writing fails. -/
structure Beside (id : Export.RecordId) (w w' : Workspace) : Prop where
  known : id < w'.ledger.records.length
  record : w'.ledger.get id = w.ledger.get id
  guarded : w'.Guarded

/-- Writing may begin to fail at any time, and work again. -/
theorem Beside.writing {id : Export.RecordId} {w : Workspace} {writer : Files.Tree.Writer}
    (h : id < w.ledger.records.length ∧ w.Guarded) (hlawful : Files.Tree.Lawful w.scripts writer) :
    Beside id w { w with writer := writer } :=
  ⟨h.1, rfl, hlawful, h.2.log⟩

/-- Exports with one record, the first one first, and the workspace they leave. -/
inductive Exports (id : Export.RecordId) : List Exporting → Workspace → Prop where
  | start {w : Workspace} (hknown : id < w.ledger.records.length) (hguarded : w.Guarded) :
      Exports id [] w
  | beside {log : List Exporting} {w w' : Workspace} (h : Exports id log w) (hstep : Beside id w w') :
      Exports id log w'
  | «export» {log : List Exporting} {w : Workspace} (h : Exports id log w) (held : Held) (force : Bool)
      (hrecord : held.record = id) :
      Exports id (log ++ [⟨w, held, force⟩]) (Exporting.after ⟨w, held, force⟩)

namespace Exports

variable {id : Export.RecordId} {log : List Exporting} {w : Workspace}

theorem known_guarded (h : Exports id log w) : id < w.ledger.records.length ∧ w.Guarded := by
  induction h with
  | start hknown hguarded => exact ⟨hknown, hguarded⟩
  | beside _ hstep _ => exact ⟨hstep.known, hstep.guarded⟩
  | «export» _ held force hrecord ih =>
    subst hrecord
    exact ⟨Exporting.known_after (e := ⟨_, held, force⟩) ih.1,
      Exporting.guarded_after (e := ⟨_, held, force⟩) ih.2⟩

/-- Each export of a sequence comes after those before it. -/
theorem split (h : Exports id log w) {before after : List Exporting} {e : Exporting}
    (hlog : log = before ++ e :: after) : Exports id before e.before ∧ e.held.record = id := by
  induction h generalizing after with
  | start => cases before <;> cases hlog
  | beside _ _ ih => exact ih hlog
  | @«export» log w h held force hrecord ih =>
    rcases List.eq_nil_or_concat after with rfl | ⟨after, last, rfl⟩
    · obtain ⟨rfl, hlast⟩ := List.append_inj' hlog rfl
      cases hlast
      exact ⟨h, hrecord⟩
    · rw [List.concat_eq_append, ← List.cons_append, ← List.append_assoc] at hlog
      exact ih (List.append_inj' hlog rfl).1

/-- Since a pattern that can be encoded was attempted at a script, either something has unsettled that, or the
record names both. -/
theorem retried (h : Exports id log w) {before after : List Exporting} {e : Exporting}
    (hlog : log = before ++ e :: after) {a : Export.Attempt} (hattempt : e.Attempts a)
    (hencodable : a.pattern.Encodable) :
    (∃ f ∈ e :: after, f.Unsettles a.script a.pattern) ∨
      (w.ledger.get id).Names a.script a.pattern := by
  induction h generalizing after with
  | start => cases before <;> cases hlog
  | beside _ hstep ih => rw [hstep.record]; exact ih hlog
  | @«export» log w h held force hrecord ih =>
    have hknown := h.known_guarded.1
    subst hrecord
    rcases List.eq_nil_or_concat after with rfl | ⟨after, last, rfl⟩
    · obtain ⟨rfl, hlast⟩ := List.append_inj' hlog rfl
      cases hlast
      exact (Exporting.unsettles_or_names hknown hattempt hencodable a.script a.pattern).imp
        (fun hunsettles => ⟨_, List.mem_singleton_self _, hunsettles⟩) fun hnames => hnames.2.2
    · rw [List.concat_eq_append, ← List.cons_append, ← List.append_assoc] at hlog
      obtain ⟨hbefore, hlast⟩ := List.append_inj' hlog rfl
      cases hlast
      rcases ih hbefore with ⟨f, hf, hunsettles⟩ | hnames
      · exact .inl ⟨f, by simp only [List.concat_eq_append, ← List.cons_append, List.mem_append, hf, true_or],
          hunsettles⟩
      · refine (Exporting.names_after (e := ⟨w, held, force⟩) hknown hnames).imp_left fun hunsettles => ?_
        exact ⟨_, by simp, hunsettles⟩

end Exports

/-- **A script is written exactly when that is needed.**  In every sequence of exports with one record, each
export is right; and before an attempt that is made once more without force, with a pattern that can be encoded,
some attempt since the same one before it has failed (perhaps that one itself), or another script or pattern was
written. -/
theorem exports_write_when_needed {id : Export.RecordId} {log : List Exporting} {w : Workspace}
    (h : Exports id log w) :
    (∀ e ∈ log, e.Proper) ∧
      ∀ before e between again after a a',
        log = before ++ e :: between ++ again :: after → e.Attempts a → again.Attempts a' →
        a'.script = a.script → a'.pattern = a.pattern → again.force = false → a.pattern.Encodable →
        ∃ f ∈ e :: between, f.Unsettles a.script a.pattern := by
  constructor
  · intro e he
    obtain ⟨before, after, hlog⟩ := List.append_of_mem he
    obtain ⟨hbefore, hrecord⟩ := h.split hlog
    subst hrecord
    exact Exporting.proper hbefore.known_guarded.1 hbefore.known_guarded.2
  · intro before e between again after a a' hlog hfirst hagain hscript hpattern hforce hencodable
    obtain ⟨hbefore, hrecord⟩ := h.split hlog
    rcases hbefore.retried rfl hfirst hencodable with hunsettled | hnames
    · exact hunsettled
    · obtain ⟨-, -, -, hforced | hother⟩ := Exporting.attempts_iff.mp hagain
      · cases hforce.symm.trans hforced
      · subst hrecord
        rw [← hscript, ← hpattern] at hnames
        exact absurd hnames hother

namespace Retry

/-- A profile whose pattern goes to a script, with the first record. -/
def held : Held :=
  { record := 0, ticket := 1
    profile := { root := Path.ofString "/w/p", config := .exporting, valid := true
                 pattern := some ['/', 'a'], fragments := [['/', 'a']] } }

/-- The script of that profile. -/
def script : Path := Path.ofString "/scripts/p-6153bc20.set-git-skip-paths-env.tmp.sh"

/-- It is exported, -/
def first : Exporting :=
  ⟨{ Workspace.bare (Path.ofString "/scripts") with ledger := ⟨[.blank]⟩ }, held, false⟩

/-- then by force when nothing can be written, -/
def second : Exporting :=
  ⟨{ first.after with writer := fun t place _ => (t, some ⟨.notADirectory, place⟩) }, held, true⟩

/-- and then as at first. -/
def third : Exporting := ⟨{ second.after with writer := Files.Tree.ensureFile }, held, false⟩

theorem guarded : first.before.Guarded :=
  (Workspace.guarded_bare (Path.ofString "/scripts")).of_same rfl rfl rfl rfl

theorem exports : Exports 0 [first, second, third] third.after := by
  have hfirst : Exports 0 [first] first.after := .export (.start Nat.zero_lt_one guarded) held false rfl
  have hrefusing : Beside 0 first.after second.before := by
    refine .writing hfirst.known_guarded ⟨?_, fun _ _ _ _ _ _ _ _ hread => hread⟩
    intro t t' name content _ hwrite
    cases hwrite
  have hsecond : Exports 0 [first, second] second.after := (hfirst.beside hrefusing).export held true rfl
  have hwriting : Beside 0 second.after third.before :=
    .writing hsecond.known_guarded (Files.Tree.ensureFile_lawful _)
  exact (hsecond.beside hwriting).export held false rfl

end Retry

open Retry in
/-- A script is written, then it cannot be written, and it is attempted again without force. -/
theorem exports_write_when_needed_again :
    ∃ a, first.Attempts a ∧ third.Attempts a ∧ third.force = false ∧ a.pattern.Encodable ∧
      (∀ e ∈ [first, second, third], e.Proper) ∧
      ∃ f ∈ [first, second], f.Unsettles a.script a.pattern := by
  let a : Export.Attempt := { pattern := ['/', 'a'], shell := .posix, script := script }
  have hfirst : first.Attempts a := by
    show first.before.attemptOf held false = some a
    decide +kernel
  have hthird : third.Attempts a := by
    show third.before.attemptOf held false = some a
    decide +kernel
  obtain ⟨hproper, hunsettled⟩ := exports_write_when_needed exports
  have hencodable : a.pattern.Encodable := by decide
  exact ⟨a, hfirst, hthird, rfl, hencodable, hproper,
    hunsettled [] first [second] third [] a a rfl hfirst hthird rfl rfl rfl hencodable⟩

namespace Retry

/-- A profile with the same record, of a project whose path no system takes. -/
def unplaced : Held :=
  { held with profile := { held.profile with root := Path.ofText (Text.ofString "/w/p" ++ [.char '\x00']) } }

/-- Its export. -/
def astray : Exporting := ⟨first.before, unplaced, false⟩

/-- A profile of the first project and with the same record, whose pattern cannot be encoded. -/
def unencodable : Held :=
  { held with profile := { held.profile with pattern := some ['/', .ofNat 0xDC80] } }

/-- It is exported after the first profile, -/
def fourth : Exporting := ⟨first.after, unencodable, false⟩

/-- and once more. -/
def fifth : Exporting := ⟨fourth.after, unencodable, false⟩

/-- An attempt to write a pattern that cannot be encoded leaves an empty script and the record of the success
before, and it is made again without force though nothing has failed and nothing else was written. -/
theorem attempted_again :
    Exports 0 [first, fourth, fifth] fifth.after ∧
      fourth.recordAfter.Names script ['/', 'a'] ∧ fourth.after.files.read script = .ok [] ∧
      ∃ a, fourth.Attempts a ∧ fifth.Attempts a ∧ fifth.force = false ∧
        ¬ fourth.Unsettles a.script a.pattern := by
  have hfirst : Exports 0 [first] first.after := .export (.start Nat.zero_lt_one guarded) held false rfl
  have hfourth : Exports 0 [first, fourth] fourth.after := hfirst.export unencodable false rfl
  let a : Export.Attempt := { pattern := ['/', .ofNat 0xDC80], shell := .posix, script := script }
  have hattempt : fourth.Attempts a := by
    show fourth.before.attemptOf unencodable false = some a
    decide +kernel
  have hgivesUp : fourth.GivesUp a ⟨0xDC80, 24, 24⟩ := by
    refine ⟨hattempt, ?_⟩
    decide +kernel
  have hnames : fourth.record.Names script ['/', 'a'] := by
    constructor <;> decide +kernel
  obtain ⟨hbefore, hid⟩ : Exports 0 [first] fourth.before ∧ fourth.held.record = 0 := hfourth.split rfl
  rw [← hid] at hbefore
  obtain ⟨hunencodable, -, hrecord, hread⟩ :=
    Exporting.givenUp_of_givesUp hbefore.known_guarded.1 hbefore.known_guarded.2 hgivesUp
  refine ⟨hfourth.export unencodable false rfl, ?_, hread, a, hattempt, ?_, rfl, ?_⟩
  · rw [hrecord]
    exact hnames
  · show fifth.before.attemptOf unencodable false = some a
    decide +kernel
  · rintro (⟨b, trouble, hb, htrouble⟩ | ⟨b, ⟨hb, -, hrefusal⟩, -⟩) <;> cases hattempt.symm.trans hb
    · cases hgivesUp.trouble_refusal.1.symm.trans htrouble
    · exact hunencodable (Exporting.encodable_iff.mpr hrefusal)

end Retry

open Retry in
/-- Where the path of the project leads to no script nothing is attempted, though the pattern is to be carried and
no success is remembered; and what cannot be encoded is attempted again, though nothing has failed. -/
theorem not_written_when_needed :
    (Exports 0 [astray] astray.after ∧ astray.held.profile.Carries ['/', 'a'] ∧
      astray.record.succeeded = false ∧ astray.result = .error .nulInPath ∧ ∀ a, ¬ astray.Attempts a) ∧
    Exports 0 [first, fourth, fifth] fifth.after ∧
      fourth.recordAfter.Names script ['/', 'a'] ∧ fourth.after.files.read script = .ok [] ∧
      ∃ a, fourth.Attempts a ∧ fifth.Attempts a ∧ fifth.force = false ∧
        ¬ fourth.Unsettles a.script a.pattern := by
  refine ⟨⟨.export (.start Nat.zero_lt_one guarded) unplaced false rfl,
    ⟨by decide +kernel, by decide +kernel⟩, by decide +kernel, by decide +kernel, fun a hattempt => ?_⟩,
    attempted_again⟩
  have hnone : astray.before.attemptOf unplaced false = none := by decide +kernel
  cases hnone.symm.trans hattempt

end SkipPath
