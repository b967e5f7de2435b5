import SkipPath.Proofs.Export.Record
import SkipPath.Proofs.Workspace.Load

/-!
What a workspace has of one project.

All projects share the tables of the registry, the ledger of exports and the folder for scripts.  The share
of one project (`Workspace.share`) is all that can be seen of it there: its row of every table, with the record
of its exports in place of the number of that record, and what can be read of its scripts.

Every operation acts on the share of its own project by a function of that share alone, and does nothing to the
shares of the others; the lemmas of this module come in such pairs.  For exports that holds if no two projects
have a script or a record in common.
-/

namespace SkipPath

/-! ## 1. Shares -/

/-- What can be seen of a profile that is held. -/
structure Shown where
  profile : Profile
  record : Export.Record
  ticket : Nat

/-- What there is of one project. -/
@[ext] structure Share where
  root : Path
  loader : Loader
  /-- The script for a shell, or why there is none. -/
  scriptPath : Shell → Except Fault Path
  defaultConfig : Config
  published : Option Shown
  config : Option Config
  /-- The last ticket, if there is any. -/
  ticket : Option Nat
  /-- The removal mark, if there is one. -/
  mark : Option Nat
  /-- What can be read of the script for a shell. -/
  script : Shell → Option (List UInt8)

namespace Workspace

/-- What can be seen of a profile that is held. -/
def shown (w : Workspace) (held : Held) : Shown :=
  { profile := held.profile, record := w.ledger.get held.record, ticket := held.ticket }

/-- The share of a project. -/
def share (w : Workspace) (root : Path) : Share where
  root := root
  loader := w.loader
  scriptPath := w.scriptPath root
  defaultConfig := w.registry.defaultConfig
  published := (w.registry.get? root).map w.shown
  config := w.registry.configs.get? root
  ticket := w.registry.tickets.get? root
  mark := w.registry.removed.get? root
  script shell := (w.scriptPath root shell).toOption.bind w.files.content?

variable {w w' : Workspace} {root other : Path}

theorem published_share {held : Held} (h : w.registry.get? root = some held) :
    (w.share root).published = some (w.shown held) := by simp [share, h]

theorem lastTicket_share : w.registry.lastTicket root = (w.share root).ticket.getD 0 := rfl

theorem removalMark_share : w.registry.removalMark root = (w.share root).mark.getD 0 := rfl

theorem configFor_share :
    w.registry.configFor root = (w.share root).config.getD (w.share root).defaultConfig := rfl

theorem isKnown_share : w.registry.isKnown root = (w.share root).config.isSome := rfl

/-- A share goes by the registry, the records and the scripts. -/
theorem share_of_same (hroot : root.anchor = .root) (hregistry : w'.registry = w.registry)
    (hledger : w'.ledger = w.ledger) (hloader : w'.loader = w.loader) (hlinks : w'.links = w.links)
    (hscripts : w'.scripts = w.scripts) (hcontent : ∀ shell script, w.scriptPath root shell = .ok script →
      w'.files.content? script = w.files.content? script) : w'.share root = w.share root := by
  have hpath : w'.scriptPath root = w.scriptPath root :=
    funext (scriptPath_of_root hroot hlinks hscripts)
  have hscript : (fun shell => (w.scriptPath root shell).toOption.bind w'.files.content?) =
      fun shell => (w.scriptPath root shell).toOption.bind w.files.content? := by
    funext shell
    cases hok : w.scriptPath root shell with
    | error fault => rfl
    | ok script => exact hcontent shell script hok
  have hshown : w'.shown = w.shown := by
    funext held
    simp [shown, hledger]
  simp [share, hregistry, hloader, hpath, hscript, hshown]

theorem LogsAside.share_reportedAll (hlog : w.LogsAside) (hroot : root.anchor = .root)
    (rs : List Log.Record) : (w.reportedAll rs).share root = w.share root :=
  share_of_same hroot (reportedAll_registry w rs) (reportedAll_ledger w rs)
    (view_reportedAll w rs (·.loader) fun _ _ _ => rfl) (reportedAll_links w rs) (reportedAll_scripts w rs)
    fun shell script hscript => by
      obtain ⟨name, rfl, hinner, -⟩ := (isScript_scriptPath hscript).named
      exact hlog.content?_reportedAll rs hinner

theorem LogsAside.share_reported (hlog : w.LogsAside) (hroot : root.anchor = .root) (r : Log.Record) :
    (w.reported r).share root = w.share root := hlog.share_reportedAll hroot [r]

end Workspace

/-! ## 2. The registry -/

namespace Share

variable (v : Share)

/-- The share after a request of the project has begun. -/
def begun : Share := { v with ticket := some (v.ticket.getD 0 + 1) }

/-- The share after the project was removed. -/
def removed : Share := { v with published := none, config := none, mark := some (v.ticket.getD 0) }

/-- The share after all projects were removed. -/
def cleared : Share := { v with published := none, config := none, mark := v.ticket.or v.mark }

/-- The share after a profile was published. -/
def publishing (config : Config) (s : Shown) : Share := { v with published := some s, config := some config }

end Share

namespace Workspace

variable (w : Workspace) (root other : Path)

/-- The share with another registry. -/
theorem share_registry (r : Registry) :
    share { w with registry := r } root =
      { w.share root with
        defaultConfig := r.defaultConfig
        published := (r.get? root).map w.shown
        config := r.configs.get? root
        ticket := r.tickets.get? root
        mark := r.removed.get? root } := rfl

theorem share_begin :
    share { w with registry := (w.registry.begin root).2 } root = (w.share root).begun := by
  rw [share_registry]
  simp [share, Share.begun, Registry.begin, Registry.get?, Registry.lastTicket]

theorem share_begin_other (h : other ≠ root) :
    share { w with registry := (w.registry.begin root).2 } other = w.share other := by
  rw [share_registry]
  simp [share, Registry.begin, Registry.get?, h]

theorem share_remove :
    share { w with registry := w.registry.remove root } root = (w.share root).removed := by
  rw [share_registry]
  simp [share, Share.removed, Registry.remove, Registry.get?, Registry.lastTicket]

theorem share_remove_other (h : other ≠ root) :
    share { w with registry := w.registry.remove root } other = w.share other := by
  rw [share_registry]
  simp [share, Registry.remove, Registry.get?, h]

theorem share_clear (hcounters : w.registry.OneCounterEach) :
    share { w with registry := w.registry.clear } root = (w.share root).cleared := by
  have hmark := Registry.get?_removed_clear w.registry root hcounters
  have htickets : w.registry.clear.tickets = w.registry.tickets := rfl
  rw [share_registry]
  simp [share, Share.cleared, hmark, htickets]

end Workspace

/-! ## 3. Exports -/

/-- What is met outside by a step about a project. -/
structure Surroundings where
  /-- Where paths lead. -/
  resolve : Path → Except Fault Path
  /-- What reading the ignore file gives. -/
  content : Except Fault Loader.Content
  /-- The trouble that an attempt to write a script ends with. -/
  trouble : Export.Attempt → Option Files.Error
  /-- What can be read of the script after an attempt that failed. -/
  remains : Export.Attempt → Option (List UInt8)

/-- What can be read of the script after an attempt. -/
def Surroundings.left (around : Surroundings) (a : Export.Attempt) : Option (List UInt8) :=
  if (around.trouble a).isNone then some a.bytes else around.remains a

/-- Attempts to write the scripts of a project go as it is said of them. -/
structure Workspace.Writes (w : Workspace) (root : Path) (around : Surroundings) : Prop where
  trouble : ∀ a, w.AttemptAt root a → (w.writing a).2 = around.trouble a
  left : ∀ a, w.AttemptAt root a → (w.writing a).1.content? a.script = around.left a

/-- How scripts are written goes by the files and by the writer. -/
theorem Workspace.Writes.of_same {w w' : Workspace} {root : Path} {around : Surroundings}
    (h : w.Writes root around) (hfiles : w'.files = w.files) (hlinks : w'.links = w.links)
    (hwriter : w'.writer = w.writer) (hscripts : w'.scripts = w.scripts) : w'.Writes root around := by
  have hattempt : ∀ a, w'.AttemptAt root a → w.AttemptAt root a := fun a ha =>
    ⟨by rw [← ha.script, scriptPath, scriptPath, resolve, resolve, hfiles, hlinks, hscripts], ha.writable⟩
  have hwriting : w'.writing = w.writing := by
    funext a
    rw [writing, writing, hfiles, hwriter]
  constructor
  · rw [hwriting]
    exact fun a ha => h.trouble a (hattempt a ha)
  · rw [hwriting]
    exact fun a ha => h.left a (hattempt a ha)

namespace Share

variable (v : Share) (around : Surroundings)

/-- The share after an attempt to write a script. -/
def attempted (a : Export.Attempt) : Share :=
  { v with
    published := v.published.map fun s =>
      { s with record := a.remembered (around.trouble a) s.record }
    script := fun shell => if v.scriptPath shell = .ok a.script then around.left a else v.script shell }

/-- The share after an export of the published profile. -/
def exported (s : Shown) (force : Bool) : Share :=
  match Export.attempt? s.profile (v.scriptPath s.profile.config.shell) s.record force with
  | none => v
  | some a => v.attempted around a

end Share

namespace Workspace

variable {w : Workspace} {root other : Path} {held : Held} {force : Bool} {around : Surroundings}

section attempt

variable {a : Export.Attempt} (ha : w.AttemptAt root a) (hrecords : w.RecordsApart) (hsteady : w.Steady)
  (hheld : w.registry.get? root = some held)

include ha hsteady in
/-- An attempt to write a script makes no difference to the scripts at other paths. -/
theorem AttemptAt.content?_other {shell : Shell} {script : Path}
    (hscript : w.scriptPath other shell = .ok script) (hne : script ≠ a.script) :
    (w.writing a).1.content? script = w.files.content? script := by
  obtain ⟨name, hname, hinner, -⟩ := ha.isScript.named
  obtain ⟨name', rfl, hinner', -⟩ := (isScript_scriptPath hscript).named
  have hkept := hsteady.writer name name' a.bytes hinner hinner' fun hsame => hne (by rw [hname, hsame])
  rw [← hname] at hkept
  exact hkept

include ha hrecords hsteady hheld

theorem share_attempted (hroot : root.anchor = .root) (hwrites : w.Writes root around) :
    (w.attempted a held.record).share root = (w.share root).attempted around a := by
  have hrecord : (w.attempted a held.record).ledger.get held.record =
      a.remembered (around.trouble a) (w.ledger.get held.record) := by
    rw [← hwrites.trouble a ha]
    exact Export.Ledger.get_set_self _ (hrecords.known root held hheld) _
  have hpath : (w.attempted a held.record).scriptPath root = w.scriptPath root :=
    funext (scriptPath_of_root hroot (attempted_links _ _) (attempted_scripts _ _))
  refine Share.ext rfl rfl hpath rfl ?_ rfl rfl rfl (funext fun shell => ?_)
  · show (w.registry.get? root).map _ = ((w.registry.get? root).map w.shown).map _
    simp [hheld, shown, hrecord]
  · show (scriptPath _ root shell).toOption.bind (w.writing a).1.content? =
      if w.scriptPath root shell = .ok a.script then around.left a
      else (w.scriptPath root shell).toOption.bind w.files.content?
    rw [hpath]
    split
    · next hsame =>
      rw [hsame]
      exact hwrites.left a ha
    · next hne =>
      cases hscript : w.scriptPath root shell with
      | error fault => rfl
      | ok script => exact ha.content?_other hsteady hscript fun hsame => hne (hsame ▸ hscript)

theorem share_attempted_other (hother : other.anchor = .root) (hne : other ≠ root)
    (hapart : w.ScriptsDiffer other root) :
    (w.attempted a held.record).share other = w.share other := by
  have hpath : (w.attempted a held.record).scriptPath other = w.scriptPath other :=
    funext (scriptPath_of_root hother (attempted_links _ _) (attempted_scripts _ _))
  refine Share.ext rfl rfl hpath rfl ?_ rfl rfl rfl (funext fun shell => ?_)
  · show (w.registry.get? other).map _ = (w.registry.get? other).map w.shown
    refine Option.map_congr fun held' hheld' => ?_
    have hrecord : held.record ≠ held'.record := fun hsame =>
      hne (hrecords.separate other root held' held hheld' hheld hsame.symm)
    simp [shown, attempted, Export.Ledger.get_set_other _ hrecord]
  · show (scriptPath _ other shell).toOption.bind (w.writing a).1.content? =
      (w.scriptPath other shell).toOption.bind w.files.content?
    rw [hpath]
    cases hscript : w.scriptPath other shell with
    | error fault => rfl
    | ok script => exact ha.content?_other hsteady hscript fun hsame => hapart.ne hscript (hsame ▸ ha.script)

end attempt

/-- What an export gives goes by what is said of attempts to write the scripts of the project. -/
theorem Writes.placed (hwrites : w.Writes root around) (habout : held.profile.root = root) (force : Bool) :
    ((Work.exportProfile held force).on w).1 =
      Export.placed held.profile (w.scriptPath root held.profile.config.shell) (w.ledger.get held.record)
        force around.trouble := by
  subst habout
  rw [exportProfile_fst]
  exact Export.placed_congr fun a ha => hwrites.trouble a (of_attemptOf ha).1

/-- An export leaves the log where it is. -/
theorem LogsAside.exportProfile (h : w.LogsAside) (held : Held) (force : Bool) :
    ((Work.exportProfile held force).on w).2.LogsAside :=
  h.of_same (Work.view_exportProfile (·.scripts) (fun _ _ _ _ => rfl) held force w)
    (Work.view_exportProfile (·.logging) (fun _ _ _ _ => rfl) held force w)
    (Work.view_exportProfile (·.stamp) (fun _ _ _ _ => rfl) held force w)

section exports

variable (hrecords : w.RecordsApart) (hsteady : w.Steady) (hheld : w.registry.get? root = some held)
  (habout : held.profile.root = root)
include hrecords hsteady hheld habout

theorem share_exportProfile (hroot : root.anchor = .root) (hwrites : w.Writes root around) :
    ((Work.exportProfile held force).on w).2.share root =
      (w.share root).exported around (w.shown held) force := by
  have hattempt : Export.attempt? held.profile ((w.share root).scriptPath held.profile.config.shell)
      (w.ledger.get held.record) force = w.attemptOf held force := by
    rw [attemptOf, habout]
    rfl
  show _ = match Export.attempt? _ _ _ force with | none => _ | some a => _
  simp only [shown, hattempt]
  rcases exportProfile_snd w held force with ⟨a, ha, hleft⟩ | ⟨hnone, rs, hleft⟩
  · rw [hleft, ha]
    have hlog : (w.attempted a held.record).LogsAside := hsteady.log
    rw [hlog.share_reportedAll hroot]
    exact share_attempted (habout ▸ (of_attemptOf ha).1) hrecords hsteady hheld hroot hwrites
  · rw [hleft, hnone, hsteady.log.share_reportedAll hroot]

theorem share_exportProfile_other (hother : other.anchor = .root) (hne : other ≠ root)
    (hapart : w.ScriptsDiffer other root) :
    ((Work.exportProfile held force).on w).2.share other = w.share other := by
  rcases exportProfile_snd w held force with ⟨a, ha, hleft⟩ | ⟨-, rs, hleft⟩
  · have hlog : (w.attempted a held.record).LogsAside := hsteady.log
    rw [hleft, hlog.share_reportedAll hother]
    exact share_attempted_other (habout ▸ (of_attemptOf ha).1) hrecords hsteady hheld hother hne hapart
  · rw [hleft, hsteady.log.share_reportedAll hother]

end exports

end Workspace

/-! ## 4. Finishing a request -/

/-- How a request ends, as far as that can be seen. -/
inductive Conclusion where
  | published (s : Shown)
  | superseded (current : Shown)
  | discarded

namespace Share

variable (v : Share) (around : Surroundings)

/-- How a request of the project ends whose profile is made. -/
def ending (ticket : Nat) (profile : Profile) : Conclusion :=
  if ticket ≤ v.mark.getD 0 then .discarded
  else match v.published with
    | none => .published { profile := profile, record := .blank, ticket := ticket }
    | some current =>
      if ticket < current.ticket then .superseded current
      else .published { profile := profile, record := current.record, ticket := ticket }

/-- What publishing a profile gives, and the share after it.  A profile that can be used is exported. -/
def publish (config : Config) (s : Shown) : Except Fault Shown × Share :=
  let done := v.publishing config s
  if s.profile.isUsable then
    let left := done.exported around s false
    match Export.placed s.profile (v.scriptPath s.profile.config.shell) s.record false around.trouble with
    | .ok _ => (.ok (left.published.getD s), left)
    | .error fault => (.error fault, left)
  else (.ok s, done)

/-- What finishing a request of the project gives, and the share after it. -/
def finish (request : Request) : Except Fault Shown × Share :=
  match request.outcome with
  | .error fault => (.error fault, v)
  | .ok profile =>
    match v.ending request.ticket profile with
    | .discarded => (.ok { profile := profile, record := .blank, ticket := request.ticket }, v)
    | .superseded current => (.ok current, v)
    | .published s => v.publish around request.config s

end Share

namespace Workspace

variable {w : Workspace} {request : Request} {profile : Profile} {around : Surroundings}

/-- A new record can not be seen. -/
theorem shown_concluded : (w.concluded request profile).shown = w.shown := by
  funext held
  simp [shown, concluded_ledger, Export.Ledger.get_fresh]

theorem shown_reported (r : Log.Record) : (w.reported r).shown = w.shown := by
  funext held
  simp [shown]

theorem get_fresh_id (l : Export.Ledger) : l.get l.fresh.1 = .blank := by
  simp [Export.Ledger.get, Export.Ledger.fresh]

theorem ending_share :
    (w.share request.root).ending request.ticket profile =
      match w.endingOf request profile with
      | .discarded => .discarded
      | .superseded current => .superseded (w.shown current)
      | .published held => .published (w.shown held) := by
  unfold Share.ending endingOf Registry.ending
  rw [removalMark_share]
  split
  · rfl
  · cases hget : w.registry.get? request.root with
    | none => simp [share, hget, shown, get_fresh_id]
    | some current =>
      simp only [published_share hget]
      show (if request.ticket < current.ticket then _ else _) = _
      split <;> rfl

/-- Ending a request changes the registry, as far as that can be seen. -/
theorem share_concluded_eq (root : Path) :
    (w.concluded request profile).share root =
      share { w with
        registry := w.registry.apply request.root request.config (w.endingOf request profile) } root := by
  refine Share.ext rfl rfl rfl rfl ?_ rfl rfl rfl rfl
  show (Registry.get? _ root).map (w.concluded request profile).shown = _
  rw [shown_concluded]
  rfl

/-- The share after a request has ended, before the export. -/
theorem share_concluded (w : Workspace) (request : Request) (profile : Profile) :
    (w.concluded request profile).share request.root =
      match w.endingOf request profile with
      | .published held => (w.share request.root).publishing request.config (w.shown held)
      | .superseded _ | .discarded => w.share request.root := by
  rw [share_concluded_eq]
  cases w.endingOf request profile with
  | discarded => rfl
  | superseded current => rfl
  | published held =>
    rw [share_registry]
    simp [share, Share.publishing, Registry.apply, Registry.get?]

theorem share_concluded_other {other : Path} (hne : other ≠ request.root) :
    (w.concluded request profile).share other = w.share other := by
  rw [share_concluded_eq]
  cases w.endingOf request profile with
  | discarded => rfl
  | superseded current => rfl
  | published held =>
    rw [share_registry]
    simp [share, Registry.apply, Registry.get?, hne]

theorem Writes.concluded (h : w.Writes request.root around) :
    (w.concluded request profile).Writes request.root around := h.of_same rfl rfl rfl rfl

theorem Steady.concluded (h : w.Steady) : (w.concluded request profile).Steady := ⟨h.log, h.writer⟩

/-- A request that ends without publishing makes no difference to the share of its project. -/
theorem Steady.share_unpublished (hsteady : w.Steady) (hroot : request.root.anchor = .root)
    (hending : ∀ held, w.endingOf request profile ≠ .published held) {r : Log.Record} :
    ((w.concluded request profile).reported r).share request.root = w.share request.root := by
  rw [hsteady.concluded.log.share_reported hroot, share_concluded]
  split
  · next held he => exact absurd he (hending held)
  · rfl
  · rfl

section published

variable (hroot : request.root.anchor = .root) (habout : profile.root = request.root)
  (hrecords : w.RecordsApart) (hsteady : w.Steady)
  (hending : w.endingOf request profile = .published (w.heldFor request profile))
include habout hrecords hsteady hending

/-- Publishing a profile and exporting it is decided by the share of its project. -/
theorem share_published_exported (hroot : request.root.anchor = .root)
    (hwrites : w.Writes request.root around) :
    ((Work.exportProfile (w.heldFor request profile) false).on (w.concluded request profile)).2.share
        request.root =
      ((w.share request.root).publishing request.config (w.shown (w.heldFor request profile))).exported
        around (w.shown (w.heldFor request profile)) false := by
  have hpublished : (w.concluded request profile).registry.get? request.root =
      some (w.heldFor request profile) := by rw [get?_concluded_published hending, if_pos rfl]
  have hconcluded := share_concluded w request profile
  rw [hending] at hconcluded
  rw [share_exportProfile hrecords.concluded hsteady.concluded hpublished habout hroot hwrites.concluded,
    hconcluded, shown_concluded]

theorem share_published_exported_other {other : Path} (hother : other.anchor = .root)
    (hne : other ≠ request.root) (hapart : w.ScriptsDiffer other request.root) :
    ((Work.exportProfile (w.heldFor request profile) false).on (w.concluded request profile)).2.share
        other = w.share other := by
  have hpublished : (w.concluded request profile).registry.get? request.root =
      some (w.heldFor request profile) := by rw [get?_concluded_published hending, if_pos rfl]
  rw [share_exportProfile_other hrecords.concluded hsteady.concluded hpublished habout hother hne hapart,
    share_concluded_other hne]

end published

section finish

variable (hwell : request.WellFormed) (hrecords : w.RecordsApart)
  (hsteady : ∀ rs, (w.reportedAll rs).Steady)
include hwell hrecords hsteady

theorem finish_share_published (hwrites : ∀ rs, (w.reportedAll rs).Writes request.root around)
    (houtcome : request.outcome = .ok profile) {held : Held}
    (hending : (w.reportedAll request.records).endingOf request profile = .published held) :
    (((Work.finish request).on w).1.map ((Work.finish request).on w).2.shown,
      ((Work.finish request).on w).2.share request.root) =
      ((w.reportedAll request.records).share request.root).publish around request.config
        ((w.reportedAll request.records).shown held) := by
  cases heldFor_of_published hending
  have hroot := hwell.resolved
  have habout : profile.root = request.root := (hwell.of_outcome houtcome).1
  have hrecords' : (w.reportedAll request.records).RecordsApart :=
    hrecords.of_same (reportedAll_registry w _) (reportedAll_ledger w _)
  have hsteady' := hsteady request.records
  have hwrites' := hwrites request.records
  rw [Work.on_finish, houtcome]
  simp only [hending]
  generalize w.reportedAll request.records = made at *
  have hdone : (made.concluded request profile).LogsAside := hsteady'.concluded.log
  have hprofile : (made.shown (made.heldFor request profile)).profile = profile := rfl
  rw [Share.publish, hprofile]
  cases profile.isUsable with
  | false =>
    have hconcluded := share_concluded made request profile
    rw [hending] at hconcluded
    simp only [Bool.false_eq_true, if_false, hdone.share_reported hroot, hconcluded, shown_reported,
      shown_concluded]
    rfl
  | true =>
    have hleft := share_published_exported habout hrecords' hsteady' hending hroot hwrites'
    have hresult : Export.placed profile ((made.share request.root).scriptPath profile.config.shell)
        (made.shown (made.heldFor request profile)).record false around.trouble =
        ((Work.exportProfile (made.heldFor request profile) false).on
          (made.concluded request profile)).1 := by
      rw [hwrites'.concluded.placed habout, concluded_ledger, Export.Ledger.get_fresh]
      rfl
    have hpublished : ((Work.exportProfile (made.heldFor request profile) false).on
        (made.concluded request profile)).2.registry.get? request.root =
        some (made.heldFor request profile) := by
      rw [Work.view_exportProfile (·.registry) fun _ _ _ _ => rfl, get?_concluded_published hending,
        if_pos rfl]
    have hlog := hdone.exportProfile (made.heldFor request profile) false
    simp only [if_true]
    rw [← hleft, hresult]
    generalize (Work.exportProfile (made.heldFor request profile) false).on _ = exported at *
    obtain ⟨result, w'⟩ := exported
    cases result with
    | error fault => rfl
    | ok placement =>
      simp only [hlog.share_reported hroot, shown_reported, published_share hpublished]
      rfl

/-- Finishing a request is decided by the share of its project. -/
theorem finish_share (hwrites : ∀ rs, (w.reportedAll rs).Writes request.root around) :
    (((Work.finish request).on w).1.map ((Work.finish request).on w).2.shown,
      ((Work.finish request).on w).2.share request.root) = (w.share request.root).finish around request := by
  have hroot := hwell.resolved
  have hlog : w.LogsAside := (hsteady []).log
  rw [← hlog.share_reportedAll hroot request.records, Share.finish]
  cases houtcome : request.outcome with
  | error fault =>
    rw [Work.on_finish, houtcome]
    rfl
  | ok profile =>
    simp only [ending_share]
    cases hending : (w.reportedAll request.records).endingOf request profile with
    | published held => exact finish_share_published hwell hrecords hsteady hwrites houtcome hending
    | discarded =>
      have hidle : ∀ held, (w.reportedAll request.records).endingOf request profile ≠ .published held := by
        simp [hending]
      rw [Work.on_finish, houtcome]
      simp only [hending, (hsteady _).share_unpublished hroot hidle, shown_reported, shown_concluded]
      simp [Except.map, shown, get_fresh_id]
    | superseded current =>
      have hidle : ∀ held, (w.reportedAll request.records).endingOf request profile ≠ .published held := by
        simp [hending]
      rw [Work.on_finish, houtcome]
      simp only [hending, (hsteady _).share_unpublished hroot hidle, shown_reported, shown_concluded]
      rfl

/-- Finishing a request makes no difference to the share of another project. -/
theorem finish_share_other {other : Path} (hother : other.anchor = .root) (hne : other ≠ request.root)
    (hapart : w.ScriptsDiffer other request.root) :
    ((Work.finish request).on w).2.share other = w.share other := by
  have hlog : w.LogsAside := (hsteady []).log
  have hrecords' : (w.reportedAll request.records).RecordsApart :=
    hrecords.of_same (reportedAll_registry w _) (reportedAll_ledger w _)
  have hsteady' := hsteady request.records
  have hapart' : (w.reportedAll request.records).ScriptsDiffer other request.root :=
    hapart.of_same hother hwell.resolved (reportedAll_links w _) (reportedAll_scripts w _)
  have hleft := Work.finish_leaves request w
  rw [← hlog.share_reportedAll hother request.records]
  generalize ((Work.finish request).on w).2 = left at hleft ⊢
  generalize w.reportedAll request.records = made at *
  cases hleft with
  | faulted _ => rfl
  | @idle profile houtcome _ r =>
    rw [hsteady'.concluded.log.share_reported hother, share_concluded_other hne]
  | @exported profile held houtcome hending rs =>
    cases heldFor_of_published hending
    rw [(hsteady'.concluded.log.exportProfile _ _).share_reportedAll hother]
    exact share_published_exported_other (hwell.of_outcome houtcome).1 hrecords' hsteady' hending
      hother hne hapart'

end finish

end Workspace

/-! ## 5. Questions -/

/-- What the option for the project is, and the share after it was given. -/
def Share.option (v : Share) (around : Surroundings) (byReference : Bool) : Except Fault Text × Share :=
  match v.published with
  | none => (.ok [], v)
  | some s =>
    let left := v.exported around s false
    ((Export.placed s.profile (v.scriptPath s.profile.config.shell) s.record false around.trouble).map fun placement =>
      Export.optionText s.profile placement (left.published.getD s).record byReference, left)

namespace Workspace

variable {w w' : Workspace} {root : Path} {around : Surroundings}

theorem option_share (hrecords : w.RecordsApart) (hsteady : w.Steady)
    (habout : ∀ held, w.registry.get? root = some held → held.profile.root = root)
    (hroot : root.anchor = .root) (hwrites : w.Writes root around) (byReference : Bool) :
    (match w.registry.get? root with
      | none => (.ok [], w.share root)
      | some held => (((Work.optionFor held byReference).on w).1,
          ((Work.optionFor held byReference).on w).2.share root)) =
      (w.share root).option around byReference := by
  cases hheld : w.registry.get? root with
  | none => simp [Share.option, share, hheld]
  | some held =>
    have hleft : ((Work.exportProfile held false).on w).2.share root =
        (w.share root).exported around (w.shown held) false :=
      share_exportProfile hrecords hsteady hheld (habout held hheld) hroot hwrites
    have hresult : ((Work.exportProfile held false).on w).1 =
        Export.placed held.profile ((w.share root).scriptPath held.profile.config.shell)
          (w.ledger.get held.record) false around.trouble := hwrites.placed (habout held hheld) false
    have hpublished : ((Work.exportProfile held false).on w).2.registry.get? root = some held := by
      rw [Work.view_exportProfile (·.registry) fun _ _ _ _ => rfl, hheld]
    simp only [Share.option, published_share hheld]
    rw [← hleft, published_share hpublished, Work.on_optionFor,
      show (w.shown held).profile = held.profile from rfl,
      show (w.shown held).record = w.ledger.get held.record from rfl, ← hresult]
    cases (Work.exportProfile held false).on w with
    | mk result w' => cases result <;> rfl

/-- Shares with the same published profile, if there is one. -/
theorem exists_held_of_share (hshare : w'.share root = w.share root) {held : Held}
    (hheld : w.registry.get? root = some held) :
    ∃ held', w'.registry.get? root = some held' ∧ w'.shown held' = w.shown held := by
  have hpublished := congrArg Share.published hshare
  rw [published_share hheld] at hpublished
  exact Option.map_eq_some_iff.mp hpublished

theorem get?_eq_none_of_share (hshare : w'.share root = w.share root)
    (hnone : w.registry.get? root = none) : w'.registry.get? root = none := by
  have hpublished := congrArg Share.published hshare
  simpa [share, hnone] using hpublished

/-- The answer about a project goes by its share. -/
theorem usageResult_congr
    (habout : ∀ held, w.registry.get? root = some held → held.profile.root = root)
    (hshare : w'.share root = w.share root) (canUseVariable : Bool) :
    w'.usageResult canUseVariable (w'.registry.get? root) =
      w.usageResult canUseVariable (w.registry.get? root) := by
  cases hheld : w.registry.get? root with
  | none =>
    rw [get?_eq_none_of_share hshare hheld]
    rfl
  | some held =>
    obtain ⟨held', hheld', hshown⟩ := exists_held_of_share hshare hheld
    have hprofile : held'.profile = held.profile := congrArg Shown.profile hshown
    have hrecord : w'.ledger.get held'.record = w.ledger.get held.record := congrArg Shown.record hshown
    have hscript : w'.scriptPath root = w.scriptPath root := congrArg Share.scriptPath hshare
    simp only [hheld', usageResult, usageOf, hprofile, hrecord, habout held hheld, hscript]

end Workspace

end SkipPath
