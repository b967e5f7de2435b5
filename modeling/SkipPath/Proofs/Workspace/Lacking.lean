import SkipPath.Proofs.Workspace.Deed

/-!
A workspace in which one request was never made.

Two workspaces are compared: in the first one a request has taken its ticket and published nothing, in the
second one it was never made.  All that can be seen of the projects is the same there, but that the later
tickets of the project are lower by one (`Workspace.Lacks`).  The files may differ by what was logged of the
request; which difference that is does not matter as long as nobody sees it (`Workspace.BlindTo`).

Whatever operation is done in both of them, a request keeping its place among the tickets of its project, has
the same result and leaves two such workspaces again (`Workspace.Twin`): each operation has its lemma below,
and the one for finishing a request rests on that the two requests end in the same way (`Lacks.endings`).
-/

namespace SkipPath

/-! ## 1. Tickets -/

namespace Request

variable (gone : Request) {root : Path} {ticket other : Nat}

/-- The number of a ticket of a project if a request had never been made: tickets that were taken after that
of the request are lower by one. -/
def renumber (root : Path) (ticket : Nat) : Nat :=
  if root = gone.root ∧ gone.ticket ≤ ticket then ticket - 1 else ticket

/-- A ticket of a project is that of a request. -/
def Took (root : Path) (ticket : Nat) : Prop := root = gone.root ∧ ticket = gone.ticket

instance (root : Path) (ticket : Nat) : Decidable (gone.Took root ticket) :=
  inferInstanceAs (Decidable (_ ∧ _))

variable {gone}

theorem renumber_of_lt (h : root = gone.root → ticket < gone.ticket) :
    gone.renumber root ticket = ticket := by
  unfold renumber
  split
  · next hlater =>
    have hlt := h hlater.1
    omega
  · rfl

/-- Numbers that are not below the ticket of the request go on by one. -/
theorem renumber_succ (hpos : 0 < gone.ticket) (h : root = gone.root → gone.ticket ≤ ticket) :
    gone.renumber root (ticket + 1) = gone.renumber root ticket + 1 := by
  unfold renumber
  by_cases hroot : root = gone.root
  · have hle := h hroot
    rw [if_pos ⟨hroot, Nat.le_succ_of_le hle⟩, if_pos ⟨hroot, hle⟩]
    omega
  · simp [hroot]

/-- All other tickets keep their order, also against marks that may be the ticket of the request. -/
theorem renumber_le_renumber (hpos : 0 < gone.ticket) (h : ¬ gone.Took root ticket) :
    gone.renumber root ticket ≤ gone.renumber root other ↔ ticket ≤ other := by
  unfold renumber Took at *
  by_cases hroot : root = gone.root
  · simp only [hroot, true_and] at h ⊢
    split <;> split <;> omega
  · simp [hroot]

theorem renumber_lt_renumber (hpos : 0 < gone.ticket) (h : ¬ gone.Took root ticket) :
    gone.renumber root other < gone.renumber root ticket ↔ other < ticket := by
  rw [← Nat.not_le, renumber_le_renumber hpos h, Nat.not_le]

theorem renumber_inj (hpos : 0 < gone.ticket) (h : ¬ gone.Took root ticket) (hother : ¬ gone.Took root other) :
    gone.renumber root ticket = gone.renumber root other ↔ ticket = other := by
  rw [Nat.le_antisymm_iff, renumber_le_renumber hpos h, renumber_le_renumber hpos hother, ← Nat.le_antisymm_iff]

/-- A request, with the ticket that it has if another one was never made. -/
def without (request gone : Request) : Request :=
  { request with ticket := gone.renumber request.root request.ticket }

@[simp] theorem without_root (request gone : Request) : (request.without gone).root = request.root := rfl

@[simp] theorem without_config (request gone : Request) : (request.without gone).config = request.config := rfl

@[simp] theorem without_ticket (request gone : Request) :
    (request.without gone).ticket = gone.renumber request.root request.ticket := rfl

/-- A request makes its profile of the same as before. -/
@[simp] theorem without_outcome (request gone : Request) : (request.without gone).outcome = request.outcome := rfl

@[simp] theorem without_records (request gone : Request) : (request.without gone).records = request.records := rfl

end Request

/-- A published profile, with the ticket that it has if a request was never made. -/
def Shown.without (s : Shown) (gone : Request) : Shown :=
  { s with ticket := gone.renumber s.profile.root s.ticket }

/-! ## 2. What is the same -/

namespace Workspace

/-- The second workspace has all that the first one has of the projects, but the request was never made
there. -/
structure Lacks (gone : Request) (w w' : Workspace) : Prop where
  defaultConfig : w'.registry.defaultConfig = w.registry.defaultConfig
  configs : ∀ root, w'.registry.configs.get? root = w.registry.configs.get? root
  /-- The same profiles are published, and the records of their exports are the same. -/
  published : ∀ root, (w'.registry.get? root).map w'.shown =
    (w.registry.get? root).map fun held => (w.shown held).without gone
  lastTicket : ∀ root, w'.registry.lastTicket root = gone.renumber root (w.registry.lastTicket root)
  removalMark : ∀ root, w'.registry.removalMark root = gone.renumber root (w.registry.removalMark root)
  pos : 0 < gone.ticket
  taken : gone.ticket ≤ w.registry.lastTicket gone.root
  unpublished : ∀ root held, w.registry.get? root = some held → ¬ gone.Took root held.ticket

/-- A way to write scripts into a folder does the same with trees that are related. -/
def WritesAlike (same : Files.Tree → Files.Tree → Prop) (scripts : Path) (writer : Files.Tree.Writer) : Prop :=
  ∀ t t' name content, same t t' → Files.Tree.IsInner name →
    same (writer t (scripts.child name) content).1 (writer t' (scripts.child name) content).1 ∧
      (writer t' (scripts.child name) content).2 = (writer t (scripts.child name) content).2

/-- Trees are related that differ by what is logged at most, and what operations read of related trees and do
to them is the same. -/
structure BlindTo (w : Workspace) (same : Files.Tree → Files.Tree → Prop) : Prop where
  equivalence : Equivalence same
  stored : ∀ r t, same t (w.logging.store w.stamp r t)
  here : ∀ t t', same t t' → t'.here = t.here
  read : ∀ t t', same t t' → ∀ root, w.loader.read t' root = w.loader.read t root
  content : ∀ t t', same t t' → ∀ name, Files.Tree.IsInner name →
    t'.content? (w.scripts.child name) = t.content? (w.scripts.child name)
  writer : WritesAlike same w.scripts w.writer

/-- Where nothing is logged to a file, no files differ at all. -/
theorem blindTo_eq {w : Workspace} (hsink : w.logging.file = none) : w.BlindTo Eq where
  equivalence := eq_equivalence
  stored r t := by rw [Log.Setup.store, hsink]
  here := by rintro t _ rfl; rfl
  read := by rintro t _ rfl root; rfl
  content := by rintro t _ rfl name _; rfl
  writer := by rintro t _ name content rfl _; exact ⟨rfl, rfl⟩

/-- The surroundings of two workspaces are the same, the log apart. -/
structure SameAround (same : Files.Tree → Files.Tree → Prop) (w w' : Workspace) : Prop where
  files : same w.files w'.files
  links : w'.links = w.links
  loader : w'.loader = w.loader
  scripts : w'.scripts = w.scripts
  writer : w'.writer = w.writer
  logging : w'.logging = w.logging
  stamp : w'.stamp = w.stamp

/-- Two workspaces that differ by a request that was never made, and by the log. -/
structure Twin (same : Files.Tree → Files.Tree → Prop) (gone : Request) (w w' : Workspace) : Prop where
  lacks : Lacks gone w w'
  around : SameAround same w w'
  blind : w.BlindTo same

variable {same : Files.Tree → Files.Tree → Prop} {gone : Request} {w w' w₁ w₁' : Workspace} {root : Path}

namespace Lacks

/-- What is seen goes by the registry and by the records. -/
theorem of_same (h : Lacks gone w w') (hregistry : w₁.registry = w.registry) (hshown : w₁.shown = w.shown)
    (hregistry' : w₁'.registry = w'.registry) (hshown' : w₁'.shown = w'.shown) : Lacks gone w₁ w₁' where
  defaultConfig := by rw [hregistry, hregistry', h.defaultConfig]
  configs := by rw [hregistry, hregistry']; exact h.configs
  published := by rw [hregistry, hregistry', hshown, hshown']; exact h.published
  lastTicket := by rw [hregistry, hregistry']; exact h.lastTicket
  removalMark := by rw [hregistry, hregistry']; exact h.removalMark
  pos := h.pos
  taken := by rw [hregistry]; exact h.taken
  unpublished := by rw [hregistry]; exact h.unpublished

theorem exists_held (h : Lacks gone w w') {held : Held} (hheld : w.registry.get? root = some held) :
    ∃ held', w'.registry.get? root = some held' ∧ w'.shown held' = (w.shown held).without gone := by
  have hpublished := h.published root
  rw [hheld, Option.map_some] at hpublished
  exact Option.map_eq_some_iff.mp hpublished

theorem get?_eq_none (h : Lacks gone w w') (hnone : w.registry.get? root = none) :
    w'.registry.get? root = none := by
  have hpublished := h.published root
  rw [hnone] at hpublished
  exact Option.map_eq_none_iff.mp hpublished

theorem shown_of_published (h : Lacks gone w w') {held held' : Held}
    (hheld : w.registry.get? root = some held) (hheld' : w'.registry.get? root = some held') :
    w'.shown held' = (w.shown held).without gone := by
  obtain ⟨held₁, hheld₁, hshown⟩ := h.exists_held hheld
  cases hheld'.symm.trans hheld₁
  exact hshown

theorem configFor (h : Lacks gone w w') (root : Path) :
    w'.registry.configFor root = w.registry.configFor root := by
  rw [Registry.configFor, h.configs, h.defaultConfig, Registry.configFor]

theorem isKnown (h : Lacks gone w w') (root : Path) : w'.registry.isKnown root = w.registry.isKnown root := by
  rw [Registry.isKnown, Table.contains, h.configs, Registry.isKnown, Table.contains]

end Lacks

/-! ### Reports -/

/-- What one is blind to goes by the surroundings. -/
theorem BlindTo.of_same (h : w.BlindTo same) (hloader : w₁.loader = w.loader) (hscripts : w₁.scripts = w.scripts)
    (hwriter : WritesAlike same w.scripts w₁.writer) (hlogging : w₁.logging = w.logging) (hstamp : w₁.stamp = w.stamp) :
    w₁.BlindTo same where
  equivalence := h.equivalence
  stored := by rw [hlogging, hstamp]; exact h.stored
  here := h.here
  read := by rw [hloader]; exact h.read
  content := by rw [hscripts]; exact h.content
  writer := by rw [hscripts]; exact hwriter

theorem BlindTo.reportedAll (h : w.BlindTo same) (rs : List Log.Record) : (w.reportedAll rs).BlindTo same :=
  h.of_same (view_reportedAll w rs _ fun _ _ _ => rfl) (reportedAll_scripts w rs)
    ((reportedAll_writer w rs).symm ▸ h.writer) (reportedAll_logging w rs) (reportedAll_stamp w rs)

theorem BlindTo.files_reportedAll (h : w.BlindTo same) (rs : List Log.Record) :
    same w.files (w.reportedAll rs).files := by
  induction rs generalizing w with
  | nil => exact h.equivalence.refl _
  | cons r rs ih =>
    have hreported : same w.files (w.reported r).files := by
      unfold reported
      split
      · exact h.stored r w.files
      · exact h.equivalence.refl _
    exact h.equivalence.trans hreported (ih (h.reportedAll [r]))

namespace Twin

theorem resolve (h : Twin same gone w w') (p : Path) : w'.resolve p = w.resolve p := by
  rw [Workspace.resolve, Workspace.resolve, h.around.links, h.blind.here _ _ h.around.files]

theorem scriptPath (h : Twin same gone w w') (root : Path) (shell : Shell) :
    w'.scriptPath root shell = w.scriptPath root shell := by
  rw [Workspace.scriptPath, h.resolve, h.around.scripts, Workspace.scriptPath]

/-- The same was reported in both workspaces, or something else. -/
theorem reportedAll (h : Twin same gone w w') (rs rs' : List Log.Record) :
    Twin same gone (w.reportedAll rs) (w'.reportedAll rs') where
  lacks := h.lacks.of_same (reportedAll_registry w rs) (by funext held; simp [shown])
    (reportedAll_registry w' rs') (by funext held; simp [shown])
  around := by
    have hblind' : w'.BlindTo same :=
      h.blind.of_same h.around.loader h.around.scripts (h.around.writer.symm ▸ h.blind.writer) h.around.logging
        h.around.stamp
    refine ⟨?_, ?_, ?_, ?_, ?_, ?_, ?_⟩
    · exact h.blind.equivalence.trans (h.blind.equivalence.symm (h.blind.files_reportedAll rs))
        (h.blind.equivalence.trans h.around.files (hblind'.files_reportedAll rs'))
    · simp [h.around.links]
    · rw [view_reportedAll w rs (·.loader) fun _ _ _ => rfl, view_reportedAll w' rs' (·.loader) fun _ _ _ => rfl,
        h.around.loader]
    · simp [h.around.scripts]
    · simp [h.around.writer]
    · simp [h.around.logging]
    · simp [h.around.stamp]
  blind := h.blind.reportedAll rs

theorem reported (h : Twin same gone w w') (r r' : Log.Record) : Twin same gone (w.reported r) (w'.reported r') :=
  h.reportedAll [r] [r']

/-- What operations change besides reports are the files, the registry and the records. -/
theorem replacing (h : Twin same gone w w') {files files' : Files.Tree} {registry registry' : Registry}
    {ledger ledger' : Export.Ledger} (hfiles : same files files')
    (hlacks : Lacks gone { w with files := files, registry := registry, ledger := ledger }
      { w' with files := files', registry := registry', ledger := ledger' }) :
    Twin same gone { w with files := files, registry := registry, ledger := ledger }
      { w' with files := files', registry := registry', ledger := ledger' } where
  lacks := hlacks
  around :=
    ⟨hfiles, h.around.links, h.around.loader, h.around.scripts, h.around.writer, h.around.logging, h.around.stamp⟩
  blind := h.blind.of_same rfl rfl h.blind.writer rfl rfl

end Twin

/-! ## 3. Beginning and removing -/

namespace Lacks

/-- A request that was made is what the workspace from before lacks. -/
theorem begun (hticket : gone.ticket = w.registry.lastTicket gone.root + 1)
    (hmarks : ∀ root, w.registry.removalMark root ≤ w.registry.lastTicket root)
    (hentries : ∀ root held, w.registry.get? root = some held → held.ticket ≤ w.registry.lastTicket root)
    (habout : ∀ root held, w.registry.get? root = some held → held.profile.root = root) :
    Lacks gone { w with registry := (w.registry.begin gone.root).2 } w where
  defaultConfig := rfl
  configs _ := rfl
  published root := by
    refine Option.map_congr fun held hheld => ?_
    have hlt : held.profile.root = gone.root → held.ticket < gone.ticket := by
      intro hroot
      have hle := hentries root held hheld
      rw [← habout root held hheld, hroot] at hle
      omega
    show w.shown held = { w.shown held with ticket := gone.renumber held.profile.root held.ticket }
    rw [Request.renumber_of_lt hlt]
    rfl
  lastTicket root := by
    rw [Registry.lastTicket_begin]
    split
    · next hroot =>
      subst hroot
      rw [← hticket, Request.renumber, if_pos ⟨rfl, Nat.le_refl _⟩]
      omega
    · next hroot => exact (Request.renumber_of_lt fun he => absurd he hroot).symm
  removalMark root := by
    refine (Request.renumber_of_lt fun hroot => ?_).symm
    have hle := hmarks root
    rw [hroot] at hle ⊢
    exact hticket ▸ Nat.lt_succ_of_le hle
  pos := by omega
  taken := by simp [hticket]
  unpublished root held hheld htook := by
    have hle := hentries root held hheld
    rw [htook.1, htook.2] at hle
    omega

/-- A request for any project is begun in both. -/
theorem begin (h : Lacks gone w w') (root : Path) :
    Lacks gone { w with registry := (w.registry.begin root).2 }
      { w' with registry := (w'.registry.begin root).2 } where
  defaultConfig := h.defaultConfig
  configs := h.configs
  published := h.published
  lastTicket other := by
    simp only [Registry.lastTicket_begin, h.lastTicket]
    split
    · next he =>
      rw [he]
      exact (Request.renumber_succ h.pos fun hroot => hroot ▸ h.taken).symm
    · rfl
  removalMark := h.removalMark
  pos := h.pos
  taken := by
    have htaken := h.taken
    rw [Registry.lastTicket_begin]
    split
    · next he =>
      rw [he] at htaken
      omega
    · exact htaken
  unpublished := h.unpublished

theorem remove (h : Lacks gone w w') (root : Path) :
    Lacks gone { w with registry := w.registry.remove root } { w' with registry := w'.registry.remove root } where
  defaultConfig := h.defaultConfig
  configs other := by simp [h.configs]
  published other := by
    simp only [Registry.get?_remove]
    split
    · rfl
    · exact h.published other
  lastTicket := h.lastTicket
  removalMark other := by
    simp only [Registry.removalMark_remove, h.lastTicket, h.removalMark]
    split
    · next he => rw [he]
    · rfl
  pos := h.pos
  taken := h.taken
  unpublished other held hheld := by
    rw [Registry.get?_remove] at hheld
    split at hheld
    · cases hheld
    · exact h.unpublished other held hheld

theorem clear (h : Lacks gone w w')
    (hmarks : ∀ root, w.registry.clear.removalMark root = w.registry.lastTicket root)
    (hmarks' : ∀ root, w'.registry.clear.removalMark root = w'.registry.lastTicket root) :
    Lacks gone { w with registry := w.registry.clear } { w' with registry := w'.registry.clear } where
  defaultConfig := h.defaultConfig
  configs _ := rfl
  published _ := rfl
  lastTicket := h.lastTicket
  removalMark root := by rw [hmarks, hmarks', h.lastTicket]
  pos := h.pos
  taken := h.taken
  unpublished _ _ hheld := by cases hheld

end Lacks

/-! ## 4. Exports -/

section attempt

variable {held held' other : Held} {a : Export.Attempt}

theorem shown_attempted_self (hknown : held.record < w.ledger.records.length) :
    (w.attempted a held.record).shown held =
      { w.shown held with record := a.remembered (w.writing a).2 (w.shown held).record } := by
  simp [shown, attempted, Export.Ledger.get_set_self _ hknown]

theorem shown_attempted_other (hne : held.record ≠ other.record) :
    (w.attempted a held.record).shown other = w.shown other := by
  simp [shown, attempted, Export.Ledger.get_set_other _ hne]

variable (h : Twin same gone w w') (hrecords : w.RecordsApart) (hrecords' : w'.RecordsApart)
  (hheld : w.registry.get? root = some held) (hheld' : w'.registry.get? root = some held')
include h

theorem Twin.writing {project : Path} (ha : w.AttemptAt project a) :
    same (w.writing a).1 (w'.writing a).1 ∧ (w'.writing a).2 = (w.writing a).2 := by
  obtain ⟨name, hname, hinner, -⟩ := ha.isScript.named
  rw [Workspace.writing, Workspace.writing, h.around.writer, hname]
  exact h.blind.writer _ _ _ _ h.around.files hinner

include hrecords hrecords' hheld hheld'

/-- An attempt for the same project is remembered in the same way. -/
theorem Twin.attempted {project : Path} (ha : w.AttemptAt project a) :
    Twin same gone (w.attempted a held.record) (w'.attempted a held'.record) := by
  refine h.replacing (h.writing ha).1 ⟨h.lacks.defaultConfig, h.lacks.configs, fun other => ?_,
    h.lacks.lastTicket, h.lacks.removalMark, h.lacks.pos, h.lacks.taken, h.lacks.unpublished⟩
  show (w'.registry.get? other).map (w'.attempted a held'.record).shown =
    (w.registry.get? other).map fun found => ((w.attempted a held.record).shown found).without gone
  cases hget : w.registry.get? other with
  | none => rw [h.lacks.get?_eq_none hget, Option.map_none, Option.map_none]
  | some found =>
    obtain ⟨found', hget', hshown⟩ := h.lacks.exists_held hget
    rw [hget', Option.map_some, Option.map_some]
    by_cases he : other = root
    · subst he
      cases hget.symm.trans hheld
      cases hget'.symm.trans hheld'
      rw [shown_attempted_self (hrecords.known _ _ hheld), shown_attempted_self (hrecords'.known _ _ hheld'),
        hshown, (h.writing ha).2]
      rfl
    · rw [shown_attempted_other fun hsame => he (hrecords.separate _ _ _ _ hget hheld hsame.symm),
        shown_attempted_other fun hsame => he (hrecords'.separate _ _ _ _ hget' hheld' hsame.symm), hshown]

/-- An export of the profile of a project comes to the same. -/
theorem Twin.exportProfile (force : Bool) :
    ((Work.exportProfile held' force).on w').1 = ((Work.exportProfile held force).on w).1 ∧
      Twin same gone ((Work.exportProfile held force).on w).2 ((Work.exportProfile held' force).on w').2 := by
  have hshown := h.lacks.shown_of_published hheld hheld'
  have hprofile : held'.profile = held.profile := congrArg Shown.profile hshown
  have hrecord : w'.ledger.get held'.record = w.ledger.get held.record := congrArg Shown.record hshown
  have hattempt : w'.attemptOf held' force = w.attemptOf held force := by
    rw [attemptOf, hprofile, hrecord, h.scriptPath, attemptOf]
  constructor
  · rw [exportProfile_fst, exportProfile_fst, hprofile, hrecord, h.scriptPath]
    exact Export.placed_congr fun a ha => (h.writing (of_attemptOf ha).1).2
  · rcases exportProfile_snd w held force with ⟨a, ha, hleft⟩ | ⟨hnone, rs, hleft⟩ <;>
      rcases exportProfile_snd w' held' force with ⟨a', ha', hleft'⟩ | ⟨hnone', rs', hleft'⟩ <;>
      rw [hleft, hleft']
    · cases ha.symm.trans (hattempt.symm.trans ha')
      exact (h.attempted hrecords hrecords' hheld hheld' (of_attemptOf ha).1).reportedAll _ _
    · cases ha.symm.trans (hattempt.symm.trans hnone')
    · cases hnone.symm.trans (hattempt.symm.trans ha')
    · exact h.reportedAll rs rs'

/-- What is then remembered of it is the same. -/
theorem Twin.shown_exportProfile (force : Bool) :
    ((Work.exportProfile held' force).on w').2.shown held' =
      (((Work.exportProfile held force).on w).2.shown held).without gone := by
  have hleft := (h.exportProfile hrecords hrecords' hheld hheld' force).2
  have hkept : ((Work.exportProfile held force).on w).2.registry.get? root = some held := by
    rw [Work.view_exportProfile (·.registry) fun _ _ _ _ => rfl, hheld]
  have hkept' : ((Work.exportProfile held' force).on w').2.registry.get? root = some held' := by
    rw [Work.view_exportProfile (·.registry) fun _ _ _ _ => rfl, hheld']
  exact hleft.lacks.shown_of_published hkept hkept'

end attempt

/-! ## 5. Finishing another request -/

section finish

variable {request : Request} {profile : Profile} (hother : ¬ gone.Took request.root request.ticket)
  (habout : ∀ held, w.registry.get? request.root = some held → held.profile.root = request.root)
  (hprofile : profile.root = request.root)

include hprofile in
/-- A profile is published with the record of the one before it. -/
theorem Lacks.shown_heldFor (h : Lacks gone w w') :
    w'.shown (w'.heldFor (request.without gone) profile) =
      (w.shown (w.heldFor request profile)).without gone := by
  have hrecord : w'.ledger.get (w'.recordFor request.root) = w.ledger.get (w.recordFor request.root) := by
    unfold recordFor
    cases hget : w.registry.get? request.root with
    | none =>
      rw [h.get?_eq_none hget, Option.elim_none, Option.elim_none, get_fresh_id, get_fresh_id]
    | some held =>
      obtain ⟨held', hget', hshown⟩ := h.exists_held hget
      rw [hget']
      exact congrArg Shown.record hshown
  simp [shown, heldFor, Shown.without, hrecord, hprofile]

include hother habout in
/-- The other requests end as they do in the other workspace. -/
theorem Lacks.endings (h : Lacks gone w w') (profile : Profile) :
    (w.endingOf request profile = .discarded ∧ w'.endingOf (request.without gone) profile = .discarded) ∨
    (∃ current current', w.registry.get? request.root = some current ∧
      w'.registry.get? request.root = some current' ∧ w.endingOf request profile = .superseded current ∧
      w'.endingOf (request.without gone) profile = .superseded current') ∨
    (w.endingOf request profile = .published (w.heldFor request profile) ∧
      w'.endingOf (request.without gone) profile = .published (w'.heldFor (request.without gone) profile)) := by
  have hmarked : gone.renumber request.root request.ticket ≤ w'.registry.removalMark request.root ↔
      request.ticket ≤ w.registry.removalMark request.root := by
    rw [h.removalMark]
    exact Request.renumber_le_renumber h.pos hother
  have hearlier : ∀ {current current' : Held}, w.registry.get? request.root = some current →
      w'.registry.get? request.root = some current' →
      (gone.renumber request.root request.ticket < current'.ticket ↔ request.ticket < current.ticket) := by
    intro current current' hcurrent hcurrent'
    have hticket : current'.ticket = gone.renumber current.profile.root current.ticket :=
      congrArg Shown.ticket (h.shown_of_published hcurrent hcurrent')
    rw [hticket, habout current hcurrent]
    exact Request.renumber_lt_renumber h.pos (h.unpublished request.root current hcurrent)
  rcases w.registry.ending_cases request.root request.ticket profile w.ledger.fresh.1 with
    ⟨hmark, he⟩ | ⟨hmark, current, hcurrent, hlt, he⟩ | ⟨hmark, hnewest, he⟩
  · exact .inl ⟨he, if_pos (hmarked.mpr hmark)⟩
  · obtain ⟨current', hcurrent', -⟩ := h.exists_held hcurrent
    refine .inr (.inl ⟨current, current', hcurrent, hcurrent', he, ?_⟩)
    have hlt' := (hearlier hcurrent hcurrent').mpr hlt
    have hmark' := mt hmarked.mp (Nat.not_le.mpr hmark)
    simp [endingOf, Registry.ending, hmark', hcurrent', hlt']
  · refine .inr (.inr ⟨he, ?_⟩)
    rcases w'.registry.ending_cases request.root (gone.renumber request.root request.ticket) profile
        w'.ledger.fresh.1 with ⟨hmark', -⟩ | ⟨-, current', hcurrent', hlt', -⟩ | ⟨-, -, he'⟩
    · exact absurd (hmarked.mp hmark') (Nat.not_le.mpr hmark)
    · cases hcurrent : w.registry.get? request.root with
      | none => cases hcurrent'.symm.trans (h.get?_eq_none hcurrent)
      | some current =>
        have hlt := (hearlier hcurrent hcurrent').mp hlt'
        exact absurd (hnewest current hcurrent) (Nat.not_le.mpr hlt)
    · exact he'

include hother hprofile in
/-- A request that is published in both workspaces. -/
theorem Lacks.published_concluded (h : Lacks gone w w')
    (he : w.endingOf request profile = .published (w.heldFor request profile))
    (he' : w'.endingOf (request.without gone) profile =
      .published (w'.heldFor (request.without gone) profile)) :
    Lacks gone (w.concluded request profile) (w'.concluded (request.without gone) profile) := by
  have hregistry : (w.concluded request profile).registry =
      w.registry.apply request.root request.config (.published (w.heldFor request profile)) := by
    rw [concluded_registry, he]
  have hregistry' : (w'.concluded (request.without gone) profile).registry =
      w'.registry.apply request.root request.config
        (.published (w'.heldFor (request.without gone) profile)) := by
    rw [concluded_registry, he', Request.without_root, Request.without_config]
  constructor
  · simp [hregistry, hregistry', h.defaultConfig]
  · intro other
    simp [hregistry, hregistry', h.configs]
  · intro other
    rw [hregistry, hregistry', shown_concluded, shown_concluded]
    simp only [Registry.get?_apply_published]
    split
    · rw [Option.map_some, Option.map_some, h.shown_heldFor hprofile]
    · exact h.published other
  · intro other
    simp [hregistry, hregistry', h.lastTicket]
  · intro other
    simp [hregistry, hregistry', h.removalMark]
  · exact h.pos
  · simpa [hregistry] using h.taken
  · intro other held hheld
    rw [hregistry, Registry.get?_apply_published] at hheld
    split at hheld
    · next he =>
      cases hheld
      exact he ▸ hother
    · exact h.unpublished other held hheld

/-- A request that is not published leaves the registry alone. -/
theorem concluded_registry_of_idle (hidle : ∀ held, w.endingOf request profile ≠ .published held) :
    (w.concluded request profile).registry = w.registry := by
  rw [concluded_registry]
  cases hending : w.endingOf request profile with
  | published held => exact absurd hending (hidle held)
  | superseded current => rfl
  | discarded => rfl

include hother habout hprofile in
/-- When a request has ended, it is published in both workspaces or in neither. -/
theorem Twin.concluded (h : Twin same gone w w') :
    Twin same gone (w.concluded request profile) (w'.concluded (request.without gone) profile) := by
  refine h.replacing h.around.files ?_
  show Lacks gone (w.concluded request profile) (w'.concluded (request.without gone) profile)
  rcases h.lacks.endings hother habout profile with ⟨he, he'⟩ | ⟨current, current', -, -, he, he'⟩ | ⟨he, he'⟩
  · exact h.lacks.of_same (concluded_registry_of_idle (by simp [he])) shown_concluded
      (concluded_registry_of_idle (by simp [he'])) shown_concluded
  · exact h.lacks.of_same (concluded_registry_of_idle (by simp [he])) shown_concluded
      (concluded_registry_of_idle (by simp [he'])) shown_concluded
  · exact h.lacks.published_concluded hother hprofile he he'

include hother habout in
/-- Another request that is finished has the same result in both workspaces. -/
theorem Twin.finish (h : Twin same gone w w') (hrecords : w.RecordsApart) (hrecords' : w'.RecordsApart)
    (hwell : request.WellFormed) :
    ((Work.finish (request.without gone)).on w').1.map ((Work.finish (request.without gone)).on w').2.shown =
        (((Work.finish request).on w).1.map ((Work.finish request).on w).2.shown).map (·.without gone) ∧
      Twin same gone ((Work.finish request).on w).2 ((Work.finish (request.without gone)).on w').2 := by
  have hmade := h.reportedAll request.records request.records
  have hrecords₁ : (w.reportedAll request.records).RecordsApart :=
    hrecords.of_same (reportedAll_registry w _) (reportedAll_ledger w _)
  have hrecords₁' : (w'.reportedAll request.records).RecordsApart :=
    hrecords'.of_same (reportedAll_registry w' _) (reportedAll_ledger w' _)
  have habout₁ : ∀ held, (w.reportedAll request.records).registry.get? request.root = some held →
      held.profile.root = request.root := by
    rw [reportedAll_registry]
    exact habout
  rw [Work.on_finish, Work.on_finish, Request.without_outcome, Request.without_records, Request.without_root,
    Request.without_ticket]
  generalize w.reportedAll request.records = made at *
  generalize w'.reportedAll request.records = made' at *
  cases houtcome : request.outcome with
  | error fault => exact ⟨rfl, hmade⟩
  | ok profile =>
    have hprofile : profile.root = request.root := (hwell.of_outcome houtcome).1
    have hdone := hmade.concluded hother habout₁ hprofile
    rcases hmade.lacks.endings hother habout₁ profile with
      ⟨he, he'⟩ | ⟨current, current', hcurrent, hcurrent', he, he'⟩ | ⟨he, he'⟩
    · simp only [he, he']
      refine ⟨?_, hdone.reported _ _⟩
      simp only [Except.map, shown_reported, shown_concluded]
      simp [shown, Shown.without, get_fresh_id, hprofile]
    · simp only [he, he']
      refine ⟨?_, hdone.reported _ _⟩
      simp only [Except.map, shown_reported, shown_concluded, hmade.lacks.shown_of_published hcurrent hcurrent']
    · simp only [he, he']
      have hheld := get?_concluded_published he request.root
      have hheld' := get?_concluded_published he' request.root
      rw [if_pos rfl] at hheld
      rw [Request.without_root, if_pos rfl] at hheld'
      cases profile.isUsable with
      | false =>
        simp only [Bool.false_eq_true, if_false]
        refine ⟨?_, hdone.reported _ _⟩
        simp only [Except.map, shown_reported, hdone.lacks.shown_of_published hheld hheld']
      | true =>
        obtain ⟨hresult, hleft⟩ := hdone.exportProfile hrecords₁.concluded hrecords₁'.concluded hheld hheld' false
        have hshown := hdone.shown_exportProfile hrecords₁.concluded hrecords₁'.concluded hheld hheld' false
        simp only [if_true]
        generalize (Work.exportProfile (made.heldFor request profile) false).on _ = exported at *
        generalize (Work.exportProfile (made'.heldFor (request.without gone) profile) false).on _ = exported' at *
        obtain ⟨result, w₁⟩ := exported
        obtain ⟨result', w₁'⟩ := exported'
        cases hresult
        cases result with
        | error fault => exact ⟨rfl, hleft⟩
        | ok placement =>
          refine ⟨?_, hleft.reported _ _⟩
          simp only [Except.map, shown_reported, hshown]

end finish

/-! ## 6. Calls and questions -/

theorem Lacks.settingsFor (h : Lacks gone w w') (root : Path) (config : Option Config) :
    w'.settingsFor root config = w.settingsFor root config := by
  rw [Workspace.settingsFor, h.configFor, Workspace.settingsFor]

/-- The next ticket of a project keeps its place. -/
theorem Lacks.nextTicket (h : Lacks gone w w') (root : Path) :
    w'.registry.lastTicket root + 1 = gone.renumber root (w.registry.lastTicket root + 1) := by
  rw [h.lastTicket, Request.renumber_succ h.pos fun hroot => hroot ▸ h.taken]

theorem Twin.makingOf (h : Twin same gone w w') (root : Path) (config : Config) :
    w'.makingOf root config = w.makingOf root config := by
  simp only [Workspace.makingOf, Workspace.unread, h.around.loader, h.blind.read _ _ h.around.files]

theorem Twin.loadRequest (h : Twin same gone w w') (root : Path) (config : Option Config) :
    w'.loadRequest root config = (w.loadRequest root config).map (·.without gone) := by
  simp only [Workspace.loadRequest, h.lacks.settingsFor, h.makingOf, h.lacks.nextTicket]
  cases w.makingOf root (w.settingsFor root config) <;> rfl

/-- A call begins the same request, which takes the next ticket. -/
theorem Twin.begin_fst (h : Twin same gone w w') (call : Call) :
    (call.begin.on w').1 = (call.begin.on w).1.map (·.map (·.without gone)) := by
  cases call with
  | load root config =>
    simp only [Call.begin, Work.on_map, Work.beginLoad_fst, h.resolve, h.loadRequest]
    cases w.resolve root with
    | error fault => rfl
    | ok full =>
      simp only [Except.bind]
      cases w.loadRequest full config <;> rfl
  | compile root text config source =>
    simp only [Call.begin, Work.on_map, Work.beginText_fst, h.resolve, h.lacks.settingsFor, h.lacks.nextTicket]
    cases w.resolve root <;> rfl
  | notice file =>
    simp only [Call.begin, Work.beginNotice_fst, h.resolve, h.around.loader, h.lacks.isKnown]
    cases w.resolve file with
    | error fault => rfl
    | ok full =>
      simp only [Except.bind]
      generalize Work.noticeRecord Log.info "Reloading ignore file: " full = r
      rw [(h.reported r r).loadRequest full.parent none]
      split
      · rfl
      · cases (w.reported r).loadRequest full.parent none <;> rfl

/-- What a builder of commands is told of a project is the same. -/
theorem Twin.usageResult (h : Twin same gone w w') (root : Path) (canUseVariable : Bool) :
    w'.usageResult canUseVariable (w'.registry.get? root) =
      w.usageResult canUseVariable (w.registry.get? root) := by
  cases hheld : w.registry.get? root with
  | none =>
    rw [h.lacks.get?_eq_none hheld]
    rfl
  | some held =>
    obtain ⟨held', hheld', hshown⟩ := h.lacks.exists_held hheld
    have hprofile : held'.profile = held.profile := congrArg Shown.profile hshown
    have hrecord : w'.ledger.get held'.record = w.ledger.get held.record := congrArg Shown.record hshown
    simp only [hheld', Workspace.usageResult, Workspace.usageOf, hprofile, hrecord, h.scriptPath]

/-- The option for a project is the same. -/
theorem Twin.projectOption (h : Twin same gone w w') (hrecords : w.RecordsApart) (hrecords' : w'.RecordsApart)
    (root : Path) (byReference : Bool) :
    ((Work.projectOption root byReference).on w').1 = ((Work.projectOption root byReference).on w).1 ∧
      Twin same gone ((Work.projectOption root byReference).on w).2
        ((Work.projectOption root byReference).on w').2 := by
  rw [Work.on_projectOption, Work.on_projectOption, h.resolve]
  cases w.resolve root with
  | error fault => exact ⟨rfl, h⟩
  | ok full =>
    simp only
    cases hheld : w.registry.get? full with
    | none =>
      rw [h.lacks.get?_eq_none hheld]
      exact ⟨rfl, h⟩
    | some held =>
      obtain ⟨held', hheld', -⟩ := h.lacks.exists_held hheld
      obtain ⟨hresult, hleft⟩ := h.exportProfile hrecords hrecords' hheld hheld' false
      have hprofile : held'.profile = held.profile :=
        congrArg Shown.profile (h.lacks.shown_of_published hheld hheld')
      have hrecord := congrArg Shown.record (h.shown_exportProfile hrecords hrecords' hheld hheld' false)
      rw [hheld']
      simp only [Work.on_optionFor, hprofile]
      generalize (Work.exportProfile held false).on w = exported at *
      generalize (Work.exportProfile held' false).on w' = exported' at *
      obtain ⟨result, w₁⟩ := exported
      obtain ⟨result', w₁'⟩ := exported'
      cases hresult
      cases result with
      | error fault => exact ⟨rfl, hleft⟩
      | ok placement =>
        have hremembered : w₁'.ledger.get held'.record = w₁.ledger.get held.record := hrecord
        refine ⟨?_, hleft⟩
        simp only [hremembered]

end Workspace

end SkipPath
