import SkipPath.Proofs.Registry.Ticket
import SkipPath.Proofs.Workspace.Run

/-!
The last request wins.

Requests for a project may be finished in any order, and the project may be removed in between.  What is
published at any moment is decided by the history alone: of the requests that were finished with a profile
and that began after the last removal of the project, it is the profile of the one with the highest
ticket.  The invariant behind it says that a request is still live, having begun after the last removal,
exactly if its ticket is above the removal mark (`Tickets.live`).
-/

namespace SkipPath

/-! ## 1. What the history says -/

/-- Whether something that has happened voids the requests for a project. -/
def Happening.Voids (root : Path) : Happening → Prop
  | .removed other => other = root
  | .cleared => True
  | .begun _ | .finished _ => False

/-- A request has begun, and its project was not removed after that. -/
inductive Request.Live (request : Request) : List Happening → Prop where
  | begun {earlier : List Happening} : Live request (.begun request :: earlier)
  | later {happening : Happening} {earlier : List Happening} (h : Live request earlier)
    (hkept : ¬ happening.Voids request.root) : Live request (happening :: earlier)

/-- A request may be the one whose profile is published for a project: it was finished, compiling gave
this profile, and the project was not removed after the request began. -/
structure Contends (history : List Happening) (root : Path) (request : Request) (profile : Profile) :
    Prop where
  finished : .finished request ∈ history
  about : request.root = root
  outcome : request.outcome = .ok profile
  live : request.Live history

/-- Of the requests that may be the published one, the one with the highest ticket. -/
structure Latest (history : List Happening) (root : Path) (request : Request) (profile : Profile) :
    Prop extends Contends history root request profile where
  highest : ∀ other p, Contends history root other p → other ≠ request → other.ticket < request.ticket

section history

variable {request new : Request} {history : List Happening} {root other : Path} {profile : Profile}

@[simp] theorem live_begun :
    request.Live (.begun new :: history) ↔ request = new ∨ request.Live history := by
  constructor
  · intro h
    cases h with
    | begun => exact .inl rfl
    | later h => exact .inr h
  · rintro (rfl | h)
    · exact .begun
    · exact .later h id

@[simp] theorem live_finished :
    request.Live (.finished new :: history) ↔ request.Live history := by
  constructor
  · intro h
    cases h with
    | later h => exact h
  · exact fun h => .later h id

@[simp] theorem live_removed :
    request.Live (.removed root :: history) ↔ root ≠ request.root ∧ request.Live history := by
  constructor
  · intro h
    cases h with
    | later h hkept => exact ⟨hkept, h⟩
  · exact fun h => .later h.2 h.1

@[simp] theorem not_live_cleared : ¬ request.Live (.cleared :: history) := by
  intro h
  cases h with
  | later h hkept => exact hkept trivial

theorem contends_finished :
    Contends (.finished new :: history) root request profile ↔
      Contends history root request profile ∨
        request = new ∧ new.root = root ∧ new.outcome = .ok profile ∧ new.Live history := by
  constructor
  · rintro ⟨hfinished, hroot, houtcome, hlive⟩
    rw [live_finished] at hlive
    rcases List.mem_cons.mp hfinished with he | hmem
    · cases he
      exact .inr ⟨rfl, hroot, houtcome, hlive⟩
    · exact .inl ⟨hmem, hroot, houtcome, hlive⟩
  · rintro (⟨hfinished, hroot, houtcome, hlive⟩ | ⟨rfl, hroot, houtcome, hlive⟩)
    · exact ⟨List.mem_cons_of_mem _ hfinished, hroot, houtcome, live_finished.mpr hlive⟩
    · exact ⟨List.mem_cons_self, hroot, houtcome, live_finished.mpr hlive⟩

theorem contends_removed :
    Contends (.removed other :: history) root request profile ↔
      other ≠ root ∧ Contends history root request profile := by
  constructor
  · rintro ⟨hfinished, rfl, houtcome, hlive⟩
    rw [live_removed] at hlive
    exact ⟨hlive.1, by simpa using hfinished, rfl, houtcome, hlive.2⟩
  · rintro ⟨hne, hfinished, rfl, houtcome, hlive⟩
    exact ⟨List.mem_cons_of_mem _ hfinished, rfl, houtcome, live_removed.mpr ⟨hne, hlive⟩⟩

theorem not_contends_cleared : ¬ Contends (.cleared :: history) root request profile :=
  fun h => not_live_cleared h.live

end history

/-! ## 2. Tickets over a run -/

/-- What tickets, removal marks and pending requests have to do with the history. -/
structure Tickets (r : Registry) (pending : List Request) (history : List Happening) : Prop where
  counters : r.OneCounterEach
  marks : ∀ root, r.removalMark root ≤ r.lastTicket root
  pending_begun : ∀ request ∈ pending, .begun request ∈ history
  finished_begun : ∀ request, .finished request ∈ history → .begun request ∈ history
  wellFormed : ∀ request, .begun request ∈ history → request.WellFormed
  le_last : ∀ request, .begun request ∈ history → request.ticket ≤ r.lastTicket request.root
  distinct : ∀ request other, .begun request ∈ history → .begun other ∈ history →
    request.root = other.root → request.ticket = other.ticket → request = other
  live : ∀ request, .begun request ∈ history →
    (request.Live history ↔ r.removalMark request.root < request.ticket)

namespace Tickets

variable {r : Registry} {pending : List Request} {history : List Happening}

theorem start (config : Config) : Tickets { defaultConfig := config } [] [] where
  counters := List.nodup_nil
  marks _ := Nat.le_refl _
  pending_begun _ h := absurd h List.not_mem_nil
  finished_begun _ h := absurd h List.not_mem_nil
  wellFormed _ h := absurd h List.not_mem_nil
  le_last _ h := absurd h List.not_mem_nil
  distinct _ _ h := absurd h List.not_mem_nil
  live _ h := absurd h List.not_mem_nil

/-- A request that begins has a ticket above those of all earlier requests for its project. -/
theorem begun_lt (h : Tickets r pending history) {request other : Request}
    (hticket : request.ticket = r.lastTicket request.root + 1) (hbegun : .begun other ∈ history)
    (hroot : other.root = request.root) : other.ticket < request.ticket := by
  have hle := h.le_last other hbegun
  rw [hroot] at hle
  omega

theorem begun (h : Tickets r pending history) {request : Request} (hwell : request.WellFormed)
    (hticket : request.ticket = r.lastTicket request.root + 1) :
    Tickets (r.begin request.root).2 (request :: pending) (.begun request :: history) where
  counters := Table.nodup_keys_put h.counters _ _
  marks root := by
    have hmark := h.marks root
    rw [Registry.removalMark_begin, Registry.lastTicket_begin]
    split
    · next he => subst he; omega
    · exact hmark
  pending_begun other hother := by
    rcases List.mem_cons.mp hother with rfl | hmem
    · exact List.mem_cons_self
    · exact List.mem_cons_of_mem _ (h.pending_begun other hmem)
  finished_begun other hother :=
    List.mem_cons_of_mem _ (h.finished_begun other (by simpa using hother))
  wellFormed other hother := by
    rcases List.mem_cons.mp hother with he | hmem
    · cases he; exact hwell
    · exact h.wellFormed other hmem
  le_last other hother := by
    rw [Registry.lastTicket_begin]
    rcases List.mem_cons.mp hother with he | hmem
    · cases he
      rw [if_pos rfl]
      exact Nat.le_of_eq hticket
    · have hle := h.le_last other hmem
      split
      · next he => rw [he] at hle; omega
      · exact hle
  distinct one other hone hother hroot hsame := by
    rcases List.mem_cons.mp hone with he | hone
    · rcases List.mem_cons.mp hother with he' | hother
      · cases he; cases he'; rfl
      · cases he
        have := h.begun_lt hticket hother hroot.symm
        omega
    · rcases List.mem_cons.mp hother with he' | hother
      · cases he'
        have := h.begun_lt hticket hone hroot
        omega
      · exact h.distinct one other hone hother hroot hsame
  live other hother := by
    rw [live_begun, Registry.removalMark_begin]
    have hmark := h.marks request.root
    rcases List.mem_cons.mp hother with he | hmem
    · cases he
      exact iff_of_true (.inl rfl) (by omega)
    · rw [← h.live other hmem]
      refine ⟨?_, .inr⟩
      rintro (rfl | hlive)
      · exact absurd (h.begun_lt hticket hmem rfl) (Nat.lt_irrefl _)
      · exact hlive

theorem finished (h : Tickets r pending history) {index : Nat} {request : Request}
    (hpending : pending[index]? = some request) {r' : Registry} (htickets : r'.tickets = r.tickets)
    (hremoved : r'.removed = r.removed) :
    Tickets r' (pending.eraseIdx index) (.finished request :: history) := by
  have hlast : ∀ root, r'.lastTicket root = r.lastTicket root := by
    simp only [Registry.lastTicket, htickets, implies_true]
  have hmark : ∀ root, r'.removalMark root = r.removalMark root := by
    simp only [Registry.removalMark, hremoved, implies_true]
  refine ⟨?_, ?_, ?_, ?_, ?_, ?_, ?_, ?_⟩
  · rw [Registry.OneCounterEach, htickets]
    exact h.counters
  · intro root
    rw [hmark, hlast]
    exact h.marks root
  · intro other hother
    exact List.mem_cons_of_mem _ (h.pending_begun other (List.mem_of_mem_eraseIdx hother))
  · intro other hother
    rcases List.mem_cons.mp hother with he | hmem
    · cases he
      exact List.mem_cons_of_mem _ (h.pending_begun request (List.mem_of_getElem? hpending))
    · exact List.mem_cons_of_mem _ (h.finished_begun other hmem)
  · intro other hother
    exact h.wellFormed other (by simpa using hother)
  · intro other hother
    rw [hlast]
    exact h.le_last other (by simpa using hother)
  · intro one other hone hother
    exact h.distinct one other (by simpa using hone) (by simpa using hother)
  · intro other hother
    rw [live_finished, hmark]
    exact h.live other (by simpa using hother)

theorem removed (h : Tickets r pending history) (root : Path) :
    Tickets (r.remove root) pending (.removed root :: history) where
  counters := h.counters
  marks other := by
    rw [Registry.removalMark_remove, Registry.lastTicket_remove]
    split
    · next he => exact he ▸ Nat.le_refl _
    · exact h.marks other
  pending_begun other hother := List.mem_cons_of_mem _ (h.pending_begun other hother)
  finished_begun other hother :=
    List.mem_cons_of_mem _ (h.finished_begun other (by simpa using hother))
  wellFormed other hother := h.wellFormed other (by simpa using hother)
  le_last other hother := h.le_last other (by simpa using hother)
  distinct one other hone hother :=
    h.distinct one other (by simpa using hone) (by simpa using hother)
  live other hother := by
    have hmem : .begun other ∈ history := by simpa using hother
    rw [live_removed, Registry.removalMark_remove, h.live other hmem]
    have hle := h.le_last other hmem
    by_cases he : other.root = root
    · subst he
      rw [if_pos rfl]
      exact iff_of_false (fun hlive => hlive.1 rfl) (by omega)
    · rw [if_neg he]
      exact and_iff_right (Ne.symm he)

/-- Clearing voids all tickets. -/
theorem removalMark_clear (h : Tickets r pending history) (root : Path) :
    r.clear.removalMark root = r.lastTicket root := by
  rw [Registry.removalMark_clear r root h.counters]
  have hle := h.marks root
  split
  · rfl
  · next hnone =>
    have hlast : r.lastTicket root = 0 := by
      rw [Registry.lastTicket, Option.not_isSome_iff_eq_none.mp hnone, Option.getD_none]
    omega

theorem cleared (h : Tickets r pending history) : Tickets r.clear pending (.cleared :: history) := by
  have hmark := h.removalMark_clear
  refine ⟨h.counters, ?_, ?_, ?_, ?_, ?_, ?_, ?_⟩
  · intro root
    exact Nat.le_of_eq (hmark root)
  · intro other hother
    exact List.mem_cons_of_mem _ (h.pending_begun other hother)
  · intro other hother
    exact List.mem_cons_of_mem _ (h.finished_begun other (by simpa using hother))
  · intro other hother
    exact h.wellFormed other (by simpa using hother)
  · intro other hother
    exact h.le_last other (by simpa using hother)
  · intro one other hone hother
    exact h.distinct one other (by simpa using hone) (by simpa using hother)
  · intro other hother
    rw [hmark]
    exact iff_of_false not_live_cleared (Nat.not_lt.mpr (h.le_last other (by simpa using hother)))

end Tickets

/-! ## 3. The published profile -/

/-- The profile and the settings of a project are those of the latest request.  If there is no such
request, there is no profile, and the settings are the default ones. -/
def ShowsLatest (defaults : Config) (r : Registry) (history : List Happening) (root : Path) : Prop :=
  (∃ request profile record, Latest history root request profile ∧
    r.get? root = some { profile := profile, record := record, ticket := request.ticket } ∧
    r.configFor root = request.config) ∨
  ((∀ request profile, ¬ Contends history root request profile) ∧
    r.get? root = none ∧ r.configFor root = defaults)

namespace ShowsLatest

variable {defaults : Config} {r r' : Registry} {history history' : List Happening} {root : Path}

/-- Nothing changes for a project whose contending requests and whose entries stay as they are. -/
theorem congr (h : ShowsLatest defaults r history root)
    (hcontends : ∀ request profile,
      Contends history' root request profile ↔ Contends history root request profile)
    (hget : r'.get? root = r.get? root) (hconfig : r'.configFor root = r.configFor root) :
    ShowsLatest defaults r' history' root := by
  rcases h with ⟨request, profile, record, hlatest, hheld, hsettings⟩ | ⟨hnone, hheld, hsettings⟩
  · refine .inl ⟨request, profile, record, ⟨?_, ?_⟩, hget.trans hheld, hconfig.trans hsettings⟩
    · exact (hcontends request profile).mpr hlatest.toContends
    · exact fun other p hother => hlatest.highest other p ((hcontends other p).mp hother)
  · refine .inr ⟨fun request profile hother => ?_, hget.trans hheld, hconfig.trans hsettings⟩
    exact hnone request profile ((hcontends request profile).mp hother)

/-- No contending request has a higher ticket than the published profile. -/
theorem ticket_le (h : ShowsLatest defaults r history root) {other : Request} {p : Profile}
    (hother : Contends history root other p) :
    ∃ current, r.get? root = some current ∧ other.ticket ≤ current.ticket := by
  rcases h with ⟨request, profile, record, hlatest, hheld, -⟩ | ⟨hnone, -, -⟩
  · refine ⟨_, hheld, ?_⟩
    by_cases he : other = request
    · exact he ▸ Nat.le_refl _
    · exact Nat.le_of_lt (hlatest.highest other p hother he)
  · exact absurd hother (hnone other p)

/-- A later request has published before this one, which makes no difference then. -/
theorem superseded (h : ShowsLatest defaults r history root) {request : Request} {current : Held}
    (hcurrent : r.get? root = some current) (hlt : request.ticket < current.ticket) :
    ShowsLatest defaults r (.finished request :: history) root := by
  rcases h with ⟨latest, profile, record, hlatest, hheld, hsettings⟩ | ⟨-, hheld, -⟩
  · have hticket : current.ticket = latest.ticket := by
      rw [hcurrent] at hheld
      rw [Option.some.inj hheld]
    refine .inl ⟨latest, profile, record, ⟨?_, ?_⟩, hheld, hsettings⟩
    · exact contends_finished.mpr (.inl hlatest.toContends)
    · intro other p hother hne
      rcases contends_finished.mp hother with hbefore | ⟨rfl, -⟩
      · exact hlatest.highest other p hbefore hne
      · omega
  · rw [hcurrent] at hheld
    cases hheld

/-- A request is published that no published one has overtaken. -/
theorem published {pending : List Request} (htickets : Tickets r pending history)
    (h : ShowsLatest defaults r history root) {request : Request} {profile : Profile} {held : Held}
    (hpending : request ∈ pending) (hroot : request.root = root)
    (houtcome : request.outcome = .ok profile) (hlive : request.Live history)
    (hnewest : ∀ current, r.get? root = some current → current.ticket ≤ request.ticket)
    (hprofile : held.profile = profile) (hticket : held.ticket = request.ticket) :
    ShowsLatest defaults (r.apply root request.config (.published held))
      (.finished request :: history) root := by
  refine .inl ⟨request, profile, held.record, ⟨?_, ?_⟩, ?_, ?_⟩
  · exact contends_finished.mpr (.inr ⟨rfl, hroot, houtcome, hlive⟩)
  · intro other p hother hne
    rcases contends_finished.mp hother with hbefore | ⟨rfl, -⟩
    · obtain ⟨current, hcurrent, hle⟩ := h.ticket_le hbefore
      have hnew := hnewest current hcurrent
      have hdistinct : other.ticket ≠ request.ticket := fun he =>
        hne (htickets.distinct other request (htickets.finished_begun other hbefore.finished)
          (htickets.pending_begun request hpending) (hbefore.about.trans hroot.symm) he)
      omega
    · exact absurd rfl hne
  · rw [Registry.get?_apply_published, if_pos rfl, ← hprofile, ← hticket]
  · rw [Registry.configFor, Registry.configs_apply_published, if_pos rfl, Option.getD_some]

end ShowsLatest

/-! ## 4. All runs -/

/-- The invariant of runs. -/
structure Tracked (defaults : Config) (r : Registry) (pending : List Request)
    (history : List Happening) : Prop where
  tickets : Tickets r pending history
  default : r.defaultConfig = defaults
  shows : ∀ root, ShowsLatest defaults r history root

namespace Tracked

variable {defaults : Config} {r : Registry} {pending : List Request} {history : List Happening}

theorem start (defaults : Config) : Tracked defaults { defaultConfig := defaults } [] [] where
  tickets := Tickets.start defaults
  default := rfl
  shows _ := .inr ⟨fun _ _ h => absurd h.finished List.not_mem_nil, rfl, rfl⟩

theorem begun (h : Tracked defaults r pending history) {request : Request}
    (hwell : request.WellFormed) (hticket : request.ticket = r.lastTicket request.root + 1) :
    Tracked defaults (r.begin request.root).2 (request :: pending) (.begun request :: history) where
  tickets := h.tickets.begun hwell hticket
  default := h.default
  shows root := by
    refine (h.shows root).congr (fun other p => ⟨?_, ?_⟩) rfl rfl
    · rintro ⟨hfinished, hroot, houtcome, hlive⟩
      have hmem : .finished other ∈ history := by simpa using hfinished
      refine ⟨hmem, hroot, houtcome, ?_⟩
      rcases live_begun.mp hlive with rfl | hlive
      · exact absurd (h.tickets.begun_lt hticket (h.tickets.finished_begun _ hmem) rfl)
          (Nat.lt_irrefl _)
      · exact hlive
    · rintro ⟨hfinished, hroot, houtcome, hlive⟩
      exact ⟨List.mem_cons_of_mem _ hfinished, hroot, houtcome, live_begun.mpr (.inr hlive)⟩

/-- A request that is finished without a place among the contending ones changes nothing. -/
theorem finished_aside (h : Tracked defaults r pending history) {index : Nat} {request : Request}
    (hpending : pending[index]? = some request)
    (haside : ∀ profile, request.outcome = .ok profile → ¬ request.Live history) :
    Tracked defaults r (pending.eraseIdx index) (.finished request :: history) where
  tickets := h.tickets.finished hpending rfl rfl
  default := h.default
  shows root := by
    refine (h.shows root).congr (fun other p => ?_) rfl rfl
    rw [contends_finished, or_iff_left]
    rintro ⟨-, -, houtcome, hlive⟩
    exact haside p houtcome hlive

theorem finished (h : Tracked defaults r pending history) {index : Nat} {request : Request}
    {profile : Profile} (record : Export.RecordId) (hpending : pending[index]? = some request)
    (houtcome : request.outcome = .ok profile) :
    Tracked defaults
      (r.apply request.root request.config (r.ending request.root request.ticket profile record))
      (pending.eraseIdx index) (.finished request :: history) := by
  have hmem := List.mem_of_getElem? hpending
  have hlive := h.tickets.live request (h.tickets.pending_begun request hmem)
  rcases r.ending_cases request.root request.ticket profile record with
    ⟨hmark, he⟩ | ⟨hmark, current, hcurrent, hlt, he⟩ | ⟨hmark, hnewest, he⟩
  · rw [he]
    exact h.finished_aside hpending fun _ _ hl => absurd (hlive.mp hl) (Nat.not_lt.mpr hmark)
  · rw [he]
    refine ⟨h.tickets.finished hpending rfl rfl, h.default, fun root => ?_⟩
    by_cases hroot : root = request.root
    · subst hroot
      exact (h.shows request.root).superseded hcurrent hlt
    · refine (h.shows root).congr (fun other p => ?_) rfl rfl
      rw [contends_finished, or_iff_left]
      rintro ⟨rfl, hsame, -⟩
      exact hroot hsame.symm
  · rw [he]
    refine ⟨h.tickets.finished hpending rfl rfl, h.default, fun root => ?_⟩
    by_cases hroot : root = request.root
    · subst hroot
      exact (h.shows request.root).published h.tickets hmem rfl houtcome (hlive.mpr hmark) hnewest
        rfl rfl
    · refine (h.shows root).congr (fun other p => ?_) ?_ ?_
      · rw [contends_finished, or_iff_left]
        rintro ⟨rfl, hsame, -⟩
        exact hroot hsame.symm
      · rw [Registry.get?_apply_published, if_neg hroot]
      · rw [Registry.configFor, Registry.configs_apply_published, if_neg hroot]
        rfl

theorem removed (h : Tracked defaults r pending history) (root : Path) :
    Tracked defaults (r.remove root) pending (.removed root :: history) where
  tickets := h.tickets.removed root
  default := h.default
  shows other := by
    by_cases he : other = root
    · subst he
      refine .inr ⟨fun request p hother => (contends_removed.mp hother).1 rfl, ?_, ?_⟩
      · rw [Registry.get?_remove, if_pos rfl]
      · rw [Registry.configFor, Registry.configs_remove, if_pos rfl]
        exact h.default
    · refine (h.shows other).congr (fun request p => ?_) ?_ ?_
      · rw [contends_removed, and_iff_right (Ne.symm he)]
      · rw [Registry.get?_remove, if_neg he]
      · rw [Registry.configFor, Registry.configs_remove, if_neg he]
        rfl

theorem cleared (h : Tracked defaults r pending history) :
    Tracked defaults r.clear pending (.cleared :: history) where
  tickets := h.tickets.cleared
  default := h.default
  shows _ := .inr ⟨fun _ _ => not_contends_cleared, rfl, h.default⟩

end Tracked

/-- The invariant at a situation. -/
def Situation.Tracked (defaults : Config) (s : Situation) : Prop :=
  SkipPath.Tracked defaults s.workspace.registry s.pending s.history

theorem Situation.Tracked.step {defaults : Config} {s s' : Situation} (h : s.Tracked defaults)
    (hstep : s.Step s') : s'.Tracked defaults := by
  unfold Situation.Tracked at h ⊢
  cases hstep with
  | quiet hw =>
    rw [hw.registry]
    exact h
  | begun hw =>
    obtain ⟨hwell, hticket, rs, rfl⟩ := hw
    exact h.begun hwell hticket
  | @finished index request hpending =>
    simp only [Work.finish_registry]
    cases houtcome : request.outcome with
    | error fault =>
      exact h.finished_aside hpending fun profile hprofile => by rw [houtcome] at hprofile; cases hprofile
    | ok profile => exact h.finished _ hpending houtcome
  | exported hheld =>
    have hregistry := Work.view_exportProfile (·.registry) (fun _ _ _ _ => rfl)
    simp only [hregistry]
    exact h
  | removed =>
    rw [Workspace.reported_registry]
    exact h.removed _
  | cleared => exact h.cleared

/-- What comes from outside leaves the registry alone. -/
def Workspace.Aside (w w' : Workspace) : Prop := w'.registry = w.registry

/-- The invariant holds in every situation of a run that starts with an empty registry. -/
theorem Run.tracked {defaults : Config} {start : Workspace}
    (hstart : start.registry = { defaultConfig := defaults }) {s : Situation}
    (h : Run Workspace.Aside start s) : s.Tracked defaults := by
  induction h with
  | start =>
    unfold Situation.Tracked
    rw [hstart]
    exact SkipPath.Tracked.start defaults
  | operation operation _ ih => exact ih.step (Situation.step_after _ operation)
  | world _ hw ih =>
    unfold Situation.Tracked at ih ⊢
    rw [hw]
    exact ih

/-! ## 5. What finishing gives back -/

/-- What finishing a request gives back: its own profile if its project was removed after it began; its
own profile, which is published now, if no later request contends; else the profile that a later request has
published. -/
def GivesBack (s : Situation) (request : Request) (held : Held) (w : Workspace) : Prop :=
  (¬ request.Live s.history ∧ request.outcome = .ok held.profile ∧
    w.registry = s.workspace.registry) ∨
  (request.Live s.history ∧
    (∀ other p, Contends s.history request.root other p → other.ticket ≤ request.ticket) ∧
    request.outcome = .ok held.profile ∧ w.registry.get? request.root = some held) ∨
  (request.Live s.history ∧ request.ticket < held.ticket ∧
    s.workspace.registry.get? request.root = some held ∧ w.registry = s.workspace.registry)

theorem Situation.Tracked.gives_back {defaults : Config} {s : Situation} (h : s.Tracked defaults)
    {request : Request} (hpending : request ∈ s.pending) {held : Held} {w : Workspace}
    (hfinish : (Work.finish request).on s.workspace = (.ok held, w)) : GivesBack s request held w := by
  obtain ⟨profile, houtcome, hresult⟩ := Work.finish_result hfinish
  have hregistry := Work.finish_registry request s.workspace
  rw [hfinish, houtcome] at hregistry
  have hlive := h.tickets.live request (h.tickets.pending_begun request hpending)
  have hcases := s.workspace.registry.ending_cases request.root request.ticket profile
    s.workspace.ledger.fresh.1
  simp only [Workspace.endingOf] at hresult hregistry
  rcases hcases with ⟨hmark, he⟩ | ⟨hmark, current, hcurrent, hlt, he⟩ | ⟨hmark, hnewest, he⟩
  · rw [he] at hresult hregistry
    refine .inl ⟨fun hl => absurd (hlive.mp hl) (Nat.not_lt.mpr hmark), ?_, hregistry⟩
    rw [houtcome, hresult.1]
  · rw [he] at hresult hregistry
    cases hresult
    exact .inr (.inr ⟨hlive.mpr hmark, hlt, hcurrent, hregistry⟩)
  · rw [he] at hresult hregistry
    cases hresult
    refine .inr (.inl ⟨hlive.mpr hmark, fun other p hother => ?_, houtcome, ?_⟩)
    · obtain ⟨current, hcurrent, hle⟩ := (h.shows request.root).ticket_le hother
      exact Nat.le_trans hle (hnewest current hcurrent)
    · rw [hregistry, Registry.get?_apply_published, if_pos rfl]

/-- **The last request wins.**  In every situation of every run, what is published of a project and its
settings are those of the latest request, and every request that can still be finished gives back its own
profile or the later one that is published. -/
theorem last_request_wins {defaults : Config} {start : Workspace}
    (hstart : start.registry = { defaultConfig := defaults }) {s : Situation}
    (hrun : Run Workspace.Aside start s) (root : Path) :
    ShowsLatest defaults s.workspace.registry s.history root ∧
      ∀ request ∈ s.pending, ∀ held w,
        (Work.finish request).on s.workspace = (.ok held, w) → GivesBack s request held w :=
  have htracked := hrun.tracked hstart
  ⟨htracked.shows root, fun _ hpending _ _ hfinish => htracked.gives_back hpending hfinish⟩

/-- A workspace with nothing in it and a folder for scripts. -/
def Workspace.bare (scripts : Path) : Workspace :=
  { files := { here := { anchor := .root, names := [] } }, scripts := scripts }

/-- Two requests for one project that are finished in the wrong order, and a removal while a third one is
pending. -/
theorem last_request_wins_out_of_order :
    let project := Path.ofString "/w/p"
    let compile (text : String) := Operation.begin (.compile project (some (Text.ofString text)) none none)
    let s := Situation.afterAll { workspace := Workspace.bare (Path.ofString "/scripts") }
      [compile "*.o", compile "*.a", .finish 0, .finish 0, compile "*.so", .remove project]
    ShowsLatest .standard s.workspace.registry s.history project ∧
      ∀ request ∈ s.pending, ∀ held w,
        (Work.finish request).on s.workspace = (.ok held, w) → GivesBack s request held w :=
  last_request_wins rfl (Run.afterAll .start _) (Path.ofString "/w/p")

/-- Settings by which every pattern goes to a script. -/
def Config.exporting : Config :=
  { Config.standard with exportThreshold := 1, exportThreshold_pos := Int.one_pos }

/-- A text with a surrogate that stands alone. -/
def Text.unencodable : Text := [.char 'b', .ofNat 0xDC80]

/-- A request whose script cannot be encoded. -/
def Request.unencodable : Request :=
  { root := Path.ofString "/w/p", config := .exporting, ticket := 1
    making := .compiling
      { text := some Text.unencodable, config := .exporting, root := Path.ofString "/w/p" } }

/-- An export that ends in a fault does not take the profile back: here the only request there is ends in
a fault, and still its profile is published. -/
theorem published_by_failing_request :
    ∃ request w w' refusal held,
      (Work.beginText (Path.ofString "/w/p") (some Text.unencodable) (some .exporting) none).on
        (Workspace.bare (Path.ofString "/scripts")) = (.ok request, w) ∧
      (Work.finish request).on w = (.error (.encoding refusal), w') ∧
      w'.registry.get? request.root = some held := by
  let begun : Workspace :=
    { Workspace.bare (Path.ofString "/scripts") with
      registry := (({} : Registry).begin (Path.ofString "/w/p")).2 }
  have hfault : ((Work.finish Request.unencodable).on begun).1 =
      .error (.encoding { number := 0xDC80, first := 33, last := 33 }) := by
    decide +kernel
  have hpublished : (((Work.finish Request.unencodable).on begun).2.registry.get?
      Request.unencodable.root).isSome = true := by
    decide +kernel
  obtain ⟨held, hheld⟩ := Option.isSome_iff_exists.mp hpublished
  exact ⟨Request.unencodable, begun, _, _, held, rfl, Prod.ext hfault rfl, hheld⟩

end SkipPath
