import SkipPath.Proofs.Workspace.Load
import Mathlib.Logic.Relation

/-!
The tables of the registry fit each other.

The registry keeps five tables by project, and each operation changes some of them.  What every operation
keeps is `Registry.Consistent`: the same projects have a published profile and settings, a published profile
is for its project and those settings, and its ticket lies between the removal mark and the last ticket.

Over a whole run the counters of tickets never go back, and what is published of a project has a higher
ticket than what was published of it before, also if the project was removed in between.  That is because
each request is finished once (`Situation.FinishedOnce`) and because a ticket that was published stays below
the current one or below the removal mark (`Registry.Surpassed`).
-/

namespace SkipPath

/-! ## 1. Keys -/

namespace Table

variable {α β γ : Type} [DecidableEq α]

theorem map_fst_putRows (key : α) (value : β) (rows : List (α × β)) :
    (putRows key value rows).map (·.1) =
      if key ∈ rows.map (·.1) then rows.map (·.1) else rows.map (·.1) ++ [key] := by
  induction rows with
  | nil => rfl
  | cons row rows ih =>
    obtain ⟨k, v⟩ := row
    unfold putRows
    by_cases hk : k = key
    · subst hk
      rw [if_pos rfl, if_pos (by simp)]
      rfl
    · have hmem : key ∈ k :: rows.map (·.1) ↔ key ∈ rows.map (·.1) := by
        rw [List.mem_cons, or_iff_right (Ne.symm hk)]
      simp only [if_neg hk, List.map_cons, ih, hmem]
      split <;> rfl

/-- A new key goes to the end. -/
theorem keys_put (t : Table α β) (key : α) (value : β) :
    (t.put key value).keys = if key ∈ t.keys then t.keys else t.keys ++ [key] :=
  map_fst_putRows key value t.rows

theorem keys_erase (t : Table α β) (key : α) : (t.erase key).keys = t.keys.filter (· ≠ key) := by
  rw [keys, keys, List.filter_map]
  rfl

theorem mem_keys_of_get? {t : Table α β} {key : α} {value : β} (h : t.get? key = some value) :
    key ∈ t.keys := by
  by_contra hmem
  rw [get?, find?_eq_none hmem] at h
  cases h

theorem exists_get?_of_mem_keys {t : Table α β} {key : α} (h : key ∈ t.keys) :
    ∃ value, t.get? key = some value := by
  obtain ⟨rows⟩ := t
  induction rows with
  | nil => cases h
  | cons row rows ih =>
    obtain ⟨k, v⟩ := row
    rw [get?, find?]
    by_cases hk : k = key
    · exact ⟨v, if_pos hk⟩
    · rw [if_neg hk]
      exact ih ((List.mem_cons.mp h).resolve_left (Ne.symm hk))

end Table

/-! ## 2. What a step does to the registry -/

namespace Registry

variable {r r' : Registry}

/-- What a step of a situation can do to the registry. -/
inductive Step (r : Registry) : Registry → Prop where
  | same : Step r r
  | begun (root : Path) : Step r (r.begin root).2
  | ended (root : Path) (config : Config) (ticket : Nat) (profile : Profile)
    (record : Export.RecordId) :
    Step r (r.apply root config (r.ending root ticket profile record))
  | removed (root : Path) : Step r (r.remove root)
  | cleared : Step r r.clear

theorem Step.lastTicket_le (h : r.Step r') (root : Path) : r.lastTicket root ≤ r'.lastTicket root := by
  cases h with
  | same => exact Nat.le_refl _
  | begun other =>
    rw [lastTicket_begin]
    split
    · next he => exact he ▸ Nat.le_succ _
    · exact Nat.le_refl _
  | ended other config ticket profile record => exact Nat.le_of_eq (lastTicket_apply ..).symm
  | removed other => exact Nat.le_refl _
  | cleared => exact Nat.le_refl _

/-- The same projects have a published profile and settings, in the same order. -/
theorem Step.keys (h : r.Step r') (hkeys : r.entries.keys = r.configs.keys) :
    r'.entries.keys = r'.configs.keys := by
  cases h with
  | same => exact hkeys
  | begun root => exact hkeys
  | ended root config ticket profile record =>
    cases r.ending root ticket profile record with
    | published held =>
      show (r.entries.put root held).keys = (r.configs.put root config).keys
      rw [Table.keys_put, Table.keys_put, hkeys]
    | superseded current => exact hkeys
    | discarded => exact hkeys
  | removed root =>
    show (r.entries.erase root).keys = (r.configs.erase root).keys
    rw [Table.keys_erase, Table.keys_erase, hkeys]
  | cleared => rfl

end Registry

theorem Situation.Step.registry {s s' : Situation} (h : s.Step s') :
    s.workspace.registry.Step s'.workspace.registry := by
  cases h with
  | quiet hw =>
    rw [hw.registry]
    exact .same
  | @begun request w hw =>
    obtain ⟨-, -, rs, rfl⟩ := hw
    exact .begun request.root
  | @finished index request hpending =>
    rw [Work.finish_registry]
    cases request.outcome with
    | error fault => exact .same
    | ok profile => exact .ended _ _ _ _ _
  | exported hheld =>
    rw [Work.view_exportProfile (·.registry) fun _ _ _ _ => rfl]
    exact .same
  | removed =>
    rw [Workspace.reported_registry]
    exact .removed _
  | cleared => exact .cleared

/-! ## 3. Consistency -/

/-- The tables of a registry fit each other. -/
structure Registry.Consistent (r : Registry) : Prop where
  /-- The same projects have a published profile and settings. -/
  keys : r.entries.keys = r.configs.keys
  /-- A published profile is for its project and for the settings that are kept. -/
  about : ∀ root held, r.get? root = some held →
    held.profile.root = root ∧ r.configs.get? root = some held.profile.config
  marks : ∀ root, r.removalMark root ≤ r.lastTicket root
  /-- The ticket of a published profile is above the removal mark and not above the last ticket. -/
  live : ∀ root held, r.get? root = some held →
    r.removalMark root < held.ticket ∧ held.ticket ≤ r.lastTicket root

/-- What is published of a project is the profile of a request that was finished, with its settings. -/
theorem Situation.Tracked.published_by {defaults : Config} {s : Situation} (h : s.Tracked defaults)
    {root : Path} {held : Held} (hheld : s.workspace.registry.get? root = some held) :
    ∃ request, Contends s.history root request held.profile ∧ held.ticket = request.ticket ∧
      s.workspace.registry.configFor root = request.config := by
  rcases h.shows root with ⟨request, profile, record, hlatest, hget, hsettings⟩ | ⟨-, hget, -⟩
  · rw [hheld] at hget
    cases hget
    exact ⟨request, hlatest.toContends, rfl, hsettings⟩
  · rw [hheld] at hget
    cases hget

/-- The invariant of runs says all about a registry but that its tables have the same keys. -/
theorem Situation.Tracked.consistent {defaults : Config} {s : Situation} (h : s.Tracked defaults)
    (hkeys : s.workspace.registry.entries.keys = s.workspace.registry.configs.keys) :
    s.workspace.registry.Consistent where
  keys := hkeys
  about root held hheld := by
    obtain ⟨request, hcontends, -, hsettings⟩ := h.published_by hheld
    have hwell := h.tickets.wellFormed request
      (h.tickets.finished_begun request hcontends.finished)
    obtain ⟨hroot, hconfig⟩ := hwell.of_outcome hcontends.outcome
    have hmem := Table.mem_keys_of_get? hheld
    rw [hkeys] at hmem
    obtain ⟨config, hget⟩ := Table.exists_get?_of_mem_keys hmem
    rw [Registry.configFor, hget, Option.getD_some] at hsettings
    exact ⟨hroot.trans hcontends.about, by rw [hget, hsettings, hconfig]⟩
  marks := h.tickets.marks
  live root held hheld := by
    obtain ⟨request, hcontends, hticket, -⟩ := h.published_by hheld
    have hbegun := h.tickets.finished_begun request hcontends.finished
    have hlive := (h.tickets.live request hbegun).mp hcontends.live
    rw [hcontends.about, ← hticket] at hlive
    exact ⟨hlive, h.ordered.entries root held hheld⟩

/-! ## 4. Each request is finished once -/

/-- No request is pending twice, and none that was finished is pending. -/
structure Situation.FinishedOnce (s : Situation) : Prop where
  nodup : s.pending.Nodup
  unfinished : ∀ request ∈ s.pending, .finished request ∉ s.history

/-- A request that was taken from its place is gone. -/
theorem not_mem_eraseIdx {α : Type} {l : List α} (hnodup : l.Nodup) {index : Nat} {a : α}
    (ha : l[index]? = some a) : a ∉ l.eraseIdx index := by
  intro hmem
  obtain ⟨i, hne, hi⟩ := List.mem_eraseIdx_iff_getElem?.mp hmem
  obtain ⟨hlt, -⟩ := List.getElem?_eq_some_iff.mp hi
  exact hne ((List.getElem?_inj hlt hnodup).mp (hi.trans ha.symm))

theorem Situation.FinishedOnce.step {defaults : Config} {s s' : Situation} (h : s.FinishedOnce)
    (htracked : s.Tracked defaults) (hstep : s.Step s') : s'.FinishedOnce := by
  have htickets : Tickets _ s.pending s.history := htracked.tickets
  cases hstep with
  | quiet _ => exact ⟨h.nodup, h.unfinished⟩
  | @begun request w hw =>
    have hnew : .begun request ∉ s.history := fun hbegun =>
      Nat.lt_irrefl _ (htickets.begun_lt hw.ticket hbegun rfl)
    constructor
    · exact List.nodup_cons.mpr ⟨fun hmem => hnew (htickets.pending_begun request hmem), h.nodup⟩
    · intro other hother hfinished
      have hbefore : .finished other ∈ s.history := by simpa using hfinished
      rcases List.mem_cons.mp hother with rfl | hmem
      · exact hnew (htickets.finished_begun other hbefore)
      · exact h.unfinished other hmem hbefore
  | @finished index request hpending =>
    constructor
    · exact h.nodup.sublist (List.eraseIdx_sublist ..)
    · intro other hother hfinished
      rcases List.mem_cons.mp hfinished with he | hbefore
      · cases he
        exact not_mem_eraseIdx h.nodup hpending hother
      · exact h.unfinished other (List.mem_of_mem_eraseIdx hother) hbefore
  | exported _ => exact ⟨h.nodup, h.unfinished⟩
  | removed => exact ⟨h.nodup, fun other hother => by simpa using h.unfinished other hother⟩
  | cleared => exact ⟨h.nodup, fun other hother => by simpa using h.unfinished other hother⟩

/-! ## 5. Publications -/

/-- What every situation of a run has. -/
structure Situation.Sound (defaults : Config) (s : Situation) : Prop where
  tracked : s.Tracked defaults
  keys : s.workspace.registry.entries.keys = s.workspace.registry.configs.keys
  once : s.FinishedOnce

/-- One thing that happens in a run. -/
inductive Situation.Move (World : Workspace → Workspace → Prop) (s : Situation) : Situation → Prop where
  | operation (operation : Operation) : Move World s (s.after operation)
  | world {w : Workspace} (h : World s.workspace w) : Move World s { s with workspace := w }

/-- One situation of a run comes after another one. -/
def Situation.Leads (World : Workspace → Workspace → Prop) : Situation → Situation → Prop :=
  Relation.ReflTransGen (Situation.Move World)

namespace Situation

variable {defaults : Config} {s s' : Situation}

theorem Sound.start {start : Workspace} (hstart : start.registry = { defaultConfig := defaults }) :
    Sound defaults { workspace := start } where
  tracked := by
    unfold Situation.Tracked
    rw [hstart]
    exact SkipPath.Tracked.start defaults
  keys := by
    rw [hstart]
    rfl
  once := ⟨List.nodup_nil, fun _ h => absurd h List.not_mem_nil⟩

theorem Sound.step (h : s.Sound defaults) (hstep : s.Step s') : s'.Sound defaults where
  tracked := h.tracked.step hstep
  keys := hstep.registry.keys h.keys
  once := h.once.step h.tracked hstep

theorem Sound.move (h : s.Sound defaults) (hmove : s.Move Workspace.Aside s') : s'.Sound defaults := by
  cases hmove with
  | operation operation => exact h.step (step_after s operation)
  | world hw =>
    obtain ⟨htracked, hkeys, honce⟩ := h
    have hregistry : _ = s.workspace.registry := hw
    refine ⟨?_, ?_, ⟨honce.nodup, honce.unfinished⟩⟩
    · unfold Situation.Tracked at htracked ⊢
      rw [hregistry]
      exact htracked
    · rw [hregistry]
      exact hkeys

/-- What happens in a run makes a step of the registry. -/
theorem Move.registry (hmove : s.Move Workspace.Aside s') :
    s.workspace.registry.Step s'.workspace.registry := by
  cases hmove with
  | operation operation => exact (step_after s operation).registry
  | world hw =>
    have hregistry : _ = s.workspace.registry := hw
    rw [hregistry]
    exact .same

end Situation

namespace Registry

variable {r r' : Registry} {root : Path} {ticket : Nat}

/-- A ticket of a project is not above that of the published profile, or it is void. -/
def Surpassed (r : Registry) (root : Path) (ticket : Nat) : Prop :=
  ticket ≤ r.removalMark root ∨ ∃ current, r.get? root = some current ∧ ticket ≤ current.ticket

/-- A ticket that is surpassed stays so: what is published later is not below what was published, and the
tickets of what is removed are void. -/
theorem Surpassed.step (h : r.Surpassed root ticket) (hordered : r.Ordered)
    (hclear : r.clear.removalMark root = r.lastTicket root) (hstep : r.Step r') :
    r'.Surpassed root ticket := by
  have hle : ticket ≤ r.lastTicket root := by
    rcases h with hmark | ⟨current, hcurrent, hle⟩
    · exact Nat.le_trans hmark (hordered.marks root)
    · exact Nat.le_trans hle (hordered.entries root current hcurrent)
  cases hstep with
  | same => exact h
  | begun other => exact h
  | ended other config new profile record =>
    rcases r.ending_cases other new profile record with
      ⟨-, he⟩ | ⟨-, current, -, -, he⟩ | ⟨hmark, hnewest, he⟩
    · rw [he]
      exact h
    · rw [he]
      exact h
    · rw [he]
      by_cases hroot : root = other
      · subst hroot
        refine .inr ⟨_, by rw [get?_apply_published, if_pos rfl], ?_⟩
        rcases h with hvoid | ⟨current, hcurrent, hle⟩
        · exact Nat.le_of_lt (Nat.lt_of_le_of_lt hvoid hmark)
        · exact Nat.le_trans hle (hnewest current hcurrent)
      · rw [Surpassed, removalMark_apply, get?_apply_published, if_neg hroot]
        exact h
  | removed other =>
    rw [Surpassed, removalMark_remove, get?_remove]
    by_cases hroot : root = other
    · subst hroot
      exact .inl (by rwa [if_pos rfl])
    · rw [if_neg hroot, if_neg hroot]
      exact h
  | cleared => exact .inl (hclear.symm ▸ hle)

end Registry

namespace Situation

variable {defaults : Config} {s s' : Situation} {root : Path} {held : Held} {index : Nat}

/-- What finishing the pending request at a place publishes, and of which project. -/
def publication? (s : Situation) (index : Nat) : Option (Path × Held) :=
  match s.pending[index]? with
  | none => none
  | some request =>
    match request.outcome with
    | .error _ => none
    | .ok profile =>
      match s.workspace.endingOf request profile with
      | .published held => some (request.root, held)
      | .superseded _ | .discarded => none

theorem publication?_eq_some :
    s.publication? index = some (root, held) ↔
      ∃ request profile, s.pending[index]? = some request ∧ request.root = root ∧
        request.outcome = .ok profile ∧ s.workspace.endingOf request profile = .published held := by
  unfold publication?
  constructor
  · intro h
    split at h
    · cases h
    · next request hpending =>
      split at h
      · cases h
      · next profile houtcome =>
        split at h
        · next hending =>
          cases h
          exact ⟨request, profile, hpending, rfl, houtcome, hending⟩
        · cases h
        · cases h
  · rintro ⟨request, profile, hpending, rfl, houtcome, hending⟩
    simp only [hpending, houtcome, hending]

/-- What is published is found under its project. -/
theorem get?_of_publication (h : s.publication? index = some (root, held)) :
    (s.after (.finish index)).workspace.registry.get? root = some held := by
  obtain ⟨request, profile, hpending, rfl, houtcome, hending⟩ := publication?_eq_some.mp h
  show (s.finishing index s.pending[index]?).workspace.registry.get? request.root = some held
  rw [hpending]
  show ((Work.finish request).on s.workspace).2.registry.get? request.root = some held
  simp only [Work.finish_registry, houtcome, hending, Registry.get?_apply_published, if_true]

/-- What is published has a ticket above all that are surpassed. -/
theorem Sound.lt_of_publication (hsound : s.Sound defaults)
    (h : s.publication? index = some (root, held)) {ticket : Nat}
    (hsurpassed : s.workspace.registry.Surpassed root ticket) : ticket < held.ticket := by
  obtain ⟨request, profile, hpending, rfl, houtcome, hending⟩ := publication?_eq_some.mp h
  have hmem := List.mem_of_getElem? hpending
  have htickets : Tickets _ s.pending s.history := hsound.tracked.tickets
  rcases s.workspace.registry.ending_cases request.root request.ticket profile
      s.workspace.ledger.fresh.1 with
    ⟨-, he⟩ | ⟨-, current, -, -, he⟩ | ⟨hmark, hnewest, he⟩
  · cases he.symm.trans hending
  · cases he.symm.trans hending
  · cases he.symm.trans hending
    rcases hsurpassed with hvoid | ⟨current, hcurrent, hle⟩
    · exact Nat.lt_of_le_of_lt hvoid hmark
    · -- the current profile is that of another request, which was finished
      obtain ⟨finished, hcontends, hticket, -⟩ := hsound.tracked.published_by hcurrent
      have hne : current.ticket ≠ request.ticket := fun he => by
        have hsame := htickets.distinct finished request
          (htickets.finished_begun finished hcontends.finished) (htickets.pending_begun request hmem)
          hcontends.about (hticket.symm.trans he)
        exact hsound.once.unfinished request hmem (hsame ▸ hcontends.finished)
      exact Nat.lt_of_le_of_lt hle (Nat.lt_of_le_of_ne (hnewest current hcurrent) hne)

theorem Sound.leads (h : s.Sound defaults) (hleads : s.Leads Workspace.Aside s') :
    s'.Sound defaults := by
  induction hleads with
  | refl => exact h
  | tail _ hmove ih => exact ih.move hmove

theorem Sound.surpassed (h : s.Sound defaults) (hleads : s.Leads Workspace.Aside s') {ticket : Nat}
    (hsurpassed : s.workspace.registry.Surpassed root ticket) :
    s'.workspace.registry.Surpassed root ticket := by
  induction hleads with
  | refl => exact hsurpassed
  | tail hleads hmove ih =>
    have htracked := (h.leads hleads).tracked
    exact ih.step htracked.ordered (htracked.tickets.removalMark_clear root) hmove.registry

theorem leads_afterAll {World : Workspace → Workspace → Prop} (s : Situation)
    (operations : List Operation) : s.Leads World (s.afterAll operations) := by
  induction operations generalizing s with
  | nil => exact .refl
  | cons operation operations ih => exact .head (.operation operation) (ih (s.after operation))

/-- The counters of tickets never go back. -/
theorem Leads.lastTicket_le (hleads : s.Leads Workspace.Aside s') (root : Path) :
    s.workspace.registry.lastTicket root ≤ s'.workspace.registry.lastTicket root := by
  induction hleads with
  | refl => exact Nat.le_refl _
  | tail _ hmove ih => exact Nat.le_trans ih (hmove.registry.lastTicket_le root)

end Situation

theorem Run.sound {defaults : Config} {start : Workspace}
    (hstart : start.registry = { defaultConfig := defaults }) {s : Situation}
    (h : Run Workspace.Aside start s) : s.Sound defaults := by
  induction h with
  | start => exact .start hstart
  | operation operation _ ih => exact ih.move (.operation operation)
  | world _ hw ih => exact ih.move (.world hw)

/-- **The registry stays consistent.**  In every situation of every run the tables of the registry fit each
other; from there on no counter of tickets goes back; and whatever is published of a project there has a
lower ticket than all that is published of the project later. -/
theorem registry_stays_consistent {defaults : Config} {start : Workspace}
    (hstart : start.registry = { defaultConfig := defaults }) {s : Situation}
    (hrun : Run Workspace.Aside start s) :
    s.workspace.registry.Consistent ∧
    (∀ s', s.Leads Workspace.Aside s' → ∀ root,
      s.workspace.registry.lastTicket root ≤ s'.workspace.registry.lastTicket root) ∧
    ∀ root index held, s.publication? index = some (root, held) →
      ∀ s', (s.after (.finish index)).Leads Workspace.Aside s' → ∀ index' held',
        s'.publication? index' = some (root, held') → held.ticket < held'.ticket := by
  have hsound := hrun.sound hstart
  refine ⟨hsound.tracked.consistent hsound.keys, fun s' hleads => hleads.lastTicket_le, ?_⟩
  intro root index held hpublication s' hleads index' held' hlater
  have hafter := hsound.move (.operation (.finish index))
  have hsurpassed : (s.after (.finish index)).workspace.registry.Surpassed root held.ticket :=
    .inr ⟨held, Situation.get?_of_publication hpublication, Nat.le_refl _⟩
  exact (hafter.leads hleads).lt_of_publication hlater (hafter.surpassed hleads hsurpassed)

/-- A project is published, removed and published again, with a higher ticket. -/
theorem registry_stays_consistent_over_removal :
    let project := Path.ofString "/w/p"
    let compile (text : String) := Operation.begin (.compile project (some (Text.ofString text)) none none)
    let s := Situation.afterAll { workspace := Workspace.bare (Path.ofString "/scripts") }
      [compile "*.o"]
    let s' := (s.after (.finish 0)).afterAll [.remove project, compile "*.a"]
    ∃ held held', s.publication? 0 = some (project, held) ∧
      s'.publication? 0 = some (project, held') ∧ held.ticket < held'.ticket := by
  intro project compile s s'
  have hfirst : (s.publication? 0).any (·.1 = project) = true := by decide +kernel
  have hsecond : (s'.publication? 0).any (·.1 = project) = true := by decide +kernel
  obtain ⟨⟨root, held⟩, hheld, hroot⟩ := (Option.any_eq_true ..).mp hfirst
  obtain ⟨⟨root', held'⟩, hheld', hroot'⟩ := (Option.any_eq_true ..).mp hsecond
  rw [show root = project from of_decide_eq_true hroot] at hheld
  rw [show root' = project from of_decide_eq_true hroot'] at hheld'
  exact ⟨held, held', hheld, hheld', (registry_stays_consistent rfl (Run.afterAll .start _)).2.2
    project 0 held hheld s' (Situation.leads_afterAll _ _) 0 held' hheld'⟩

end SkipPath
