import SkipPath.Proofs.Workspace.Course
import SkipPath.Proofs.Workspace.Lacking

/-!
A request that does not publish leaves no trace.

There are three ways for a request not to publish (`Situation.Unpublished`), and after each of them the
registry, the records of exports and the scripts are what they were (`Situation.Unpublished.finish`).

That nothing is different later on is a statement about two runs: one in which the request begins and is
finished without publishing, or never, and one of the same events in which it was never made.  Between the two
the tickets of the project differ by one (`Request.renumber`), and the lemmas about two such workspaces carry
over to situations: an event that happens in both keeps them so and is answered the same
(`Situation.Twin.doing`), and so does the request that is finished in the first one only
(`Situation.Twin.skipped`).
-/

namespace SkipPath

/-! ## 1. Requests that do not publish -/

/-- A request does not publish if it is finished now: compiling ends in a fault, the project was removed after
the request began, or a later request has published before it. -/
inductive Situation.Unpublished (s : Situation) (request : Request) : Prop where
  | faulted {fault : Fault} (h : request.outcome = .error fault)
  | removed (h : ¬ request.Live s.history)
  | superseded {current : Held} (h : s.workspace.registry.get? request.root = some current)
    (hlater : request.ticket < current.ticket)

namespace Situation

variable {defaults : Config} {s s' : Situation} {request : Request} {profile : Profile}

/-- There are no other ways not to publish. -/
theorem Sound.unpublished_iff (hs : s.Sound defaults) (hpending : request ∈ s.pending) :
    s.Unpublished request ↔
      ∀ profile, request.outcome = .ok profile →
        ∀ held, s.workspace.endingOf request profile ≠ .published held := by
  have htickets : Tickets _ s.pending s.history := hs.tracked.tickets
  have hlive := htickets.live request (htickets.pending_begun request hpending)
  have hcases := fun profile => s.workspace.registry.ending_cases request.root request.ticket profile
    s.workspace.ledger.fresh.1
  constructor
  · intro hunpublished profile houtcome held hending
    rcases hcases profile with ⟨-, he⟩ | ⟨-, current, -, -, he⟩ | ⟨hmark, hnewest, -⟩
    · cases he.symm.trans hending
    · cases he.symm.trans hending
    · cases hunpublished with
      | faulted h => cases h.symm.trans houtcome
      | removed h => exact h (hlive.mpr hmark)
      | superseded h hlater => exact Nat.not_le.mpr hlater (hnewest _ h)
  · intro hidle
    cases houtcome : request.outcome with
    | error fault => exact .faulted houtcome
    | ok profile =>
      rcases hcases profile with ⟨hmark, -⟩ | ⟨-, current, hcurrent, hlt, -⟩ | ⟨-, -, he⟩
      · exact .removed fun h => Nat.not_le.mpr (hlive.mp h) hmark
      · exact .superseded hcurrent hlt
      · exact absurd he (hidle profile houtcome _)

/-- A request that does not publish changes nothing when it is finished, but that there are reports. -/
theorem Unpublished.finish (h : s.Unpublished request) (hs : s.Sound defaults)
    (hpending : request ∈ s.pending) :
    ((Work.finish request).on s.workspace).2.registry = s.workspace.registry ∧
      ((Work.finish request).on s.workspace).2.shown = s.workspace.shown ∧
      AfterReports s.workspace ((Work.finish request).on s.workspace).2 := by
  have hidle := (hs.unpublished_iff hpending).mp h
  have hmade := AfterReports.reportedAll s.workspace request.records
  have hregistry := Workspace.reportedAll_registry s.workspace request.records
  have hshown : (s.workspace.reportedAll request.records).shown = s.workspace.shown := by
    funext held
    simp [Workspace.shown]
  have hending := fun profile => Workspace.endingOf_reportedAll s.workspace request.records request profile
  have hleft := Work.finish_leaves request s.workspace
  generalize ((Work.finish request).on s.workspace).2 = left at hleft ⊢
  generalize s.workspace.reportedAll request.records = made at *
  cases hleft with
  | faulted _ => exact ⟨hregistry, hshown, hmade⟩
  | @idle profile houtcome _ r =>
    have hconcluded : AfterReports made (made.concluded request profile) := .of_same rfl rfl rfl rfl rfl
    refine ⟨?_, ?_, (hmade.trans hconcluded).trans (.reported _ r)⟩
    · rw [Workspace.reported_registry, Workspace.concluded_registry_of_idle, hregistry]
      rw [hending]
      exact hidle profile houtcome
    · rw [Workspace.shown_reported, Workspace.shown_concluded, hshown]
  | exported houtcome hpublished _ =>
    rw [hending] at hpublished
    exact absurd hpublished (hidle _ houtcome _)

end Situation

/-! ## 2. Answers and events -/

/-- An answer, with the tickets that there are if a request was never made. -/
def Answer.without (gone : Request) : Answer → Answer
  | .begun result => .begun (result.map (·.map (·.without gone)))
  | .finished result => .finished (result.map (·.map (·.without gone)))
  | .got result => .got (result.map (·.map (·.without gone)))
  | .usage result => .usage result
  | .option result => .option result
  | .removed result => .removed result
  | .cleared => .cleared

/-- A deed if a request was never made: there is nothing to finish of it. -/
def Deed.without? (gone : Request) : Deed → Option Deed
  | .finish root ticket =>
    if gone.Took root ticket then none else some (.finish root (gone.renumber root ticket))
  | other => some other

/-- The only deed that falls away is to finish the request. -/
theorem Deed.eq_finish_of_without? {gone : Request} {deed : Deed} (h : deed.without? gone = none) :
    deed = .finish gone.root gone.ticket := by
  cases deed with
  | finish root ticket =>
    rw [without?] at h
    split at h
    · next htook => rw [htook.1, htook.2]
    · cases h
  | _ => cases h

/-- One thing that happens over time. -/
inductive Event where
  | deed (deed : Deed)
  /-- The files are changed from outside, and so may be the links and how scripts are written. -/
  | world (change : Files.Tree → Files.Tree) (links : Links) (writer : Files.Tree.Writer)

namespace Event

/-- An event if a request was never made. -/
def without? (gone : Request) : Event → Option Event
  | .deed asked => (asked.without? gone).map .deed
  | .world change links writer => some (.world change links writer)

/-- What is done from outside comes to the same with trees that are related. -/
def Fair (same : Files.Tree → Files.Tree → Prop) (scripts : Path) : Event → Prop
  | .deed _ => True
  | .world change _ writer =>
    (∀ t t', same t t' → same (change t) (change t')) ∧ Workspace.WritesAlike same scripts writer

end Event

namespace Situation

/-- The situation after an event. -/
def meeting (s : Situation) : Event → Situation
  | .deed deed => s.doing deed
  | .world change links writer =>
    { s with workspace :=
        { s.workspace with files := change s.workspace.files, links := links, writer := writer } }

/-- No deed moves the folder for scripts. -/
theorem scripts_doing (s : Situation) (deed : Deed) : (s.doing deed).workspace.scripts = s.workspace.scripts :=
  (s.step_doing deed).view (·.scripts) fun _ _ _ _ _ => rfl

/-- The situation after some events in turn. -/
def meetingAll (s : Situation) (events : List Event) : Situation := events.foldl meeting s

/-! ## 3. Pending requests -/

section pending

variable {gone : Request} {root : Path} {ticket : Nat}

/-- The pending requests if one of them was never made. -/
def pendingWithout (gone : Request) (pending : List Request) : List Request :=
  (pending.filter fun request => ¬ gone.Took request.root request.ticket).map (·.without gone)

theorem pendingWithout_self (gone : Request) (pending : List Request) :
    pendingWithout gone (gone :: pending) = pendingWithout gone pending := by
  have htook : gone.Took gone.root gone.ticket := ⟨rfl, rfl⟩
  simp [pendingWithout, htook]

theorem pendingWithout_cons {request : Request} (hother : ¬ gone.Took request.root request.ticket)
    (pending : List Request) :
    pendingWithout gone (request :: pending) = request.without gone :: pendingWithout gone pending := by
  simp [pendingWithout, hother]

/-- Requests with lower tickets stay as they are. -/
theorem pendingWithout_of_lt {pending : List Request}
    (h : ∀ request ∈ pending, request.root = gone.root → request.ticket < gone.ticket) :
    pendingWithout gone pending = pending := by
  induction pending with
  | nil => rfl
  | cons request pending ih =>
    obtain ⟨hlt, hrest⟩ := List.forall_mem_cons.mp h
    have hother : ¬ gone.Took request.root request.ticket := by
      rintro ⟨hroot, hsame⟩
      have := hlt hroot
      omega
    rw [pendingWithout_cons hother, ih hrest, Request.without, Request.renumber_of_lt hlt]

/-- A request goes by its project and its ticket, also if another one was never made. -/
theorem named_without (hpos : 0 < gone.ticket) (hother : ¬ gone.Took root ticket) (request : Request) :
    (¬ gone.Took request.root request.ticket ∧
      request.root = root ∧ (request.without gone).ticket = gone.renumber root ticket) ↔
    request.root = root ∧ request.ticket = ticket := by
  constructor
  · rintro ⟨hrequest, rfl, hticket⟩
    exact ⟨rfl, (Request.renumber_inj hpos hrequest hother).mp hticket⟩
  · rintro ⟨rfl, rfl⟩
    exact ⟨hother, rfl, rfl⟩

theorem find?_pendingWithout (hpos : 0 < gone.ticket) (hother : ¬ gone.Took root ticket)
    (pending : List Request) :
    (pendingWithout gone pending).find?
        (fun request => request.root = root && request.ticket = gone.renumber root ticket) =
      (pending.find? fun request => request.root = root && request.ticket = ticket).map (·.without gone) := by
  rw [pendingWithout, List.find?_map, List.find?_filter]
  congr 2
  funext request
  rw [Bool.eq_iff_iff]
  simp only [Function.comp, Bool.and_eq_true, decide_eq_true_eq]
  exact named_without hpos hother request

theorem eraseP_pendingWithout (hpos : 0 < gone.ticket) (hother : ¬ gone.Took root ticket)
    (pending : List Request) :
    (pendingWithout gone pending).eraseP
        (fun request => request.root = root && request.ticket = gone.renumber root ticket) =
      pendingWithout gone
        (pending.eraseP fun request => request.root = root && request.ticket = ticket) := by
  rw [pendingWithout, List.eraseP_map, List.eraseP_filter, pendingWithout]
  congr 3
  funext request
  rw [Bool.eq_iff_iff]
  simp only [Function.comp, Bool.and_eq_true, decide_eq_true_eq]
  exact and_comm.trans (named_without hpos hother request)

/-- What is pending besides the request does not go by whether it was finished. -/
theorem pendingWithout_eraseP (gone : Request) (pending : List Request) :
    pendingWithout gone
        (pending.eraseP fun request => request.root = gone.root && request.ticket = gone.ticket) =
      pendingWithout gone pending := by
  rw [pendingWithout, filter_eraseP_of_disjoint, pendingWithout]
  intro request hrequest
  simpa [Request.Took] using hrequest

end pending

/-! ## 4. Two situations side by side -/

/-- Two situations that differ by a request that was never made in the second one. -/
structure Twin (same : Files.Tree → Files.Tree → Prop) (defaults : Config) (gone : Request)
    (s s' : Situation) : Prop where
  workspace : Workspace.Twin same gone s.workspace s'.workspace
  pending : s'.pending = pendingWithout gone s.pending
  begun : .begun gone ∈ s.history
  orderly : s.Orderly defaults
  orderly' : s'.Orderly defaults

namespace Twin

variable {same : Files.Tree → Files.Tree → Prop} {defaults : Config} {gone : Request} {s s' : Situation}

/-- A step in both situations changes their workspaces alike. -/
theorem of_steps (h : Twin same defaults gone s s') {s₁ s₁' : Situation} (hstep : s.Step s₁)
    (hstep' : s'.Step s₁') (hworkspace : Workspace.Twin same gone s₁.workspace s₁'.workspace)
    (hpending : s₁'.pending = pendingWithout gone s₁.pending) : Twin same defaults gone s₁ s₁' where
  workspace := hworkspace
  pending := hpending
  begun := hstep.history h.begun
  orderly := h.orderly.step hstep
  orderly' := h.orderly'.step hstep'

/-- The request that begins is the one that is missing in the second situation. -/
theorem start (hs : s.Orderly defaults) (hblind : s.workspace.BlindTo same) {call : Call}
    (hcall : (call.begin.on s.workspace).1 = .ok (some gone)) :
    Twin same defaults gone (s.doing (.begin call)) s := by
  have hstep := s.step_doing (.begin call)
  have hregistry := hs.sound.tracked.consistent hs.sound.keys
  have htickets : Tickets _ s.pending s.history := hs.sound.tracked.tickets
  have hbegun : Call.AtMostBegun s.workspace (call.begin.on s.workspace) := call.begin_atMostBegun s.workspace
  have hdoing : s.doing (.begin call) = s.called (call.begin.on s.workspace) := rfl
  rw [hdoing] at hstep ⊢
  generalize call.begin.on s.workspace = result at *
  obtain ⟨result, w⟩ := result
  cases hcall
  obtain ⟨-, hticket, rs, rfl⟩ := hbegun
  refine ⟨⟨?_, ?_, ?_⟩, ?_, ?_, hs.step hstep, hs⟩
  · have hlacks : Workspace.Lacks gone
        { s.workspace with registry := (s.workspace.registry.begin gone.root).2 } s.workspace :=
      .begun hticket hregistry.marks (fun root held hheld => (hregistry.live root held hheld).2) hs.about
    exact hlacks.of_same rfl (by funext held; simp [called, Workspace.shown]) rfl rfl
  · refine ⟨hblind.equivalence.symm (hblind.files_reportedAll rs), ?_, ?_, ?_, ?_, ?_, ?_⟩
    · exact (Workspace.reportedAll_links s.workspace rs).symm
    · exact (Workspace.view_reportedAll s.workspace rs (·.loader) fun _ _ _ => rfl).symm
    · exact (Workspace.reportedAll_scripts s.workspace rs).symm
    · exact (Workspace.reportedAll_writer s.workspace rs).symm
    · exact (Workspace.reportedAll_logging s.workspace rs).symm
    · exact (Workspace.reportedAll_stamp s.workspace rs).symm
  · exact (hblind.reportedAll rs).of_same rfl rfl (hblind.reportedAll rs).writer rfl rfl
  · refine .symm ((pendingWithout_self gone s.pending).trans (pendingWithout_of_lt fun request hrequest hroot => ?_))
    exact htickets.begun_lt hticket (htickets.pending_begun request hrequest) hroot
  · exact List.mem_cons_self

/-- The request that is missing is finished without publishing. -/
theorem skipped (h : Twin same defaults gone s s') (hunpublished : s.Unpublished gone) :
    Twin same defaults gone (s.doing (.finish gone.root gone.ticket)) s' := by
  have hstep := s.step_doing (.finish gone.root gone.ticket)
  have htickets : Tickets _ s.pending s.history := h.orderly.sound.tracked.tickets
  rw [doing_finish] at hstep ⊢
  cases hrequest : s.pending[s.place gone.root gone.ticket]? with
  | none => exact h
  | some request =>
    rw [hrequest] at hstep
    have hmem := List.mem_of_getElem? hrequest
    have hnamed : request.root = gone.root ∧ request.ticket = gone.ticket := by
      rw [place, ← List.find?_eq_getElem?_findIdx] at hrequest
      simpa using List.find?_some hrequest
    obtain rfl := htickets.distinct request gone (htickets.pending_begun request hmem) h.begun hnamed.1 hnamed.2
    obtain ⟨hregistry, hshown, hreports⟩ := hunpublished.finish h.orderly.sound hmem
    obtain ⟨rs, hfiles⟩ := hreports.files
    have hscripts := Work.view_finish (·.scripts) (fun _ _ _ _ _ => rfl) request s.workspace
    have hwriter := Work.view_finish (·.writer) (fun _ _ _ _ _ => rfl) request s.workspace
    have hblind := h.workspace.blind
    refine ⟨⟨?_, ?_, ?_⟩, ?_, hstep.history h.begun, h.orderly.step hstep, h.orderly'⟩
    · exact h.workspace.lacks.of_same hregistry hshown rfl rfl
    · refine ⟨?_, ?_, ?_, ?_, ?_, ?_, ?_⟩
      · simp only [finishing, hfiles]
        exact hblind.equivalence.trans (hblind.equivalence.symm (hblind.files_reportedAll rs))
          h.workspace.around.files
      · exact h.workspace.around.links.trans hreports.links.symm
      · exact h.workspace.around.loader.trans hreports.loader.symm
      · exact h.workspace.around.scripts.trans hscripts.symm
      · exact h.workspace.around.writer.trans hwriter.symm
      · exact h.workspace.around.logging.trans hreports.logging.symm
      · exact h.workspace.around.stamp.trans hreports.stamp.symm
    · exact hblind.of_same hreports.loader hscripts (hwriter.symm ▸ hblind.writer) hreports.logging
        hreports.stamp
    · simp only [finishing, place, eraseIdx_findIdx, pendingWithout_eraseP, h.pending]

/-! ### What happens in both -/

/-- A call begins a request in both situations, or in neither. -/
theorem begin (h : Twin same defaults gone s s') (call : Call) :
    s'.answer (.begin call) = (s.answer (.begin call)).without gone ∧
      Twin same defaults gone (s.doing (.begin call)) (s'.doing (.begin call)) := by
  have hresult := h.workspace.begin_fst call
  refine ⟨congrArg Answer.begun hresult, h.of_steps (s.step_doing _) (s'.step_doing _) ?_ ?_⟩
  all_goals
    have hleft : Call.AtMostBegun s.workspace (call.begin.on s.workspace) := call.begin_atMostBegun s.workspace
    have hleft' : Call.AtMostBegun s'.workspace (call.begin.on s'.workspace) :=
      call.begin_atMostBegun s'.workspace
    have hdoing : s.doing (.begin call) = s.called (call.begin.on s.workspace) := rfl
    have hdoing' : s'.doing (.begin call) = s'.called (call.begin.on s'.workspace) := rfl
    rw [hdoing, hdoing']
    generalize call.begin.on s.workspace = begun at *
    generalize call.begin.on s'.workspace = begun' at *
    obtain ⟨result, w⟩ := begun
    obtain ⟨result', w'⟩ := begun'
    cases hresult
  · match result with
    | .error _ | .ok none =>
      obtain ⟨rs, rfl⟩ := hleft
      obtain ⟨rs', rfl⟩ := hleft'
      exact h.workspace.reportedAll rs rs'
    | .ok (some request) =>
      obtain ⟨-, -, rs, rfl⟩ := hleft
      obtain ⟨-, -, rs', rfl⟩ := hleft'
      have hreported := h.workspace.reportedAll rs rs'
      have hbegun := hreported.lacks.begin request.root
      simp only [Workspace.reportedAll_registry] at hbegun
      exact hreported.replacing hreported.around.files hbegun
  · match result with
    | .error _ | .ok none => exact h.pending
    | .ok (some request) =>
      have hother : ¬ gone.Took request.root request.ticket := by
        rintro ⟨hroot, hsame⟩
        have htaken := h.workspace.lacks.taken
        have hticket := hleft.ticket
        rw [hroot] at hticket
        omega
      show request.without gone :: s'.pending = pendingWithout gone (request :: s.pending)
      rw [pendingWithout_cons hother, h.pending]

/-- Another request is finished in both situations. -/
theorem finish (h : Twin same defaults gone s s') {root : Path} {ticket : Nat}
    (hother : ¬ gone.Took root ticket) :
    s'.answer (.finish root (gone.renumber root ticket)) = (s.answer (.finish root ticket)).without gone ∧
      Twin same defaults gone (s.doing (.finish root ticket))
        (s'.doing (.finish root (gone.renumber root ticket))) := by
  have hpos := h.workspace.lacks.pos
  have hfound : s'.pending[s'.place root (gone.renumber root ticket)]? =
      s.pending[s.place root ticket]?.map (·.without gone) := by
    rw [place, ← List.find?_eq_getElem?_findIdx, place, ← List.find?_eq_getElem?_findIdx, h.pending,
      find?_pendingWithout hpos hother]
  have herased : s'.pending.eraseIdx (s'.place root (gone.renumber root ticket)) =
      pendingWithout gone (s.pending.eraseIdx (s.place root ticket)) := by
    rw [place, eraseIdx_findIdx, place, eraseIdx_findIdx, h.pending, eraseP_pendingWithout hpos hother]
  have hstep := s.step_doing (.finish root ticket)
  have hstep' := s'.step_doing (.finish root (gone.renumber root ticket))
  rw [answer, answer]
  rw [doing_finish] at hstep hstep' ⊢
  rw [doing_finish]
  rw [hfound] at hstep' ⊢
  cases hrequest : s.pending[s.place root ticket]? with
  | none => exact ⟨rfl, h⟩
  | some request =>
    rw [hrequest, Option.map_some] at hstep'
    rw [hrequest] at hstep
    obtain ⟨hpending, rfl⟩ := s.mem_of_place root ticket hrequest
    have hticket : request.ticket = ticket := by
      rw [place, ← List.find?_eq_getElem?_findIdx] at hrequest
      simpa using List.find?_some hrequest
    rw [← hticket] at hother
    obtain ⟨hresult, hleft⟩ := h.workspace.finish hother (h.orderly.about request.root) h.orderly.records
      h.orderly'.records (h.orderly.wellFormed hpending)
    exact ⟨congrArg (fun result => Answer.finished (some result)) hresult,
      h.of_steps hstep hstep' hleft herased⟩

theorem get (h : Twin same defaults gone s s') (root : Path) :
    s'.answer (.get root) = (s.answer (.get root)).without gone := by
  simp only [answer, Work.on_published, h.workspace.resolve]
  cases s.workspace.resolve root with
  | error fault => rfl
  | ok full =>
    have hpublished := h.workspace.lacks.published full
    simp only [Except.map, hpublished, Answer.without]
    cases s.workspace.registry.get? full <;> rfl

theorem usage (h : Twin same defaults gone s s') (root : Path) (canUseVariable : Bool) :
    s'.answer (.usage root canUseVariable) = (s.answer (.usage root canUseVariable)).without gone := by
  simp only [answer, Work.on_usage_eq, h.workspace.resolve, h.workspace.usageResult, Answer.without]

theorem option (h : Twin same defaults gone s s') (root : Path) (byReference : Bool) :
    s'.answer (.option root byReference) = (s.answer (.option root byReference)).without gone ∧
      Twin same defaults gone (s.doing (.option root byReference)) (s'.doing (.option root byReference)) := by
  obtain ⟨hresult, hleft⟩ :=
    h.workspace.projectOption h.orderly.records h.orderly'.records root byReference
  exact ⟨congrArg Answer.option hresult, h.of_steps (s.step_doing _) (s'.step_doing _) hleft h.pending⟩

theorem remove (h : Twin same defaults gone s s') (root : Path) :
    s'.answer (.remove root) = (s.answer (.remove root)).without gone ∧
      Twin same defaults gone (s.doing (.remove root)) (s'.doing (.remove root)) := by
  have hstep := s.step_doing (.remove root)
  have hstep' := s'.step_doing (.remove root)
  have hdoing : ∀ s : Situation, s.doing (.remove root) =
      s.removing (s.workspace.resolve root) ((Work.remove root).on s.workspace).2 := fun _ => rfl
  rw [hdoing, Work.on_remove] at hstep hstep'
  rw [hdoing, hdoing, answer, answer, Work.on_remove, Work.on_remove]
  rw [h.workspace.resolve] at hstep' ⊢
  cases hfull : s.workspace.resolve root with
  | error fault => exact ⟨rfl, h⟩
  | ok full =>
    rw [hfull] at hstep hstep'
    have hremoved := h.workspace.replacing h.workspace.around.files (h.workspace.lacks.remove full)
    exact ⟨rfl, h.of_steps hstep hstep' (hremoved.reported _ _) h.pending⟩

theorem clear (h : Twin same defaults gone s s') :
    Twin same defaults gone (s.doing .clear) (s'.doing .clear) := by
  have htickets : Tickets _ s.pending s.history := h.orderly.sound.tracked.tickets
  have htickets' : Tickets _ s'.pending s'.history := h.orderly'.sound.tracked.tickets
  have hcleared := h.workspace.lacks.clear htickets.removalMark_clear htickets'.removalMark_clear
  exact h.of_steps (s.step_doing .clear) (s'.step_doing .clear)
    (h.workspace.replacing h.workspace.around.files hcleared) h.pending

/-- **A deed that is done in both situations is answered the same**, and the situations go on differing by the
request only. -/
theorem doing (h : Twin same defaults gone s s') {deed deed' : Deed} (hdeed : deed.without? gone = some deed') :
    s'.answer deed' = (s.answer deed).without gone ∧
      Twin same defaults gone (s.doing deed) (s'.doing deed') := by
  cases deed with
  | begin call =>
    cases hdeed
    exact h.begin call
  | finish root ticket =>
    rw [Deed.without?] at hdeed
    split at hdeed
    · cases hdeed
    · next hother =>
      cases hdeed
      exact h.finish hother
  | get root =>
    cases hdeed
    exact ⟨h.get root, h⟩
  | usage root canUseVariable =>
    cases hdeed
    rw [doing_usage, doing_usage]
    exact ⟨h.usage root canUseVariable, h⟩
  | option root byReference =>
    cases hdeed
    exact h.option root byReference
  | remove root =>
    cases hdeed
    exact h.remove root
  | clear =>
    cases hdeed
    exact ⟨rfl, h.clear⟩

/-- What happens outside is the same for both situations. -/
theorem world (h : Twin same defaults gone s s') {change : Files.Tree → Files.Tree} {links : Links}
    {writer : Files.Tree.Writer} (hfair : (Event.world change links writer).Fair same s.workspace.scripts) :
    Twin same defaults gone (s.meeting (.world change links writer))
      (s'.meeting (.world change links writer)) where
  workspace := by
    obtain ⟨hchange, hwriter⟩ := hfair
    refine ⟨h.workspace.lacks.of_same rfl rfl rfl rfl, ?_, h.workspace.blind.of_same rfl rfl hwriter rfl rfl⟩
    exact ⟨hchange _ _ h.workspace.around.files, rfl, h.workspace.around.loader, h.workspace.around.scripts, rfl,
      h.workspace.around.logging, h.workspace.around.stamp⟩
  pending := h.pending
  begun := h.begun
  orderly := ⟨h.orderly.sound.move (.world rfl), h.orderly.records.of_same rfl rfl⟩
  orderly' := ⟨h.orderly'.sound.move (.world rfl), h.orderly'.records.of_same rfl rfl⟩

/-- Events in turn, without those of the request in the second situation. -/
theorem meetingAll {events : List Event} (h : Twin same defaults gone s s')
    (hfair : ∀ event ∈ events, event.Fair same s.workspace.scripts)
    (hunpublished : ∀ before after, events = before ++ .deed (.finish gone.root gone.ticket) :: after →
      (s.meetingAll before).Unpublished gone) :
    Twin same defaults gone (s.meetingAll events) (s'.meetingAll (events.filterMap (·.without? gone))) := by
  induction events generalizing s s' with
  | nil => exact h
  | cons event events ih =>
    obtain ⟨hfirst, hrest⟩ := List.forall_mem_cons.mp hfair
    have hlater : ∀ before after, events = before ++ .deed (.finish gone.root gone.ticket) :: after →
        ((s.meeting event).meetingAll before).Unpublished gone := fun before after he =>
      hunpublished (event :: before) after (congrArg (event :: ·) he)
    cases event with
    | world change links writer => exact ih (h.world hfirst) hrest hlater
    | deed deed =>
      rw [← s.scripts_doing deed] at hrest
      cases hdeed : deed.without? gone with
      | some deed' =>
        have hevent : (Event.deed deed).without? gone = some (.deed deed') := by
          rw [Event.without?, hdeed, Option.map_some]
        rw [List.filterMap_cons_some hevent]
        exact ih (h.doing hdeed).2 hrest hlater
      | none =>
        have hevent : (Event.deed deed).without? gone = none := by rw [Event.without?, hdeed, Option.map_none]
        rw [List.filterMap_cons_none hevent]
        obtain rfl := Deed.eq_finish_of_without? hdeed
        exact ih (h.skipped (hunpublished [] events rfl)) hrest hlater

end Twin

end Situation

/-! ## 5. No trace -/

/-- What comes from outside leaves the registry and the records of exports alone. -/
def Workspace.Elsewhere (w w' : Workspace) : Prop := w'.registry = w.registry ∧ w'.ledger = w.ledger

theorem Run.orderly {defaults : Config} {start : Workspace}
    (hstart : start.registry = { defaultConfig := defaults }) {s : Situation}
    (h : Run Workspace.Elsewhere start s) : s.Orderly defaults := by
  induction h with
  | start => exact .start hstart
  | @operation s operation _ ih => exact ih.step (s.step_after operation)
  | world _ hw ih => exact ⟨ih.sound.move (.world hw.1), ih.records.of_same hw.1 hw.2⟩

/-- **A request that does not publish leaves no trace.**  Take any situation of any run where what is logged
makes no difference to what is read and written (`Workspace.BlindTo`).  A pending request that does not publish
leaves the registry, the records of exports and the scripts as they are when it is finished.  And if a request
begins there that does not publish whenever it is finished, then after any events all is as if it had never been
made, but that the later tickets of its project are lower by one: the published profiles, the settings, the
removal marks, the records of exports, the scripts, and what is answered from there on. -/
theorem unpublished_leaves_no_trace {defaults : Config} {start : Workspace}
    (hstart : start.registry = { defaultConfig := defaults }) {s : Situation}
    (hrun : Run Workspace.Elsewhere start s) {same : Files.Tree → Files.Tree → Prop}
    (hblind : s.workspace.BlindTo same) :
    (∀ index request, s.pending[index]? = some request → s.Unpublished request →
      (s.after (.finish index)).workspace.registry = s.workspace.registry ∧
      (∀ held, (s.after (.finish index)).workspace.shown held = s.workspace.shown held) ∧
      ∀ root shell script, s.workspace.scriptPath root shell = .ok script →
        (s.after (.finish index)).workspace.files.content? script = s.workspace.files.content? script) ∧
    ∀ call request events, (call.begin.on s.workspace).1 = .ok (some request) →
      (∀ event ∈ events, event.Fair same s.workspace.scripts) →
      (∀ before after, events = before ++ .deed (.finish request.root request.ticket) :: after →
        ((s.doing (.begin call)).meetingAll before).Unpublished request) →
      let made := (s.doing (.begin call)).meetingAll events
      let never := s.meetingAll (events.filterMap (·.without? request))
      made.workspace.Lacks request never.workspace ∧
      (∀ root shell, never.workspace.scriptPath root shell = made.workspace.scriptPath root shell ∧
        ∀ script, made.workspace.scriptPath root shell = .ok script →
          never.workspace.files.content? script = made.workspace.files.content? script) ∧
      ∀ deed deed', deed.without? request = some deed' →
        never.answer deed' = (made.answer deed).without request := by
  have hs := hrun.orderly hstart
  constructor
  · intro index request hpending hunpublished
    obtain ⟨hregistry, hshown, hreports⟩ := hunpublished.finish hs.sound (List.mem_of_getElem? hpending)
    obtain ⟨rs, hfiles⟩ := hreports.files
    have hafter : (s.after (.finish index)).workspace = ((Work.finish request).on s.workspace).2 := by
      show (s.finishing index s.pending[index]?).workspace = _
      rw [hpending]
      rfl
    rw [hafter]
    refine ⟨hregistry, congrFun hshown, fun root shell script hscript => ?_⟩
    obtain ⟨name, rfl, hinner, -⟩ := (Workspace.isScript_scriptPath hscript).named
    rw [hfiles]
    exact hblind.content _ _ (hblind.files_reportedAll rs) _ hinner
  · intro call request events hcall hfair hunpublished made never
    rw [← s.scripts_doing (.begin call)] at hfair
    have htwin : Situation.Twin same defaults request made never :=
      (Situation.Twin.start hs hblind hcall).meetingAll hfair hunpublished
    refine ⟨htwin.workspace.lacks, fun root shell => ⟨htwin.workspace.scriptPath root shell, ?_⟩,
      fun deed deed' hdeed => (htwin.doing hdeed).1⟩
    intro script hscript
    obtain ⟨name, rfl, hinner, -⟩ := (Workspace.isScript_scriptPath hscript).named
    exact htwin.workspace.blind.content _ _ htwin.workspace.around.files _ hinner

namespace Overtaken

/-- A pattern that goes to a script is compiled for a project. -/
def call : Call := .compile Interleaved.app (some ['#']) (some .exporting) none

/-- The request that begins with it. -/
def request : Request :=
  { root := Interleaved.app, config := .exporting, ticket := 1
    making := .compiling { text := some ['#'], config := .exporting, root := Interleaved.app } }

/-- Another request for the project is made and finished, and only then the first one is. -/
def events : List Event :=
  [.deed (.begin call), .deed (.finish Interleaved.app 2), .deed (.finish Interleaved.app 1)]

end Overtaken

open Overtaken in
/-- A request that is overtaken by another one: in the end the option for the project is the same as if there had
been the other one only. -/
theorem unpublished_leaves_no_trace_overtaken :
    let s : Situation := { workspace := Interleaved.start }
    let late := (s.doing (.begin call)).meetingAll [.deed (.begin call), .deed (.finish Interleaved.app 2)]
    let made := (s.doing (.begin call)).meetingAll events
    let never := s.meetingAll [.deed (.begin call), .deed (.finish Interleaved.app 1)]
    late.pending[0]? = some request ∧
      (late.after (.finish 0)).workspace.registry = late.workspace.registry ∧
      made.workspace.Lacks request never.workspace ∧
      never.answer (.option Interleaved.app true) = (made.answer (.option Interleaved.app true)).without request ∧
      (made.answer (.option Interleaved.app true)).text? =
        some (Export.optionName ++ .char ' ' :: Export.reference .posix) := by
  intro s late made never
  have hlate : late = s.afterAll [.begin call, .begin call, .finish 0] := rfl
  have hrun : Run Workspace.Elsewhere Interleaved.start late := hlate ▸ Run.afterAll .start _
  have hlater : (late.workspace.registry.get? request.root).any (request.ticket < ·.ticket) = true := by
    decide +kernel
  obtain ⟨current, hcurrent, hlt⟩ := (Option.any_eq_true ..).mp hlater
  have hunpublished : late.Unpublished request := .superseded hcurrent (of_decide_eq_true hlt)
  have hpending : late.pending[0]? = some request := rfl
  have hsink : late.workspace.logging.file = none := by
    rw [hlate]
    exact Situation.view_afterAll (·.logging.file) (fun _ _ _ _ _ => rfl) s _
  have hfinished := (unpublished_leaves_no_trace rfl hrun (Workspace.blindTo_eq hsink)).1 0 request hpending
    hunpublished
  have hnever := (unpublished_leaves_no_trace rfl .start (Workspace.blindTo_eq (w := s.workspace) rfl)).2 call request
    events rfl (by simp [events, Event.Fair]) fun before after he => by
      match before with
      | [] => simp [events] at he
      | [_] => simp [events, request] at he
      | [_, _] =>
        cases he
        exact hunpublished
      | _ :: _ :: _ :: _ => simp [events] at he
  exact ⟨hpending, hfinished.1, hnever.1, hnever.2.2 _ _ rfl, by decide +kernel⟩

end SkipPath
