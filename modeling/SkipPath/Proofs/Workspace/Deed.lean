import SkipPath.Proofs.Registry.Consistent
import SkipPath.Proofs.Results
import SkipPath.Proofs.Workspace.Notice
import SkipPath.Proofs.Workspace.Share

/-!
What is asked of a workspace, and what is answered.

A deed (`Deed`) is an operation, or the question which profile is published; unlike an operation it names the
request that it finishes by its project and its ticket, so that it means the same wherever requests of other
projects are pending.  `Situation.share` is what there is of one project: its share of the workspace and its
pending requests.

Each kind of deed is put as a function of the share (`Orderly.finish_share` and its like), and leaves the shares
of other projects alone (`finish_other` and its like).  The two come together for a turn, which is a deed with
what is met outside when it is done: `Situation.doing_congr` and `Situation.share_doing_other`.
-/

namespace SkipPath

/-! ## 1. Beginning -/

namespace Work

theorem beginLoad_fst (root : Path) (config : Option Config) (w : Workspace) :
    ((beginLoad root config).on w).1 = (w.resolve root).bind fun full => w.loadRequest full config := by
  obtain ⟨rs, hbegin⟩ := on_beginLoad root config w
  rw [hbegin]
  cases (w.resolve root).bind fun full => w.loadRequest full config <;> rfl

theorem beginText_fst (root : Path) (text : Option Text) (config : Option Config) (source : Option Path)
    (w : Workspace) :
    ((beginText root text config source).on w).1 = (w.resolve root).map fun full =>
      { root := full, config := w.settingsFor full config, ticket := w.registry.lastTicket full + 1
        making := .compiling
          { text := text, config := w.settingsFor full config, root := full, source := source } } := by
  simp only [beginText, on_bind, on_fullPath]
  cases w.resolve root <;> rfl

theorem beginNotice_fst (file : Path) (w : Workspace) :
    ((beginNotice file).on w).1 = (w.resolve file).bind fun full =>
      if full.name != w.loader.fileName || !w.registry.isKnown full.parent then .ok none
      else ((w.reported (noticeRecord Log.info "Reloading ignore file: " full)).loadRequest
        full.parent none).map some := by
  rw [on_beginNotice]
  cases hfull : w.resolve file with
  | error fault => rfl
  | ok full =>
    have hload := beginLoad_fst full.parent none
      (w.reported (noticeRecord Log.info "Reloading ignore file: " full))
    rw [resolve_parent hfull] at hload
    simp only [Except.bind] at hload ⊢
    rw [← hload]
    cases full.name != w.loader.fileName with
    | true => rfl
    | false =>
      cases w.registry.isKnown full.parent with
      | false => rfl
      | true =>
        simp only [Bool.false_eq_true, Bool.not_true, Bool.or_self, if_false]
        generalize (beginLoad full.parent none).on _ = begun
        obtain ⟨result, w'⟩ := begun
        cases result <;> rfl

end Work

/-- The project of a call, if its path leads anywhere. -/
def Call.project? (resolve : Path → Except Fault Path) : Call → Option Path
  | .load root _ | .compile root _ _ _ => (resolve root).toOption
  | .notice file => (resolve file).toOption.map Path.parent

namespace Workspace

variable {w w' : Workspace}

theorem loadRequest_root {root : Path} {config : Option Config} {request : Request}
    (h : w.loadRequest root config = .ok request) : request.root = root := by
  obtain ⟨making, -, rfl⟩ := map_eq_ok.mp h
  rfl

theorem settingsFor_congr {root : Path} (hshare : w'.share root = w.share root) (config : Option Config) :
    w'.settingsFor root config = w.settingsFor root config := by
  have hconfig := congrArg (fun v => v.config.getD v.defaultConfig) hshare
  simp only [← configFor_share] at hconfig
  simp only [settingsFor, hconfig]

theorem lastTicket_congr {root : Path} (hshare : w'.share root = w.share root) :
    w'.registry.lastTicket root = w.registry.lastTicket root := by
  rw [lastTicket_share, hshare, lastTicket_share]

/-- A request to load a project goes by the share of the project and by what can be read. -/
theorem loadRequest_congr {root : Path} {config : Option Config} (hshare : w'.share root = w.share root)
    (hread : w'.loader.read w'.files root = w.loader.read w.files root) :
    w'.loadRequest root config = w.loadRequest root config := by
  have hloader : w'.loader = w.loader := congrArg Share.loader hshare
  have hmaking : ∀ settings, w'.makingOf root settings = w.makingOf root settings := by
    intro settings
    unfold makingOf unread
    rw [hread, hloader]
  simp only [loadRequest, hmaking, settingsFor_congr hshare, lastTicket_congr hshare]

end Workspace

namespace Call

variable {w w' : Workspace} {call : Call} {root : Path}

/-- A call begins a request of its project only. -/
theorem root_of_begun {request : Request} (hproject : call.project? w.resolve = some root)
    (h : (call.begin.on w).1 = .ok (some request)) : request.root = root := by
  cases call with
  | load p config =>
    have hfull : w.resolve p = .ok root := toOption_eq_some.mp hproject
    simp only [begin, Work.on_map, Work.beginLoad_fst, hfull, Except.bind] at h
    obtain ⟨found, hrequest, hfound⟩ := map_eq_ok.mp h
    cases hfound
    exact Workspace.loadRequest_root hrequest
  | compile p text config source =>
    have hfull : w.resolve p = .ok root := toOption_eq_some.mp hproject
    simp only [begin, Work.on_map, Work.beginText_fst, hfull] at h
    cases h
    rfl
  | notice file =>
    obtain ⟨full, hfull, rfl⟩ := Option.map_eq_some_iff.mp hproject
    rw [toOption_eq_some] at hfull
    simp only [begin, Work.beginNotice_fst, hfull, Except.bind] at h
    split at h
    · cases h
    · obtain ⟨found, hrequest, hfound⟩ := map_eq_ok.mp h
      cases hfound
      exact Workspace.loadRequest_root hrequest

/-- What a call begins goes by the share of its project and by what can be read. -/
theorem begin_congr (hresolve : w'.resolve = w.resolve) (hproject : call.project? w.resolve = some root)
    (hshare : ∀ rs, (w'.reportedAll rs).share root = (w.reportedAll rs).share root)
    (hread : ∀ rs, w'.loader.read (w'.reportedAll rs).files root =
      w.loader.read (w.reportedAll rs).files root) :
    (call.begin.on w').1 = (call.begin.on w).1 := by
  have hsame : w'.share root = w.share root := hshare []
  cases call with
  | load p config =>
    have hfull : w.resolve p = .ok root := toOption_eq_some.mp hproject
    simp only [begin, Work.on_map, Work.beginLoad_fst, hresolve, hfull, Except.bind,
      Workspace.loadRequest_congr hsame (hread [])]
  | compile p text config source =>
    have hfull : w.resolve p = .ok root := toOption_eq_some.mp hproject
    simp only [begin, Work.on_map, Work.beginText_fst, hresolve, hfull, Except.map,
      Workspace.settingsFor_congr hsame, Workspace.lastTicket_congr hsame]
  | notice file =>
    obtain ⟨full, hfull, rfl⟩ := Option.map_eq_some_iff.mp hproject
    rw [toOption_eq_some] at hfull
    have hloader : w'.loader = w.loader := congrArg Share.loader hsame
    have hknown : w'.registry.isKnown full.parent = w.registry.isKnown full.parent := by
      rw [Workspace.isKnown_share, hsame, Workspace.isKnown_share]
    simp only [begin, Work.beginNotice_fst, hresolve, hfull, Except.bind]
    generalize Work.noticeRecord Log.info "Reloading ignore file: " full = r
    have hload : (w'.reported r).loadRequest full.parent none = (w.reported r).loadRequest full.parent none := by
      refine Workspace.loadRequest_congr (hshare [r]) ?_
      rw [Workspace.view_reported w' r (·.loader) fun _ _ _ => rfl,
        Workspace.view_reported w r (·.loader) fun _ _ _ => rfl]
      exact hread [r]
    rw [hloader, hknown, hload]

/-- A call whose path leads nowhere does nothing. -/
theorem begin_of_no_project (h : call.project? w.resolve = none) :
    ∃ fault, call.begin.on w = (.error fault, w) := by
  cases call with
  | load p config =>
    obtain ⟨fault, hfault⟩ := toOption_eq_none.mp h
    refine ⟨fault, ?_⟩
    simp only [begin, Work.on_map, Work.beginLoad, Work.on_bind, Work.on_fullPath, hfault]
    rfl
  | compile p text config source =>
    obtain ⟨fault, hfault⟩ := toOption_eq_none.mp h
    refine ⟨fault, ?_⟩
    simp only [begin, Work.on_map, Work.beginText, Work.on_bind, Work.on_fullPath, hfault]
    rfl
  | notice file =>
    obtain ⟨fault, hfault⟩ := toOption_eq_none.mp (Option.map_eq_none_iff.mp h)
    exact ⟨fault, by rw [begin, Work.on_beginNotice, hfault]⟩

end Call

/-! ## 2. Deeds -/

/-- One thing that is asked of a workspace.  A pending request goes by its project and its ticket. -/
inductive Deed where
  | begin (call : Call)
  | finish (root : Path) (ticket : Nat)
  /-- The published profile is asked for. -/
  | get (root : Path)
  | usage (root : Path) (canUseVariable : Bool)
  | option (root : Path) (byReference : Bool)
  | remove (root : Path)
  | clear

/-- What comes of a deed, as far as it can be seen. -/
inductive Answer where
  | begun (result : Except Fault (Option Request))
  /-- There is no result if there is no such request. -/
  | finished (result : Option (Except Fault Shown))
  | got (result : Except Fault (Option Shown))
  | usage (result : Except Fault Work.Usage)
  | option (result : Except Fault Text)
  | removed (result : Except Fault Unit)
  | cleared

/-- The text of the option that was asked for. -/
def Answer.text? : Answer → Option Text
  | .option (.ok text) => some text
  | _ => none

/-- The project that a deed is about, if its path leads anywhere; to forget all projects is about no single
one. -/
def Deed.project? (resolve : Path → Except Fault Path) : Deed → Option Path
  | .begin call => call.project? resolve
  | .finish root _ => some root
  | .get root | .usage root _ | .option root _ | .remove root => (resolve root).toOption
  | .clear => none

/-- Whether a deed is one of a project.  To forget all projects is one of each. -/
def Deed.concerns (resolve : Path → Except Fault Path) (root : Path) : Deed → Bool
  | .clear => true
  | deed => deed.project? resolve = some root

namespace Situation

variable (s : Situation)

/-- The place of a pending request. -/
def place (root : Path) (ticket : Nat) : Nat :=
  s.pending.findIdx fun request => request.root = root && request.ticket = ticket

/-- The operation that a deed comes to, if it is one. -/
def operation? : Deed → Option Operation
  | .begin call => some (.begin call)
  | .finish root ticket => some (.finish (s.place root ticket))
  | .get _ => none
  | .usage root canUseVariable => some (.usage root canUseVariable)
  | .option root byReference => some (.option root byReference)
  | .remove root => some (.remove root)
  | .clear => some .clear

/-- The situation after a deed. -/
def doing (deed : Deed) : Situation := (s.operation? deed).elim s s.after

/-- What is answered to a deed. -/
def answer (deed : Deed) : Answer :=
  match deed with
  | .begin call => .begun (call.begin.on s.workspace).1
  | .finish root ticket =>
    .finished (s.pending[s.place root ticket]?.map fun request =>
      ((Work.finish request).on s.workspace).1.map (s.doing deed).workspace.shown)
  | .get root => .got (((Work.published root).on s.workspace).1.map (·.map s.workspace.shown))
  | .usage root canUseVariable => .usage ((Work.usage root canUseVariable).on s.workspace).1
  | .option root byReference => .option ((Work.projectOption root byReference).on s.workspace).1
  | .remove root => .removed ((Work.remove root).on s.workspace).1
  | .clear => .cleared

/-- What there is of one project in a situation: its share and its pending requests. -/
def share (root : Path) : Share × List Request :=
  (s.workspace.share root, s.pending.filter (·.root = root))

theorem step_doing (deed : Deed) : s.Step (s.doing deed) := by
  unfold doing
  cases s.operation? deed with
  | none => exact .refl s
  | some operation => exact s.step_after operation

end Situation

/-! ## 3. Pending requests -/

namespace Situation

variable (s : Situation) (root : Path) (ticket : Nat)

theorem eraseIdx_findIdx {α : Type} (p : α → Bool) (l : List α) :
    l.eraseIdx (l.findIdx p) = l.eraseP p := by
  induction l with
  | nil => rfl
  | cons a l ih =>
    by_cases h : p a
    · simp [List.findIdx_cons, h]
    · simp [List.findIdx_cons, h, ih]

/-- The request at the place is one of its own project. -/
theorem getElem?_place :
    s.pending[s.place root ticket]? = (s.share root).2.find? (·.ticket = ticket) := by
  rw [place, ← List.find?_eq_getElem?_findIdx, share, List.find?_filter]
  congr 1
  funext request
  simp

theorem mem_of_place {request : Request} (h : s.pending[s.place root ticket]? = some request) :
    request ∈ s.pending ∧ request.root = root := by
  rw [getElem?_place] at h
  have hmem := List.mem_filter.mp (List.mem_of_find?_eq_some h)
  exact ⟨hmem.1, by simpa using hmem.2⟩

theorem doing_finish :
    s.doing (.finish root ticket) = s.finishing (s.place root ticket) s.pending[s.place root ticket]? := rfl

theorem filter_eraseIdx_place :
    (s.pending.eraseIdx (s.place root ticket)).filter (·.root = root) =
      (s.share root).2.eraseP (·.ticket = ticket) := by
  rw [place, eraseIdx_findIdx, share, List.eraseP_filter]
  congr 2
  funext request
  simp [Bool.and_comm]

theorem filter_eraseP_of_disjoint {α : Type} {p q : α → Bool} (h : ∀ a, p a = true → q a = false)
    (l : List α) : (l.eraseP p).filter q = l.filter q := by
  induction l with
  | nil => rfl
  | cons a l ih =>
    by_cases hp : p a
    · simp [hp, h a hp]
    · by_cases hq : q a <;> simp [hp, hq, ih]

theorem filter_eraseIdx_place_other {other : Path} (h : other ≠ root) :
    (s.pending.eraseIdx (s.place root ticket)).filter (·.root = other) = (s.share other).2 := by
  rw [place, eraseIdx_findIdx, share]
  refine filter_eraseP_of_disjoint (fun request hp => ?_) _
  have hboth : request.root = root ∧ request.ticket = ticket := by simpa using hp
  simp [hboth.1, Ne.symm h]

end Situation

/-! ## 4. Steps about one project -/

/-- What a step about a project meets in a workspace. -/
structure Workspace.Meets (w : Workspace) (root : Path) (around : Surroundings) : Prop where
  resolve : w.resolve = around.resolve
  steady : ∀ rs, (w.reportedAll rs).Steady
  content : ∀ rs, w.loader.read (w.reportedAll rs).files root = around.content
  writes : ∀ rs, (w.reportedAll rs).Writes root around

/-- What holds in all situations of a course. -/
structure Situation.Orderly (defaults : Config) (s : Situation) : Prop where
  sound : s.Sound defaults
  records : s.workspace.RecordsApart

namespace Situation

variable {defaults : Config} {s s' : Situation} {root other : Path} {around : Surroundings}

theorem Orderly.wellFormed (h : s.Orderly defaults) {request : Request} (hpending : request ∈ s.pending) :
    request.WellFormed :=
  h.sound.tracked.tickets.wellFormed request (h.sound.tracked.tickets.pending_begun request hpending)

theorem Orderly.about (h : s.Orderly defaults) (root : Path) (held : Held)
    (hheld : s.workspace.registry.get? root = some held) : held.profile.root = root :=
  ((h.sound.tracked.consistent h.sound.keys).about root held hheld).1

/-- What is left of a share when a request has begun. -/
theorem share_begun {w w' : Workspace} {request : Request} (h : Begun w request w') (hlog : w.LogsAside)
    (hroot : root.anchor = .root) :
    w'.share root = if request.root = root then (w.share root).begun else w.share root := by
  obtain ⟨-, -, rs, rfl⟩ := h
  rw [← hlog.share_reportedAll hroot rs, ← Workspace.reportedAll_registry w rs]
  split
  · next he => exact he ▸ Workspace.share_begin _ _
  · next he => exact Workspace.share_begin_other _ _ _ (Ne.symm he)

/-- What begins with a call, seen from one project. -/
def beginning (root : Path) (result : Except Fault (Option Request)) (v : Share × List Request) :
    Share × List Request :=
  match result with
  | .ok (some request) => if request.root = root then (v.1.begun, request :: v.2) else v
  | .ok none | .error _ => v

theorem share_called (hlog : s.workspace.LogsAside) (hroot : root.anchor = .root)
    {result : Except Fault (Option Request) × Workspace} (h : Call.AtMostBegun s.workspace result) :
    (s.called result).share root = beginning root result.1 (s.share root) := by
  obtain ⟨r, w⟩ := result
  match r with
  | .error _ | .ok none =>
    obtain ⟨rs, rfl⟩ := h
    simp [called, share, beginning, hlog.share_reportedAll hroot]
  | .ok (some request) =>
    have hbegun : Begun s.workspace request w := h
    by_cases he : request.root = root <;>
      simp [called, share, beginning, share_begun hbegun hlog hroot, he]

/-- What finishing a request comes to, seen from its project. -/
def ending (around : Surroundings) (ticket : Nat) (v : Share × List Request) :
    Answer × (Share × List Request) :=
  match v.2.find? (·.ticket = ticket) with
  | none => (.finished none, v)
  | some request =>
    (.finished (some (v.1.finish around request).1),
      (v.1.finish around request).2, v.2.eraseP (·.ticket = ticket))

theorem Orderly.finish_share (hs : s.Orderly defaults) (hmeets : s.workspace.Meets root around)
    (ticket : Nat) :
    (s.answer (.finish root ticket), (s.doing (.finish root ticket)).share root) =
      ending around ticket (s.share root) := by
  rw [answer, doing_finish, ending, ← s.getElem?_place root ticket]
  cases hrequest : s.pending[s.place root ticket]? with
  | none => rfl
  | some request =>
    obtain ⟨hpending, rfl⟩ := s.mem_of_place root ticket hrequest
    have hfinish := Workspace.finish_share (hs.wellFormed hpending) hs.records hmeets.steady hmeets.writes
    simp only [← s.filter_eraseIdx_place request.root ticket]
    rw [show (s.share request.root).1 = s.workspace.share request.root from rfl, ← hfinish]
    rfl

/-- Asking for the option goes by the share of the project. -/
theorem Orderly.option_share (hs : s.Orderly defaults) (hmeets : s.workspace.Meets root around)
    (hroot : root.anchor = .root) {p : Path} (hproject : around.resolve p = .ok root)
    (byReference : Bool) :
    (s.answer (.option p byReference), (s.doing (.option p byReference)).share root) =
      (.option ((s.share root).1.option around byReference).1,
        ((s.share root).1.option around byReference).2, (s.share root).2) := by
  have hdoing : s.doing (.option p byReference) =
      { s with workspace := ((Work.projectOption p byReference).on s.workspace).2 } := rfl
  rw [answer, hdoing, Work.on_projectOption, hmeets.resolve, hproject]
  have hoption := Workspace.option_share hs.records (hmeets.steady []) (hs.about root) hroot
    (hmeets.writes []) byReference
  rw [show (s.share root).1 = s.workspace.share root from rfl, ← hoption]
  simp only
  cases s.workspace.registry.get? root <;> rfl

/-- Removing a project goes by its share. -/
theorem remove_share (hmeets : s.workspace.Meets root around) (hroot : root.anchor = .root) {p : Path}
    (hproject : around.resolve p = .ok root) :
    (s.answer (.remove p), (s.doing (.remove p)).share root) =
      (.removed (.ok ()), (s.share root).1.removed, (s.share root).2) := by
  have hdoing : s.doing (.remove p) =
      s.removing (s.workspace.resolve p) ((Work.remove p).on s.workspace).2 := rfl
  rw [answer, hdoing, Work.on_remove, hmeets.resolve, hproject]
  have hlog : Workspace.LogsAside
      { s.workspace with registry := s.workspace.registry.remove root } := (hmeets.steady []).log
  simp [removing, share, hlog.share_reported hroot, Workspace.share_remove]

/-! ### The same from the share -/

section congr

variable (hs : s.Orderly defaults) (hs' : s'.Orderly defaults) (hmeets : s.workspace.Meets root around)
  (hmeets' : s'.workspace.Meets root around) (hroot : root.anchor = .root)
  (hshare : s'.share root = s.share root)
include hmeets hmeets' hroot hshare

theorem begin_congr {call : Call} (hproject : call.project? around.resolve = some root) :
    s'.answer (.begin call) = s.answer (.begin call) ∧
      (s'.doing (.begin call)).share root = (s.doing (.begin call)).share root := by
  have hlog : s.workspace.LogsAside := (hmeets.steady []).log
  have hlog' : s'.workspace.LogsAside := (hmeets'.steady []).log
  have hresult : (call.begin.on s'.workspace).1 = (call.begin.on s.workspace).1 := by
    rw [← hmeets.resolve] at hproject
    refine Call.begin_congr (hmeets'.resolve.trans hmeets.resolve.symm) hproject (fun rs => ?_) (fun rs => ?_)
    · rw [hlog'.share_reportedAll hroot, hlog.share_reportedAll hroot]
      exact congrArg Prod.fst hshare
    · rw [hmeets'.content, hmeets.content]
  refine ⟨congrArg Answer.begun hresult, ?_⟩
  show (s'.called (call.begin.on s'.workspace)).share root =
    (s.called (call.begin.on s.workspace)).share root
  rw [share_called hlog' hroot (Call.begin_atMostBegun call _),
    share_called hlog hroot (Call.begin_atMostBegun call _), hresult, hshare]

include hs hs' in
omit hroot in
theorem finish_congr (ticket : Nat) :
    s'.answer (.finish root ticket) = s.answer (.finish root ticket) ∧
      (s'.doing (.finish root ticket)).share root = (s.doing (.finish root ticket)).share root := by
  have hboth := (hs'.finish_share hmeets' ticket).trans
    ((congrArg _ hshare).trans (hs.finish_share hmeets ticket).symm)
  exact Prod.mk.inj hboth

omit hroot in
theorem get_congr {p : Path} (hproject : around.resolve p = .ok root) :
    s'.answer (.get p) = s.answer (.get p) := by
  have hpublished := congrArg Share.published (congrArg Prod.fst hshare)
  simp only [answer, Work.on_published, hmeets.resolve, hmeets'.resolve, hproject]
  exact congrArg (fun x => Answer.got (.ok x)) hpublished

include hs in
omit hroot in
theorem usage_congr {p : Path} (hproject : around.resolve p = .ok root) (canUseVariable : Bool) :
    s'.answer (.usage p canUseVariable) = s.answer (.usage p canUseVariable) := by
  have hresult := Workspace.usageResult_congr (hs.about root) (congrArg Prod.fst hshare) canUseVariable
  simp only [answer, Work.on_usage_eq, hmeets.resolve, hmeets'.resolve, hproject, Except.bind, hresult]

include hs hs' in
theorem option_congr {p : Path} (hproject : around.resolve p = .ok root) (byReference : Bool) :
    s'.answer (.option p byReference) = s.answer (.option p byReference) ∧
      (s'.doing (.option p byReference)).share root = (s.doing (.option p byReference)).share root := by
  have hoption := hs'.option_share hmeets' hroot hproject byReference
  rw [hshare, ← hs.option_share hmeets hroot hproject byReference] at hoption
  exact Prod.mk.inj hoption

theorem remove_congr {p : Path} (hproject : around.resolve p = .ok root) :
    s'.answer (.remove p) = s.answer (.remove p) ∧
      (s'.doing (.remove p)).share root = (s.doing (.remove p)).share root := by
  have hremove := remove_share hmeets' hroot hproject
  rw [hshare, ← remove_share hmeets hroot hproject] at hremove
  exact Prod.mk.inj hremove

end congr

theorem clear_congr (hs : s.Orderly defaults) (hs' : s'.Orderly defaults)
    (hshare : s'.share root = s.share root) : (s'.doing .clear).share root = (s.doing .clear).share root := by
  have hcleared : ∀ {s : Situation}, s.Orderly defaults →
      (s.doing .clear).share root = ((s.share root).1.cleared, (s.share root).2) := fun hs =>
    congrArg (·, _) (Workspace.share_clear _ root hs.sound.tracked.tickets.counters)
  rw [hcleared hs, hcleared hs', hshare]

/-! ### The shares of other projects -/

section other

variable (hs : s.Orderly defaults) (hmeets : s.workspace.Meets root around) (hother : other.anchor = .root)
  (hne : other ≠ root) (hroot : root.anchor = .root)
  (hapart : s.workspace.ScriptsDiffer other root)
include hmeets hother hne

theorem begin_other {call : Call} (hproject : call.project? around.resolve = some root) :
    (s.doing (.begin call)).share other = s.share other := by
  have hbegin := share_called (hmeets.steady []).log hother (Call.begin_atMostBegun call s.workspace)
  refine hbegin.trans ?_
  cases hresult : (call.begin.on s.workspace).1 with
  | error fault => rfl
  | ok found =>
    cases found with
    | none => rfl
    | some request =>
      have habout := Call.root_of_begun (hmeets.resolve ▸ hproject) hresult
      simp [beginning, habout, Ne.symm hne]

include hs hapart in
theorem finish_other (ticket : Nat) : (s.doing (.finish root ticket)).share other = s.share other := by
  rw [doing_finish]
  cases hrequest : s.pending[s.place root ticket]? with
  | none => rfl
  | some request =>
    obtain ⟨hpending, rfl⟩ := s.mem_of_place root ticket hrequest
    have hfinish := Workspace.finish_share_other (hs.wellFormed hpending) hs.records hmeets.steady hother hne
      hapart
    have herase := s.filter_eraseIdx_place_other request.root ticket hne
    exact congrArg₂ Prod.mk hfinish herase

include hs hapart in
theorem option_other {p : Path} (hproject : around.resolve p = .ok root) (byReference : Bool) :
    (s.doing (.option p byReference)).share other = s.share other := by
  have hdoing : s.doing (.option p byReference) =
      { s with workspace := ((Work.projectOption p byReference).on s.workspace).2 } := rfl
  rw [hdoing, Work.on_projectOption, hmeets.resolve, hproject]
  simp only
  cases hheld : s.workspace.registry.get? root with
  | none => rfl
  | some held =>
    have hexport : ((Work.exportProfile held false).on s.workspace).2.share other =
        s.workspace.share other :=
      Workspace.share_exportProfile_other hs.records (hmeets.steady []) hheld (hs.about root held hheld)
        hother hne hapart
    simp only [share, Work.optionFor_snd, hexport]

theorem remove_other {p : Path} (hproject : around.resolve p = .ok root) :
    (s.doing (.remove p)).share other = s.share other := by
  have hdoing : s.doing (.remove p) =
      s.removing (s.workspace.resolve p) ((Work.remove p).on s.workspace).2 := rfl
  have hlog : Workspace.LogsAside
      { s.workspace with registry := s.workspace.registry.remove root } := (hmeets.steady []).log
  rw [hdoing, Work.on_remove, hmeets.resolve, hproject]
  simp [removing, share, hlog.share_reported hother, Workspace.share_remove_other _ _ _ hne]

end other

theorem doing_usage (p : Path) (canUseVariable : Bool) : s.doing (.usage p canUseVariable) = s := by
  have hdoing : s.doing (.usage p canUseVariable) =
      { s with workspace := ((Work.usage p canUseVariable).on s.workspace).2 } := rfl
  rw [hdoing, Work.on_usage_eq]

end Situation

/-! ## 5. Turns -/

/-- A deed, and what is met outside when it is done. -/
structure Turn extends Surroundings where
  deed : Deed

namespace Turn

/-- The project that a step is about. -/
def project? (turn : Turn) : Option Path := turn.deed.project? turn.resolve

/-- Whether a step is one of a project.  To forget all projects is a step of each. -/
def concerns (turn : Turn) (root : Path) : Bool := turn.deed.concerns turn.resolve root

theorem concerns_of_project {turn : Turn} {root : Path} (h : turn.project? = some root) :
    turn.concerns root = true := by
  obtain ⟨around, deed⟩ := turn
  cases deed with
  | clear => rfl
  | _ => exact decide_eq_true h

/-- A step about a project is one of no other. -/
theorem eq_of_concerns {turn : Turn} {root other : Path} (h : turn.project? = some other)
    (hconcerns : turn.concerns root = true) : other = root := by
  obtain ⟨around, deed⟩ := turn
  cases deed with
  | clear => cases h
  | _ => exact Option.some.inj (h.symm.trans (of_decide_eq_true hconcerns))

/-- A workspace is as a step meets it: paths lead where it is said, no script is touched but the one that is written,
and reading the ignore file of the project and writing its scripts come to what is said of them, whatever was
reported before. -/
structure Fits (turn : Turn) (w : Workspace) : Prop where
  resolve : w.resolve = turn.resolve
  steady : ∀ rs, (w.reportedAll rs).Steady
  content : ∀ root, turn.project? = some root → ∀ rs,
    w.loader.read (w.reportedAll rs).files root = turn.content
  writes : ∀ root, turn.project? = some root → ∀ rs,
    (w.reportedAll rs).Writes root turn.toSurroundings

/-- What a step meets goes by the files, by how scripts are written and by where reports go. -/
theorem Fits.of_same {turn : Turn} {w w' : Workspace} (h : turn.Fits w) (hfiles : w'.files = w.files)
    (hlinks : w'.links = w.links) (hwriter : w'.writer = w.writer) (hlogging : w'.logging = w.logging)
    (hstamp : w'.stamp = w.stamp)
    (hscripts : w'.scripts = w.scripts) (hloader : w'.loader = w.loader) : turn.Fits w' := by
  have hreported : ∀ rs, (w'.reportedAll rs).files = (w.reportedAll rs).files := fun rs =>
    Workspace.files_reportedAll_congr rs hfiles hlogging hstamp
  refine ⟨?_, fun rs => ?_, fun root hroot rs => ?_, fun root hroot rs => ?_⟩
  · rw [← h.resolve]
    funext p
    rw [Workspace.resolve, Workspace.resolve, hfiles, hlinks]
  · obtain ⟨hlog, hwrites⟩ := h.steady rs
    constructor
    · exact hlog.of_same (by simp [hscripts]) (by simp [hlogging]) (by simp [hstamp])
    · simpa [hreported, hwriter, hscripts] using hwrites
  · rw [hloader, hreported]
    exact h.content root hroot rs
  · exact (h.writes root hroot rs).of_same (hreported rs) (by simp [hlinks]) (by simp [hwriter])
      (by simp [hscripts])

theorem Fits.meets {turn : Turn} {w : Workspace} (h : turn.Fits w) {root : Path}
    (hproject : turn.project? = some root) : w.Meets root turn.toSurroundings :=
  ⟨h.resolve, h.steady, h.content root hproject, h.writes root hproject⟩

end Turn

namespace Situation

variable {defaults : Config} {s s' : Situation} {turn : Turn} {root other : Path}

/-- A step whose path leads nowhere changes nothing. -/
theorem doing_of_no_project (hfits : turn.Fits s.workspace) (hproject : turn.project? = none)
    (hconcerns : ¬ turn.concerns root = true) : s.doing turn.deed = s := by
  obtain ⟨around, deed⟩ := turn
  have hresolve : s.workspace.resolve = around.resolve := hfits.resolve
  cases deed with
  | begin call =>
    have hnowhere : call.project? s.workspace.resolve = none := by
      rw [hresolve]
      exact hproject
    obtain ⟨fault, hbegin⟩ := Call.begin_of_no_project hnowhere
    show s.called (call.begin.on s.workspace) = s
    rw [hbegin]
    rfl
  | finish project ticket => cases hproject
  | get p => rfl
  | usage p canUseVariable => exact doing_usage p canUseVariable
  | option p byReference =>
    obtain ⟨fault, hfault⟩ := toOption_eq_none.mp hproject
    show { s with workspace := ((Work.projectOption p byReference).on s.workspace).2 } = s
    rw [Work.on_projectOption, hresolve, hfault]
  | remove p =>
    obtain ⟨fault, hfault⟩ := toOption_eq_none.mp hproject
    show s.removing (s.workspace.resolve p) ((Work.remove p).on s.workspace).2 = s
    rw [Work.on_remove, hresolve, hfault]
    rfl
  | clear => exact absurd rfl hconcerns

/-- **A step is decided by the share of its project**: what is answered, and what there is of the project
afterwards. -/
theorem doing_congr (hs : s.Orderly defaults) (hs' : s'.Orderly defaults) (hfits : turn.Fits s.workspace)
    (hfits' : turn.Fits s'.workspace) (hroot : root.anchor = .root) (hconcerns : turn.concerns root = true)
    (hshare : s'.share root = s.share root) :
    s'.answer turn.deed = s.answer turn.deed ∧
      (s'.doing turn.deed).share root = (s.doing turn.deed).share root := by
  obtain ⟨around, deed⟩ := turn
  cases deed with
  | clear => exact ⟨rfl, clear_congr hs hs' hshare⟩
  | begin call =>
    have hproject : call.project? around.resolve = some root := of_decide_eq_true hconcerns
    exact begin_congr (hfits.meets hproject) (hfits'.meets hproject) hroot hshare hproject
  | finish project ticket =>
    cases Option.some.inj (of_decide_eq_true hconcerns)
    exact finish_congr hs hs' (hfits.meets rfl) (hfits'.meets rfl) hshare ticket
  | get p =>
    have hproject := of_decide_eq_true hconcerns
    exact ⟨get_congr (hfits.meets hproject) (hfits'.meets hproject) hshare (toOption_eq_some.mp hproject),
      hshare⟩
  | usage p canUseVariable =>
    have hproject := of_decide_eq_true hconcerns
    rw [doing_usage, doing_usage]
    exact ⟨usage_congr hs (hfits.meets hproject) (hfits'.meets hproject) hshare
      (toOption_eq_some.mp hproject) canUseVariable, hshare⟩
  | option p byReference =>
    have hproject := of_decide_eq_true hconcerns
    exact option_congr hs hs' (hfits.meets hproject) (hfits'.meets hproject) hroot hshare
      (toOption_eq_some.mp hproject) byReference
  | remove p =>
    have hproject := of_decide_eq_true hconcerns
    exact remove_congr (hfits.meets hproject) (hfits'.meets hproject) hroot hshare
      (toOption_eq_some.mp hproject)

/-- **A step about another project leaves the share of a project alone**, and so does one whose path leads
nowhere. -/
theorem share_doing_other (hs : s.Orderly defaults) (hfits : turn.Fits s.workspace)
    (hother : other.anchor = .root) (hconcerns : ¬ turn.concerns other = true)
    (hapart : ∀ root, turn.project? = some root → s.workspace.ScriptsDiffer other root) :
    (s.doing turn.deed).share other = s.share other := by
  cases hproject : turn.project? with
  | none => rw [doing_of_no_project hfits hproject hconcerns]
  | some root =>
    have hmeets := hfits.meets hproject
    have hdiffer := hapart root hproject
    obtain ⟨around, deed⟩ := turn
    have hne : other ≠ root := fun he => hconcerns (Turn.concerns_of_project (he ▸ hproject))
    cases deed with
    | begin call => exact begin_other hmeets hother hne hproject
    | finish project ticket =>
      cases hproject
      exact finish_other hs hmeets hother hne hdiffer ticket
    | get p => rfl
    | usage p canUseVariable => rw [doing_usage]
    | option p byReference =>
      exact option_other hs hmeets hother hne hdiffer (toOption_eq_some.mp hproject) byReference
    | remove p => exact remove_other hmeets hother hne (toOption_eq_some.mp hproject)
    | clear => cases hproject

end Situation

end SkipPath
