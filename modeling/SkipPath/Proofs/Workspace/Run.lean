import SkipPath.Proofs.Workspace.Begin

/-!
Runs: what may happen to a workspace over time.

A request begins in one step and is finished in another one, or never.  Between the two anything else may
happen: other requests, for the same project too, begin and are finished, questions are asked, projects
are removed, and the world outside changes what it may change.  The history keeps what has happened to the
projects, and theorems about all runs go by the step relation (`Situation.Step`), which says once what a
step of an operation can do.
-/

namespace SkipPath

/-! ## 1. Situations and steps -/

/-- One thing that has happened to the projects of a workspace. -/
inductive Happening where
  | begun (request : Request)
  | finished (request : Request)
  | removed (root : Path)
  | cleared

/-- A workspace in the middle of a run. -/
structure Situation where
  workspace : Workspace
  /-- The requests that have begun and are not finished. -/
  pending : List Request := []
  /-- What has happened so far, last first. -/
  history : List Happening := []

/-- A step that somebody may ask for at any time. -/
inductive Operation where
  /-- A call is made, which may begin a request. -/
  | begin (call : Call)
  /-- One of the pending requests is finished. -/
  | finish (index : Nat)
  /-- It is asked what a builder of commands needs. -/
  | usage (root : Path) (canUseVariable : Bool)
  /-- It is asked for the option of the search command. -/
  | option (root : Path) (byReference : Bool)
  | remove (root : Path)
  | clear

namespace Situation

/-- The situation after a call. -/
def called (s : Situation) : Except Fault (Option Request) × Workspace → Situation
  | (.ok (some request), w) =>
    { workspace := w, pending := request :: s.pending, history := .begun request :: s.history }
  | (.ok none, w) | (.error _, w) => { s with workspace := w }

/-- The situation after one of the pending requests, if there is one at the place, was finished. -/
def finishing (s : Situation) (index : Nat) : Option Request → Situation
  | none => s
  | some request =>
    { workspace := ((Work.finish request).on s.workspace).2
      pending := s.pending.eraseIdx index
      history := .finished request :: s.history }

/-- The situation after a project was to be removed, whose path is resolved first. -/
def removing (s : Situation) : Except Fault Path → Workspace → Situation
  | .ok root, w => { s with workspace := w, history := .removed root :: s.history }
  | .error _, w => { s with workspace := w }

/-- The situation after an operation. -/
def after (s : Situation) : Operation → Situation
  | .begin call => s.called (call.begin.on s.workspace)
  | .finish index => s.finishing index s.pending[index]?
  | .usage root canUseVariable =>
    { s with workspace := ((Work.usage root canUseVariable).on s.workspace).2 }
  | .option root byReference =>
    { s with workspace := ((Work.projectOption root byReference).on s.workspace).2 }
  | .remove root =>
    s.removing (s.workspace.resolve root) ((Work.remove root).on s.workspace).2
  | .clear =>
    { s with workspace := (Work.clear.on s.workspace).2, history := .cleared :: s.history }

/-- What a step of an operation can do. -/
inductive Step (s : Situation) : Situation → Prop where
  /-- There are only reports. -/
  | quiet {w : Workspace} (h : OnlyReports s.workspace w) : Step s { s with workspace := w }
  /-- A request has begun. -/
  | begun {request : Request} {w : Workspace} (h : Begun s.workspace request w) :
    Step s
      { workspace := w, pending := request :: s.pending, history := .begun request :: s.history }
  /-- A request was finished. -/
  | finished {index : Nat} {request : Request} (h : s.pending[index]? = some request) :
    Step s
      { workspace := ((Work.finish request).on s.workspace).2
        pending := s.pending.eraseIdx index
        history := .finished request :: s.history }
  /-- A published profile was exported. -/
  | exported {root : Path} {held : Held} (h : s.workspace.registry.get? root = some held) :
    Step s { s with workspace := ((Work.exportProfile held false).on s.workspace).2 }
  /-- A project was removed. -/
  | removed {root : Path} {r : Log.Record} :
    Step s
      { s with
        workspace := Workspace.reported
          { s.workspace with registry := s.workspace.registry.remove root } r
        history := .removed root :: s.history }
  /-- All projects were removed. -/
  | cleared :
    Step s
      { s with
        workspace := { s.workspace with registry := s.workspace.registry.clear }
        history := .cleared :: s.history }

theorem Step.refl (s : Situation) : Step s s := .quiet (OnlyReports.refl s.workspace)

/-- What has happened stays in the history. -/
theorem Step.history {s s' : Situation} (h : s.Step s') {happening : Happening}
    (hmem : happening ∈ s.history) : happening ∈ s'.history := by
  cases h <;> first | exact hmem | exact List.mem_cons_of_mem _ hmem

theorem step_called (s : Situation) {result : Except Fault (Option Request) × Workspace}
    (h : Call.AtMostBegun s.workspace result) : Step s (s.called result) := by
  obtain ⟨r, w⟩ := result
  match r with
  | .error _ => exact .quiet h
  | .ok none => exact .quiet h
  | .ok (some request) => exact .begun h

/-- Asking for an option exports the published profile, or does nothing. -/
theorem step_option (s : Situation) (root : Path) (byReference : Bool) :
    Step s { s with workspace := ((Work.projectOption root byReference).on s.workspace).2 } := by
  rw [Work.on_projectOption]
  cases s.workspace.resolve root with
  | error fault => exact .refl s
  | ok full =>
    cases hheld : s.workspace.registry.get? full with
    | none =>
      simp only [hheld]
      exact .refl s
    | some held =>
      simp only [hheld, Work.optionFor_snd]
      exact .exported hheld

/-- Every operation makes one of the steps. -/
theorem step_after (s : Situation) (operation : Operation) : Step s (s.after operation) := by
  cases operation with
  | begin call => exact step_called s (Call.begin_atMostBegun call s.workspace)
  | finish index =>
    show Step s (s.finishing index s.pending[index]?)
    cases hpending : s.pending[index]? with
    | none => exact .refl s
    | some request => exact .finished hpending
  | usage root canUseVariable =>
    obtain ⟨result, hresult, -⟩ := Work.on_usage root canUseVariable s.workspace
    simp only [after, hresult]
    exact .refl s
  | option root byReference => exact step_option s root byReference
  | remove root =>
    rw [after, Work.on_remove]
    cases s.workspace.resolve root with
    | error fault => exact .refl s
    | ok full => exact .removed
  | clear =>
    rw [after, Work.on_clear]
    exact .cleared

/-- What operations leave alone stays as it is in every step. -/
theorem Step.view {β : Type} (view : Workspace → β)
    (h : ∀ v output files ledger registry, view { v with
      output := output, files := files, ledger := ledger, registry := registry } = view v)
    {s s' : Situation} (hstep : s.Step s') : view s'.workspace = view s.workspace := by
  have hreports : ∀ v rs, view (Workspace.reportedAll v rs) = view v := fun v rs =>
    Workspace.view_reportedAll v rs view fun v output files => h v output files v.ledger v.registry
  have hregistry : ∀ v registry, view { v with registry := registry } = view v := fun v registry =>
    h v v.output v.files v.ledger registry
  cases hstep with
  | quiet hw =>
    obtain ⟨rs, rfl⟩ := hw
    exact hreports _ rs
  | begun hw =>
    obtain ⟨-, -, rs, rfl⟩ := hw
    exact (hregistry _ _).trans (hreports _ rs)
  | finished _ => exact Work.view_finish view h _ _
  | exported _ =>
    exact Work.view_exportProfile view (fun v output files ledger => h v output files ledger v.registry) _ _ _
  | removed => exact (hreports _ [_]).trans (hregistry _ _)
  | cleared => exact hregistry _ _

end Situation

/-! ## 2. Runs -/

/-- A run: operations in any order, and between them steps of the world outside, of which `World` says what
they may do to a workspace. -/
inductive Run (World : Workspace → Workspace → Prop) (start : Workspace) : Situation → Prop where
  | start : Run World start { workspace := start }
  | operation {s : Situation} (operation : Operation) (h : Run World start s) :
    Run World start (s.after operation)
  | world {s : Situation} {w : Workspace} (h : Run World start s) (hw : World s.workspace w) :
    Run World start { s with workspace := w }

/-- The situation after some operations in turn. -/
def Situation.afterAll (s : Situation) (operations : List Operation) : Situation :=
  operations.foldl after s

theorem Situation.view_afterAll {β : Type} (view : Workspace → β)
    (h : ∀ v output files ledger registry, view { v with
      output := output, files := files, ledger := ledger, registry := registry } = view v)
    (s : Situation) (operations : List Operation) :
    view (s.afterAll operations).workspace = view s.workspace := by
  induction operations generalizing s with
  | nil => rfl
  | cons operation operations ih => exact (ih (s.after operation)).trans ((s.step_after operation).view view h)

theorem Run.afterAll {World : Workspace → Workspace → Prop} {start : Workspace} {s : Situation}
    (h : Run World start s) (operations : List Operation) :
    Run World start (s.afterAll operations) := by
  induction operations generalizing s with
  | nil => exact h
  | cons operation operations ih => exact ih (.operation operation h)

end SkipPath
