import SkipPath.Proofs.Files.Links
import SkipPath.Proofs.Workspace.Effect

/-!
Beginning a request.

There are three calls that may begin one: to load a project, to compile a text for it, and to tell that a
file has changed.  Whatever else a call reads, reports and refuses, it either begins one request, as the
last thing it does, or it begins none and only reports (`Call.begin_atMostBegun`).  A request that has begun
is about a resolved path, and what it makes its profile of is for its own project and settings.
-/

namespace SkipPath

/-! ## 1. Profiles of a task -/

section mapError

variable {ε ε' α : Type} {f : ε → ε'}

theorem mapError_ok (a : α) : (Except.ok a).mapError f = .ok a := rfl

theorem ok_of_mapError {x : Except ε α} {a : α} (h : x.mapError f = .ok a) : x = .ok a := by
  cases x with
  | error e => cases h
  | ok b =>
    cases h
    rfl

end mapError

namespace Task

/-- A profile is for the project and the settings of its task. -/
theorem of_conclude {task : Task} {vs : List Verdict} {p : Profile}
    (h : task.conclude vs = .ok p) : p.root = task.root ∧ p.config = task.config := by
  unfold conclude at h
  split at h
  · cases h; exact ⟨rfl, rfl⟩
  · cases h
  · cases h; exact ⟨rfl, rfl⟩

theorem of_compile {task : Task} {p : Profile} (h : task.compile.outcome = .ok p) :
    p.root = task.root ∧ p.config = task.config := by
  unfold compile at h
  split at h
  · cases h; exact ⟨rfl, rfl⟩
  · split at h
    · cases h; exact ⟨rfl, rfl⟩
    · exact of_conclude h

end Task

/-! ## 2. Requests that have begun -/

/-- What a profile is made of is for a project and for settings.  A profile that is there already has no
pattern to use. -/
def Making.Suits (root : Path) (config : Config) : Making → Prop
  | .compiling task => task.root = root ∧ task.config = config
  | .ready profile => profile.root = root ∧ profile.config = config ∧ profile.isUsable = false

/-- What every request is that has begun. -/
structure Request.WellFormed (request : Request) : Prop where
  resolved : request.root.anchor = .root
  suits : request.making.Suits request.root request.config

/-- The profile of a request is for its project and its settings. -/
theorem Request.WellFormed.of_outcome {request : Request} (h : request.WellFormed) {p : Profile}
    (hp : request.outcome = .ok p) : p.root = request.root ∧ p.config = request.config := by
  have hs := h.suits
  unfold Request.outcome at hp
  cases hm : request.making with
  | compiling task =>
    rw [hm] at hp hs
    obtain ⟨hroot, hconfig⟩ := hs
    obtain ⟨h₁, h₂⟩ := Task.of_compile (ok_of_mapError hp)
    rw [h₁, h₂]
    exact ⟨hroot, hconfig⟩
  | ready q =>
    rw [hm] at hp hs
    cases hp
    exact ⟨hs.1, hs.2.1⟩

/-- A request has begun in a workspace and left another one: it has the next ticket of its project, and
but for the counter of tickets there were only reports. -/
structure Begun (w : Workspace) (request : Request) (w' : Workspace) : Prop where
  wellFormed : request.WellFormed
  ticket : request.ticket = w.registry.lastTicket request.root + 1
  workspace : ∃ rs, w' = { w.reportedAll rs with registry := (w.registry.begin request.root).2 }

/-- The only trace of a piece of work is what it has reported. -/
def OnlyReports (w w' : Workspace) : Prop := ∃ rs, w' = w.reportedAll rs

theorem OnlyReports.refl (w : Workspace) : OnlyReports w w := ⟨[], rfl⟩

theorem OnlyReports.reported (w : Workspace) (r : Log.Record) : OnlyReports w (w.reported r) :=
  ⟨[r], rfl⟩

theorem OnlyReports.reportedAll (w : Workspace) (rs : List Log.Record) :
    OnlyReports w (w.reportedAll rs) := ⟨rs, rfl⟩

theorem OnlyReports.trans {w w₁ w₂ : Workspace} (h₁ : OnlyReports w w₁) (h₂ : OnlyReports w₁ w₂) :
    OnlyReports w w₂ := by
  obtain ⟨rs, rfl⟩ := h₁
  obtain ⟨rs', rfl⟩ := h₂
  exact ⟨rs ++ rs', Workspace.reportedAll_append w rs rs'⟩

theorem OnlyReports.registry {w w' : Workspace} (h : OnlyReports w w') :
    w'.registry = w.registry := by
  obtain ⟨rs, rfl⟩ := h
  exact Workspace.reportedAll_registry w rs

/-- Reports before a request begins make no difference to it. -/
theorem Begun.after_reports {w w₁ w' : Workspace} {request : Request} (h : OnlyReports w w₁)
    (hb : Begun w₁ request w') : Begun w request w' := by
  obtain ⟨rs, rfl⟩ := h
  obtain ⟨hw, ht, rs', rfl⟩ := hb
  rw [Workspace.reportedAll_registry] at ht
  refine ⟨hw, ht, rs ++ rs', ?_⟩
  rw [Workspace.reportedAll_append, Workspace.reportedAll_registry]

/-! ## 3. The calls -/

/-- A call that may begin a request. -/
inductive Call where
  /-- The ignore file of a project is to be read and compiled. -/
  | load (root : Path) (config : Option Config)
  /-- A text is to be compiled for a project. -/
  | compile (root : Path) (text : Option Text) (config : Option Config) (source : Option Path)
  /-- A file has changed. -/
  | notice (file : Path)

/-- What a call does before it finishes the request that it begins, if it begins one. -/
def Call.begin : Call → Work (Option Request)
  | .load root config => some <$> Work.beginLoad root config
  | .compile root text config source => some <$> Work.beginText root text config source
  | .notice file => Work.beginNotice file

/-- What comes of work that is to begin a request: a request that has begun, or nothing but reports. -/
def BegunOrRefused (w : Workspace) (result : Except Fault Request × Workspace) : Prop :=
  match result with
  | (.ok request, w') => Begun w request w'
  | (.error _, w') => OnlyReports w w'

theorem BegunOrRefused.after_reports {w w₁ : Workspace} {result : Except Fault Request × Workspace}
    (hr : BegunOrRefused w₁ result) (h : OnlyReports w w₁) : BegunOrRefused w result := by
  obtain ⟨r, w'⟩ := result
  cases r with
  | error fault => exact OnlyReports.trans h hr
  | ok request => exact Begun.after_reports h hr

namespace Work

theorem on_settings (root : Path) (config : Option Config) (w : Workspace) :
    (settings root config).on w = (.ok (config.getD (w.registry.configFor root)), w) := rfl

theorem begun_begin {root : Path} {config : Config} {making : Making} (w : Workspace)
    (hroot : root.anchor = .root) (hmaking : making.Suits root config) :
    BegunOrRefused w ((begin root config making).on w) :=
  ⟨⟨hroot, hmaking⟩, rfl, [], rfl⟩

theorem begun_beginText (root : Path) (text : Option Text) (config : Option Config)
    (source : Option Path) (w : Workspace) :
    BegunOrRefused w ((beginText root text config source).on w) := by
  simp only [beginText, on_bind, on_fullPath]
  cases hfull : w.resolve root with
  | error fault => exact OnlyReports.refl w
  | ok full => exact begun_begin w (Workspace.settled_of_resolve hfull).anchor ⟨rfl, rfl⟩

theorem begun_beginLoad (root : Path) (config : Option Config) (w : Workspace) :
    BegunOrRefused w ((beginLoad root config).on w) := by
  simp only [beginLoad, on_bind, on_fullPath]
  cases hfull : w.resolve root with
  | error fault => exact OnlyReports.refl w
  | ok full =>
    simp only [on_settings]
    have hroot : full.anchor = .root := (Workspace.settled_of_resolve hfull).anchor
    generalize config.getD (w.registry.configFor full) = c
    cases c.useIgnoreFile with
    | false => exact begun_beginText full none (some c) none w
    | true =>
      simp only [Bool.not_true, Bool.false_eq_true, if_false, on_bind, on_get, on_ofExcept]
      cases w.loader.read w.files full with
      | error fault => exact OnlyReports.refl w
      | ok content =>
        simp only [mapError_ok, on_reportAll]
        cases content with
        | text text warnings =>
          exact (begun_beginText full _ _ _ _).after_reports (OnlyReports.reportedAll w _)
        | problem message =>
          simp only [on_bind, on_say]
          refine BegunOrRefused.after_reports (begun_begin _ hroot ?_)
            ((OnlyReports.reportedAll w _).trans (OnlyReports.reported _ _))
          exact ⟨rfl, rfl, rfl⟩

end Work

namespace Call

/-- What comes of a call: a request that has begun, or nothing but reports. -/
def AtMostBegun (w : Workspace) (result : Except Fault (Option Request) × Workspace) : Prop :=
  match result with
  | (.ok (some request), w') => Begun w request w'
  | (.ok none, w') | (.error _, w') => OnlyReports w w'

theorem AtMostBegun.of_some {w : Workspace} {x : Work Request} (h : BegunOrRefused w (x.on w)) :
    AtMostBegun w ((some <$> x).on w) := by
  rw [Work.on_map]
  cases hx : x.on w with
  | mk result w' =>
    rw [hx] at h
    cases result <;> exact h

theorem AtMostBegun.after_reports {w w₁ : Workspace}
    {result : Except Fault (Option Request) × Workspace} (hr : AtMostBegun w₁ result)
    (h : OnlyReports w w₁) : AtMostBegun w result := by
  obtain ⟨r, w'⟩ := result
  match r with
  | .error _ => exact OnlyReports.trans h hr
  | .ok none => exact OnlyReports.trans h hr
  | .ok (some request) => exact Begun.after_reports h hr

/-- A notice begins a request only for the ignore file of a known project. -/
theorem begun_beginNotice (file : Path) (w : Workspace) :
    AtMostBegun w ((Work.beginNotice file).on w) := by
  simp only [Work.beginNotice, Work.on_bind, Work.on_fullPath]
  cases w.resolve file with
  | error fault => exact OnlyReports.refl w
  | ok full =>
    simp only [Work.on_get]
    split
    · exact OnlyReports.reported w _
    · split
      · exact OnlyReports.reported w _
      · show AtMostBegun w ((Work.say _ _ _ >>= fun _ => Work.beginLoad full.parent none >>=
          fun request => pure (some request)).on w)
        rw [Work.on_bind, Work.on_say]
        have hbegun := AtMostBegun.of_some (Work.begun_beginLoad full.parent none (w.reported
          (Log.record Log.info Work.registrySource
            (Text.ofString "Reloading ignore file: " ++ full.render))))
        rw [map_eq_pure_bind] at hbegun
        exact hbegun.after_reports (OnlyReports.reported w _)

theorem begin_atMostBegun (call : Call) (w : Workspace) : AtMostBegun w (call.begin.on w) := by
  cases call with
  | load root config => exact AtMostBegun.of_some (Work.begun_beginLoad root config w)
  | compile root text config source =>
    exact AtMostBegun.of_some (Work.begun_beginText root text config source w)
  | notice file => exact begun_beginNotice file w

end Call

end SkipPath
