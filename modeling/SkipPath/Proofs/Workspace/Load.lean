import SkipPath.Proofs.Registry.LastRequest

/-!
Loading a project.

What loading makes a profile of is decided by what can be read when it begins (`Workspace.makingOf`), and by
the settings.  A request that has just begun has the highest ticket of all, so that nothing can be in its way
when it is finished at once: once a project was loaded without a fault of reading or of compiling, the profile
that came of it is the published one (`Work.load_publishes`), even if the export that follows ends in a fault.
-/

namespace SkipPath

/-! ## 1. What loading makes a profile of -/

/-- What comes of what a profile is to be made of. -/
def Making.outcome : Making → Except Fault Profile
  | .compiling task => task.compile.outcome.mapError (Fault.expression [])
  | .ready profile => .ok profile

namespace Workspace

/-- The profile of a project whose ignore file could not be read. -/
def unread (w : Workspace) (root : Path) (config : Config) (message : Text) : Profile :=
  { root := root, config := config, source := some (w.loader.pathIn root)
    diagnostics := [{ kind := .ioError, line := 0, text := [], message := message }] }

/-- What loading a project makes its profile of. -/
def makingOf (w : Workspace) (root : Path) (config : Config) : Except Fault Making :=
  if config.useIgnoreFile then
    match w.loader.read w.files root with
    | .error fault => .error fault
    | .ok (.text text _) =>
      .ok (.compiling
        { text := some text, config := config, root := root, source := some (w.loader.pathIn root) })
    | .ok (.problem message) => .ok (.ready (w.unread root config message))
  else .ok (.compiling { text := none, config := config, root := root })

/-- The profile that comes of loading a project, or the fault of reading or of compiling. -/
def loaded (w : Workspace) (root : Path) (config : Config) : Except Fault Profile :=
  match w.makingOf root config with
  | .error fault => .error fault
  | .ok making => making.outcome

/-- The settings of a request: those that are given, or those of the project. -/
def settingsFor (w : Workspace) (root : Path) (config : Option Config) : Config :=
  config.getD (w.registry.configFor root)

/-- The request that begins when a project is to be loaded whose path is resolved, or the fault that this ends
in. -/
def loadRequest (w : Workspace) (root : Path) (config : Option Config) : Except Fault Request :=
  let settings := w.settingsFor root config
  (w.makingOf root settings).map fun making =>
    { root := root, config := settings, ticket := w.registry.lastTicket root + 1, making := making }

end Workspace

/-- A request to load a project that has begun. -/
structure LoadBegun (w : Workspace) (root : Path) (config : Config) (request : Request) (w' : Workspace) :
    Prop where
  about : request.root = root
  settings : request.config = config
  ticket : request.ticket = w.registry.lastTicket root + 1
  making : w.makingOf root config = .ok request.making
  workspace : ∃ rs, w' = { w.reportedAll rs with registry := (w.registry.begin root).2 }

namespace Work

theorem on_beginText (root : Path) (text : Option Text) (config : Config) (source : Option Path)
    (w : Workspace) (hroot : w.Settled root) :
    (beginText root text (some config) source).on w =
      (.ok { root := root, config := config, ticket := w.registry.lastTicket root + 1
             making := .compiling { text := text, config := config, root := root, source := source } },
        { w with registry := (w.registry.begin root).2 }) := by
  simp only [beginText, on_bind, on_fullPath, hroot.resolve]
  rfl

/-- To begin to load a project is to begin a request about what can be read now. -/
theorem on_beginLoad (root : Path) (config : Option Config) (w : Workspace) :
    ∃ rs, (beginLoad root config).on w =
      match (w.resolve root).bind fun full => w.loadRequest full config with
      | .error fault => (.error fault, w.reportedAll rs)
      | .ok request =>
        (.ok request, { w.reportedAll rs with registry := (w.registry.begin request.root).2 }) := by
  simp only [beginLoad, on_bind, on_fullPath]
  cases hresolve : w.resolve root with
  | error fault => exact ⟨[], rfl⟩
  | ok full =>
    have hfull : w.Settled full := Workspace.settled_of_resolve hresolve
    simp only [on_settings, Except.bind, Workspace.loadRequest]
    rw [show config.getD (w.registry.configFor full) = w.settingsFor full config from rfl]
    generalize w.settingsFor full config = c
    rw [Workspace.makingOf]
    cases c.useIgnoreFile with
    | false =>
      simp only [Bool.not_false, Bool.false_eq_true, if_true, if_false, on_beginText full _ _ _ _ hfull]
      exact ⟨[], rfl⟩
    | true =>
      simp only [Bool.not_true, Bool.false_eq_true, if_true, if_false, on_bind, on_get, on_ofExcept]
      cases w.loader.read w.files full with
      | error fault => exact ⟨[], rfl⟩
      | ok content =>
        simp only [mapError_ok, on_reportAll]
        cases content with
        | text text warnings =>
          have hreported : ∀ rs, (w.reportedAll rs).Settled full := fun rs => by
            rw [Workspace.Settled, Workspace.reportedAll_links]
            exact hfull
          simp only [on_beginText full _ _ _ _ (hreported _), Workspace.reportedAll_registry]
          exact ⟨_, rfl⟩
        | problem message =>
          have hbegin : (begin full c (.ready (w.unread full c message))).on
              (w.reported (Log.record Log.warning registrySource message)) =
              (.ok { root := full, config := c, ticket := w.registry.lastTicket full + 1
                     making := .ready (w.unread full c message) },
                { w.reportedAll [Log.record Log.warning registrySource message] with
                  registry := (w.registry.begin full).2 }) := by
            rw [← Workspace.reported_registry w (Log.record Log.warning registrySource message)]
            rfl
          exact ⟨[_], hbegin⟩

/-- If loading does not begin a request, that is because of the path or of reading. -/
theorem beginLoad_cases (root : Path) (config : Option Config) (w : Workspace) :
    (∃ fault rs, (beginLoad root config).on w = (.error fault, w.reportedAll rs) ∧
      ∀ full, w.resolve root = .ok full → w.makingOf full (w.settingsFor full config) = .error fault) ∨
    ∃ full request w', w.resolve root = .ok full ∧ (beginLoad root config).on w = (.ok request, w') ∧
      LoadBegun w full (w.settingsFor full config) request w' := by
  obtain ⟨rs, hbegin⟩ := on_beginLoad root config w
  cases hfull : w.resolve root with
  | error fault =>
    rw [hfull] at hbegin
    exact .inl ⟨fault, rs, hbegin, fun full he => by cases he⟩
  | ok full =>
    rw [hfull] at hbegin
    simp only [Except.bind, Workspace.loadRequest] at hbegin
    cases hmaking : w.makingOf full (w.settingsFor full config) with
    | error fault =>
      rw [hmaking] at hbegin
      refine .inl ⟨fault, rs, hbegin, fun full' he => ?_⟩
      cases he
      exact hmaking
    | ok making =>
      rw [hmaking] at hbegin
      exact .inr ⟨full, _, _, rfl, hbegin, rfl, rfl, rfl, hmaking, rs, rfl⟩

end Work

/-! ## 2. Tickets in order -/

namespace Registry

/-- No published profile and no removal mark is above the last ticket of its project. -/
structure Ordered (r : Registry) : Prop where
  marks : ∀ root, r.removalMark root ≤ r.lastTicket root
  entries : ∀ root held, r.get? root = some held → held.ticket ≤ r.lastTicket root

variable {r : Registry} {root : Path} {config : Config}

/-- The registry after a request for a project has begun and its profile was published at once. -/
def publishedNow (r : Registry) (root : Path) (config : Config) (profile : Profile)
    (record : Export.RecordId) : Registry :=
  (r.begin root).2.apply root config
    (.published { profile := profile, record := record, ticket := r.lastTicket root + 1 })

@[simp] theorem get?_publishedNow (other : Path) (profile : Profile) (record : Export.RecordId) :
    (r.publishedNow root config profile record).get? other =
      if other = root then
        some { profile := profile, record := record, ticket := r.lastTicket root + 1 }
      else r.get? other := get?_apply_published ..

@[simp] theorem configs_publishedNow (other : Path) (profile : Profile) (record : Export.RecordId) :
    (r.publishedNow root config profile record).configs.get? other =
      if other = root then some config else r.configs.get? other := configs_apply_published ..

/-- Nothing is in the way of a request that has just begun. -/
theorem Ordered.ending_begin (h : r.Ordered) (root : Path) (profile : Profile) (record : Export.RecordId) :
    ∃ record', (r.begin root).2.ending root (r.lastTicket root + 1) profile record =
      .published { profile := profile, record := record', ticket := r.lastTicket root + 1 } := by
  have hmark := h.marks root
  rcases (r.begin root).2.ending_cases root (r.lastTicket root + 1) profile record with
    ⟨hle, -⟩ | ⟨-, current, hcurrent, hlt, -⟩ | ⟨-, -, he⟩
  · rw [removalMark_begin] at hle
    omega
  · have hle := h.entries root current hcurrent
    omega
  · exact ⟨_, he⟩

theorem Ordered.begin (h : r.Ordered) (root : Path) : (r.begin root).2.Ordered where
  marks other := by
    have hmark := h.marks other
    rw [removalMark_begin, lastTicket_begin]
    split
    · next he =>
      subst he
      omega
    · exact hmark
  entries other held hheld := by
    have hle := h.entries other held hheld
    rw [lastTicket_begin]
    split
    · next he =>
      subst he
      omega
    · exact hle

theorem Ordered.publishedNow (h : r.Ordered) (root : Path) (config : Config) (profile : Profile)
    (record : Export.RecordId) : (r.publishedNow root config profile record).Ordered where
  marks other := by
    rw [Registry.publishedNow, removalMark_apply, lastTicket_apply]
    exact (h.begin root).marks other
  entries other held hheld := by
    rw [get?_publishedNow] at hheld
    rw [Registry.publishedNow, lastTicket_apply]
    split at hheld
    · next he =>
      subst he
      have hlast := (lastTicket_begin r other other).trans (if_pos rfl)
      rw [← Option.some.inj hheld]
      exact Nat.le_of_eq hlast.symm
    · exact (h.begin root).entries other held hheld

end Registry

/-- In every situation of every run the tickets are in order. -/
theorem Situation.Tracked.ordered {defaults : Config} {s : Situation} (h : s.Tracked defaults) :
    s.workspace.registry.Ordered where
  marks := h.tickets.marks
  entries root held hheld := by
    rcases h.shows root with ⟨request, profile, record, hlatest, hget, -⟩ | ⟨-, hget, -⟩
    · have hle := h.tickets.le_last request (h.tickets.finished_begun request hlatest.finished)
      rw [hheld] at hget
      rw [Option.some.inj hget]
      rw [hlatest.about] at hle
      exact hle
    · rw [hheld] at hget
      cases hget

/-! ## 3. Loading -/

/-- What loading a project can leave of the registry. -/
inductive Loading (w : Workspace) (root : Path) (config : Config) : Registry → Prop where
  /-- No request has begun. -/
  | refused : Loading w root config w.registry
  /-- Compiling ended in a fault. -/
  | faulted : Loading w root config (w.registry.begin root).2
  /-- The profile was published. -/
  | published {profile : Profile} (record : Export.RecordId) (h : w.loaded root config = .ok profile) :
    Loading w root config (w.registry.publishedNow root config profile record)

theorem Loading.ordered {w : Workspace} {root : Path} {config : Config} {r : Registry}
    (h : Loading w root config r) (hordered : w.registry.Ordered) : r.Ordered := by
  cases h with
  | refused => exact hordered
  | faulted => exact hordered.begin root
  | published record _ => exact hordered.publishedNow root config _ record

/-- The settings of a known project stay what they are, unless the project is loaded with other ones. -/
theorem Loading.configs {w : Workspace} {root other : Path} {config config' : Config} {r : Registry}
    (h : Loading w root config r) (hknown : w.registry.configs.get? other = some config')
    (hsame : other = root → config = config') : r.configs.get? other = some config' := by
  cases h with
  | refused => exact hknown
  | faulted => exact hknown
  | published record _ =>
    rw [Registry.configs_publishedNow]
    split
    · next he => rw [hsame he]
    · exact hknown

theorem Loading.get?_other {w : Workspace} {root other : Path} {config : Config} {r : Registry}
    (h : Loading w root config r) (hother : other ≠ root) : r.get? other = w.registry.get? other := by
  cases h with
  | refused => rfl
  | faulted => rfl
  | published record _ => rw [Registry.get?_publishedNow, if_neg hother]

namespace Work

variable {root : Path} {config : Option Config} {w : Workspace}

/-- What comes of a request to load a project that is finished as soon as it has begun. -/
theorem finish_loadBegun {root : Path} {config : Config} {request : Request} {w' : Workspace}
    (hbegun : LoadBegun w root config request w') (hordered : w.registry.Ordered) :
    match w.loaded root config with
    | .error _ => ((finish request).on w').2.registry = (w.registry.begin root).2
    | .ok profile => ∃ record,
      ((finish request).on w').2.registry = w.registry.publishedNow root config profile record := by
  obtain ⟨rs, hw'⟩ := hbegun.workspace
  have hregistry : w'.registry = (w.registry.begin root).2 := by rw [hw']
  have hfinish := finish_registry request w'
  have hloaded : w.loaded root config = request.outcome := by
    rw [Workspace.loaded, hbegun.making]
    rfl
  rw [hloaded]
  cases houtcome : request.outcome with
  | error fault =>
    rw [houtcome, hregistry] at hfinish
    exact hfinish
  | ok profile =>
    obtain ⟨record, hending⟩ := hordered.ending_begin root profile w'.ledger.fresh.1
    simp only [houtcome, Workspace.endingOf, hregistry, hbegun.about, hbegun.ticket, hbegun.settings,
      hending] at hfinish
    exact ⟨record, hfinish⟩

theorem on_load (root : Path) (config : Option Config) (w : Workspace) :
    (load root config).on w =
      match (beginLoad root config).on w with
      | (.ok request, w') => (finish request).on w'
      | (.error fault, w') => (.error fault, w') := by
  rw [load, on_bind]
  cases (beginLoad root config).on w with
  | mk result w' => cases result <;> rfl

theorem load_leaves {root full : Path} (config : Option Config) (hfull : w.resolve root = .ok full)
    (hordered : w.registry.Ordered) :
    Loading w full (w.settingsFor full config) ((load root config).on w).2.registry := by
  rw [on_load]
  rcases beginLoad_cases root config w with ⟨fault, rs, hbegin, -⟩ | ⟨full', request, w', he, hbegin, hbegun⟩
  · rw [hbegin, Workspace.reportedAll_registry]
    exact .refused
  · cases hfull.symm.trans he
    have hfinish := finish_loadBegun hbegun hordered
    rw [hbegin]
    split at hfinish
    · simp only [hfinish]
      exact .faulted
    · next profile hloaded =>
      obtain ⟨record, hfinish⟩ := hfinish
      simp only [hfinish]
      exact .published record hloaded

/-- A project that can be read and compiled is published when it is loaded. -/
theorem load_publishes {full : Path} (hfull : w.resolve root = .ok full) (hordered : w.registry.Ordered)
    {profile : Profile} (hloaded : w.loaded full (w.settingsFor full config) = .ok profile) :
    ∃ record, ((load root config).on w).2.registry =
      w.registry.publishedNow full (w.settingsFor full config) profile record := by
  rw [on_load]
  rcases beginLoad_cases root config w with ⟨fault, rs, -, hfault⟩ | ⟨full', request, w', he, hbegin, hbegun⟩
  · rw [Workspace.loaded, hfault full hfull] at hloaded
    cases hloaded
  · cases hfull.symm.trans he
    have hfinish := finish_loadBegun hbegun hordered
    rw [hloaded] at hfinish
    rw [hbegin]
    exact hfinish

end Work

end SkipPath
