import SkipPath.Proofs.Files.Write
import SkipPath.Proofs.Workspace.Load

/-!
Telling that a file has changed.

A notice about a file comes to loading a project, if the file is the ignore file of a known one, and otherwise
to nothing but a report (`Work.on_notify`).  So it keeps the tickets in order and the settings of all projects
(`notify_ordered`, `notify_configs`), and it leaves the profiles of all projects but one alone.  What is reported
may go to a file; a workspace whose files differ from those of another one by such reports only
(`AfterReports`) has everything in common with it that loading goes by.
-/

namespace SkipPath

/-! ## 1. Reports and the folder one is in -/

namespace Log

variable (tree : Files.Tree)

theorem here_move (source target : Path) : (move tree source target).here = tree.here := by
  unfold move
  split
  · rfl
  · split
    · next hwrite =>
      rw [Files.Tree.here_write hwrite, Files.Tree.remove]
      split <;> rfl
    · rfl

theorem here_shift (path : Path) (n : Nat) : (shift tree path n).here = tree.here := by
  induction n generalizing tree with
  | zero => exact here_move tree _ _
  | succ n ih => exact (ih _).trans (here_move tree _ _)

theorem here_rotate (path : Path) (backups : Int) : (rotate tree path backups).here = tree.here := by
  unfold rotate
  split
  · rfl
  · exact here_shift tree path _

theorem here_appendTo (sink : FileSink) (line : Text) : (appendTo sink line tree).here = tree.here := by
  unfold appendTo
  extract_lets _ rotated content
  have hrotated : rotated.here = tree.here := by
    unfold rotated
    split
    · rfl
    · split
      · exact here_rotate tree _ _
      · rfl
  split
  · exact hrotated
  · split
    · next hwrite => rw [Files.Tree.here_write hwrite, hrotated]
    · exact hrotated

theorem here_store (setup : Setup) (stamp : Stamp) (r : Record) :
    (setup.store stamp r tree).here = tree.here := by
  unfold Setup.store
  split
  · rfl
  · exact here_appendTo tree _ _

end Log

namespace Workspace

variable (w : Workspace) (r : Log.Record) (rs : List Log.Record)

@[simp] theorem reported_here : (w.reported r).files.here = w.files.here := by
  unfold reported
  split
  · exact Log.here_store w.files w.logging w.stamp r
  · rfl

@[simp] theorem reportedAll_here : (w.reportedAll rs).files.here = w.files.here := by
  induction rs generalizing w with
  | nil => rfl
  | cons r rs ih => rw [reportedAll_cons, ih, reported_here]

/-- What reports do to the files is decided by the files and by where reports go. -/
theorem files_reportedAll_congr {w w' : Workspace} (hfiles : w'.files = w.files)
    (hlogging : w'.logging = w.logging) (hstamp : w'.stamp = w.stamp) :
    (w'.reportedAll rs).files = (w.reportedAll rs).files := by
  induction rs generalizing w w' with
  | nil => exact hfiles
  | cons r rs ih =>
    have hreported : (w'.reported r).files = (w.reported r).files := by
      unfold reported
      rw [hlogging]
      split
      · simp only [hfiles, hstamp]
      · exact hfiles
    exact ih hreported ((reportedAll_logging w' [r]).trans (hlogging.trans (reportedAll_logging w [r]).symm))
      ((reportedAll_stamp w' [r]).trans (hstamp.trans (reportedAll_stamp w [r]).symm))

/-- Reports that are not stored leave the files alone. -/
theorem files_reportedAll_of_no_sink {w : Workspace} (hsink : w.logging.file = none) :
    (w.reportedAll rs).files = w.files := by
  induction rs generalizing w with
  | nil => rfl
  | cons r rs ih =>
    have hreported : (w.reported r).files = w.files := by
      unfold reported Log.Setup.store
      rw [hsink]
      split <;> rfl
    have hlogging : (w.reported r).logging = w.logging := reportedAll_logging w [r]
    rw [reportedAll_cons, ih (hlogging ▸ hsink), hreported]

end Workspace

/-! ## 2. Workspaces that differ by reports -/

/-- The files of a workspace are those of another one after some reports, and what loading and reporting go
by is the same. -/
structure AfterReports (w w' : Workspace) : Prop where
  files : ∃ rs, w'.files = (w.reportedAll rs).files
  links : w'.links = w.links
  loader : w'.loader = w.loader
  logging : w'.logging = w.logging
  stamp : w'.stamp = w.stamp

namespace AfterReports

variable {w w' w'' : Workspace}

theorem reportedAll (w : Workspace) (rs : List Log.Record) : AfterReports w (w.reportedAll rs) where
  files := ⟨rs, rfl⟩
  links := Workspace.reportedAll_links w rs
  loader := Workspace.view_reportedAll w rs _ fun _ _ _ => rfl
  logging := Workspace.reportedAll_logging w rs
  stamp := Workspace.reportedAll_stamp w rs

theorem reported (w : Workspace) (r : Log.Record) : AfterReports w (w.reported r) := reportedAll w [r]

/-- What is neither read nor reported makes no difference. -/
theorem of_same (hfiles : w'.files = w.files) (hlinks : w'.links = w.links) (hloader : w'.loader = w.loader)
    (hlogging : w'.logging = w.logging) (hstamp : w'.stamp = w.stamp) : AfterReports w w' :=
  ⟨⟨[], hfiles⟩, hlinks, hloader, hlogging, hstamp⟩

theorem trans (h : AfterReports w w') (h' : AfterReports w' w'') : AfterReports w w'' := by
  obtain ⟨rs, hfiles⟩ := h.files
  obtain ⟨rs', hfiles'⟩ := h'.files
  refine ⟨⟨rs ++ rs', ?_⟩, h'.links.trans h.links, h'.loader.trans h.loader, h'.logging.trans h.logging,
    h'.stamp.trans h.stamp⟩
  rw [hfiles', ← Workspace.reportedAll_append]
  exact Workspace.files_reportedAll_congr rs' hfiles
    (h.logging.trans (Workspace.reportedAll_logging w rs).symm)
    (h.stamp.trans (Workspace.reportedAll_stamp w rs).symm)

theorem here (h : AfterReports w w') : w'.files.here = w.files.here := by
  obtain ⟨rs, hfiles⟩ := h.files
  rw [hfiles, Workspace.reportedAll_here]

theorem resolve (h : AfterReports w w') (p : Path) : w'.resolve p = w.resolve p := by
  rw [Workspace.resolve, Workspace.resolve, h.links, h.here]

end AfterReports

/-- No report is written to the ignore file of a project. -/
def Workspace.ReportsAside (w : Workspace) (root : Path) : Prop :=
  ∀ rs, w.loader.read (w.reportedAll rs).files root = w.loader.read w.files root

/-- Reports that are not written to the ignore file make no difference to loading. -/
theorem AfterReports.loaded {w w' : Workspace} (h : AfterReports w w') {root : Path}
    (haside : w.ReportsAside root) (config : Config) : w'.loaded root config = w.loaded root config := by
  obtain ⟨rs, hfiles⟩ := h.files
  have hread : w.loader.read w'.files root = w.loader.read w.files root := by
    rw [hfiles, haside rs]
  simp only [Workspace.loaded, Workspace.makingOf, Workspace.unread, h.loader, hread]

/-! ## 3. Notices -/

namespace Work

/-- What is reported of a notice. -/
def noticeRecord (level : Log.Level) (message : String) (file : Path) : Log.Record :=
  Log.record level registrySource (Text.ofString message ++ file.render)

/-- A notice about the ignore file of a known project begins to load it, any other one is only reported. -/
theorem on_beginNotice (file : Path) (w : Workspace) :
    (beginNotice file).on w =
      match w.resolve file with
      | .error fault => (.error fault, w)
      | .ok full =>
        if full.name != w.loader.fileName then
          (.ok none, w.reported (noticeRecord Log.debug "Not an ignore file: " full))
        else if !w.registry.isKnown full.parent then
          (.ok none, w.reported (noticeRecord Log.debug "Ignore file of unregistered root changed: " full))
        else
          match (beginLoad full.parent none).on
              (w.reported (noticeRecord Log.info "Reloading ignore file: " full)) with
          | (.ok request, w') => (.ok (some request), w')
          | (.error fault, w') => (.error fault, w') := by
  simp only [beginNotice, on_bind, on_fullPath]
  cases w.resolve file with
  | error fault => rfl
  | ok full =>
    simp only [on_get]
    by_cases hname : (full.name != w.loader.fileName) = true
    · rw [if_pos hname, if_pos hname]
      rfl
    · rw [if_neg hname, if_neg hname]
      by_cases hknown : (!w.registry.isKnown full.parent) = true
      · rw [if_pos hknown, if_pos hknown]
        rfl
      · rw [if_neg hknown, if_neg hknown]
        simp only [on_bind, on_say]
        rw [show Log.record Log.info registrySource (Text.ofString "Reloading ignore file: " ++ full.render) =
          noticeRecord Log.info "Reloading ignore file: " full from rfl]
        generalize (beginLoad full.parent none).on _ = begun
        obtain ⟨result, w'⟩ := begun
        cases result <;> rfl

/-- A notice about the ignore file of a known project comes to loading it, any other one to a report. -/
theorem on_notify (file : Path) (w : Workspace) :
    (notify file).on w =
      match w.resolve file with
      | .error fault => (.error fault, w)
      | .ok full =>
        if full.name != w.loader.fileName then
          (.ok none, w.reported (noticeRecord Log.debug "Not an ignore file: " full))
        else if !w.registry.isKnown full.parent then
          (.ok none, w.reported (noticeRecord Log.debug "Ignore file of unregistered root changed: " full))
        else
          match (load full.parent none).on
              (w.reported (noticeRecord Log.info "Reloading ignore file: " full)) with
          | (.ok held, w') => (.ok (some held), w')
          | (.error fault, w') => (.error fault, w') := by
  rw [notify, on_bind, on_beginNotice]
  cases w.resolve file with
  | error fault => rfl
  | ok full =>
    simp only
    by_cases hname : (full.name != w.loader.fileName) = true
    · rw [if_pos hname, if_pos hname]
      rfl
    · rw [if_neg hname, if_neg hname]
      by_cases hknown : (!w.registry.isKnown full.parent) = true
      · rw [if_pos hknown, if_pos hknown]
        rfl
      · rw [if_neg hknown, if_neg hknown, on_load]
        generalize (beginLoad full.parent none).on _ = begun
        obtain ⟨result, w'⟩ := begun
        cases result with
        | error fault => rfl
        | ok request =>
          simp only [on_pure, on_bind]
          cases (finish request).on w' with
          | mk result w'' => cases result <;> rfl

/-- A notice about the ignore file of a known project. -/
theorem on_notify_of_known {file full : Path} {w : Workspace} (hfull : w.resolve file = .ok full)
    (hname : full.name = w.loader.fileName) (hknown : w.registry.isKnown full.parent = true) :
    (notify file).on w =
      match (load full.parent none).on
          (w.reported (noticeRecord Log.info "Reloading ignore file: " full)) with
      | (.ok held, w') => (.ok (some held), w')
      | (.error fault, w') => (.error fault, w') := by
  rw [on_notify, hfull]
  simp only [hname, hknown, bne_self_eq_false, Bool.not_true, Bool.false_eq_true, if_false]

/-- What a notice leaves: the workspace after a report, or after the project of the file was loaded. -/
theorem notify_cases (file : Path) (w : Workspace) :
    (∃ rs, ((notify file).on w).2 = w.reportedAll rs) ∨
    ∃ full, w.resolve file = .ok full ∧ full.name = w.loader.fileName ∧
      ∃ r, ((notify file).on w).2 = ((load full.parent none).on (w.reported r)).2 := by
  rw [on_notify]
  cases w.resolve file with
  | error fault => exact .inl ⟨[], rfl⟩
  | ok full =>
    simp only
    split
    · exact .inl ⟨[_], rfl⟩
    · next hname =>
      split
      · exact .inl ⟨[_], rfl⟩
      · refine .inr ⟨full, rfl, by simpa using hname,
          noticeRecord Log.info "Reloading ignore file: " full, ?_⟩
        cases (load full.parent none).on _ with
        | mk result w' => cases result <;> rfl

/-- Reports leave settled paths settled. -/
theorem resolve_parent {file full : Path} {w : Workspace} (hfull : w.resolve file = .ok full)
    (r : Log.Record) : (w.reported r).resolve full.parent = .ok full.parent := by
  rw [(AfterReports.reported w r).resolve]
  exact (Workspace.settled_of_resolve hfull).parent.resolve

section registry

variable (file : Path) {w : Workspace} (hordered : w.registry.Ordered)
include hordered

/-- What a notice leaves of the registry. -/
theorem notify_leaves :
    ((notify file).on w).2.registry = w.registry ∨
    ∃ full, w.resolve file = .ok full ∧ full.name = w.loader.fileName ∧
      ∃ r, Loading (w.reported r) full.parent (w.registry.configFor full.parent)
        ((notify file).on w).2.registry := by
  rcases notify_cases file w with ⟨rs, hreports⟩ | ⟨full, hfull, hname, r, hload⟩
  · rw [hreports, Workspace.reportedAll_registry]
    exact .inl rfl
  · have hleaves := load_leaves none (resolve_parent hfull r)
      ((Workspace.reported_registry w r).symm ▸ hordered)
    rw [Workspace.settingsFor, Option.getD_none, Workspace.reported_registry] at hleaves
    rw [hload]
    exact .inr ⟨full, hfull, hname, r, hleaves⟩

theorem notify_ordered : ((notify file).on w).2.registry.Ordered := by
  rcases notify_leaves file hordered with hsame | ⟨_, _, _, r, hloading⟩
  · rw [hsame]
    exact hordered
  · exact hloading.ordered ((Workspace.reported_registry w r).symm ▸ hordered)

/-- A project that is loaded because of a notice keeps its settings. -/
theorem notify_configs {root : Path} {config : Config}
    (hknown : w.registry.configs.get? root = some config) :
    ((notify file).on w).2.registry.configs.get? root = some config := by
  rcases notify_leaves file hordered with hsame | ⟨_, _, _, r, hloading⟩
  · rw [hsame]
    exact hknown
  · refine hloading.configs ((Workspace.reported_registry w r).symm ▸ hknown) fun he => ?_
    rw [← he, Registry.configFor, hknown, Option.getD_some]

/-- A notice about another file makes no difference to a project. -/
theorem notify_other {root : Path}
    (hother : ∀ full, w.resolve file = .ok full → ¬ (full.name = w.loader.fileName ∧ full.parent = root)) :
    ((notify file).on w).2.registry.get? root = w.registry.get? root := by
  rcases notify_leaves file hordered with hsame | ⟨full, hfull, hname, r, hloading⟩
  · rw [hsame]
  · rw [hloading.get?_other fun he => hother full hfull ⟨hname, he.symm⟩, Workspace.reported_registry]

/-- A notice about the ignore file of a known project that can be read and compiled publishes what comes of
it. -/
theorem notify_publishes {full root : Path} {config : Config} {profile : Profile}
    (hfull : w.resolve file = .ok full) (hname : full.name = w.loader.fileName) (hparent : full.parent = root)
    (hknown : w.registry.configs.get? root = some config)
    (hloaded : ∀ r, (w.reported r).loaded root config = .ok profile) :
    ∃ record, ((notify file).on w).2.registry = w.registry.publishedNow root config profile record := by
  subst hparent
  have hisKnown : w.registry.isKnown full.parent = true := by
    rw [Registry.isKnown, Table.contains, hknown]
    rfl
  rw [on_notify_of_known hfull hname hisKnown]
  generalize noticeRecord Log.info "Reloading ignore file: " _ = r
  have hconfig : (w.reported r).settingsFor full.parent none = config := by
    rw [Workspace.settingsFor, Option.getD_none, Workspace.reported_registry, Registry.configFor, hknown,
      Option.getD_some]
  have hpublishes : ∃ record, ((load full.parent none).on (w.reported r)).2.registry =
      (w.reported r).registry.publishedNow _ _ profile record :=
    load_publishes (resolve_parent hfull r) ((Workspace.reported_registry w r).symm ▸ hordered)
      (by rw [hconfig, hloaded r])
  rw [hconfig, Workspace.reported_registry] at hpublishes
  revert hpublishes
  generalize (load full.parent none).on (w.reported r) = loaded
  obtain ⟨result, w'⟩ := loaded
  cases result <;> exact id

end registry

/-! ## 4. What notices leave alone -/

section views

variable {β : Type} (view : Workspace → β)
  (h : ∀ v output files ledger registry, view { v with
    output := output, files := files, ledger := ledger, registry := registry } = view v)
include h

theorem view_load (root : Path) (config : Option Config) (w : Workspace) :
    view ((load root config).on w).2 = view w := by
  have hreports : ∀ rs, view (w.reportedAll rs) = view w := fun rs =>
    Workspace.view_reportedAll w rs view fun v output files => h v output files v.ledger v.registry
  rw [on_load]
  rcases beginLoad_cases root config w with
    ⟨fault, rs, hbegin, -⟩ | ⟨full, request, w', -, hbegin, hbegun⟩
  · rw [hbegin]
    exact hreports rs
  · obtain ⟨rs, hw'⟩ := hbegun.workspace
    rw [hbegin]
    show view ((finish request).on w').2 = view w
    rw [view_finish view h, hw']
    exact (h (w.reportedAll rs) _ _ _ _).trans (hreports rs)

theorem view_notify (file : Path) (w : Workspace) : view ((notify file).on w).2 = view w := by
  have hreports : ∀ rs, view (w.reportedAll rs) = view w := fun rs =>
    Workspace.view_reportedAll w rs view fun v output files => h v output files v.ledger v.registry
  rcases notify_cases file w with ⟨rs, he⟩ | ⟨_, _, _, r, he⟩
  · rw [he, hreports]
  · rw [he, view_load view h]
    exact hreports [r]

end views

section here

variable {w : Workspace} (hwriter : ∀ tree path content, (w.writer tree path content).1.here = tree.here)
include hwriter

/-- One stays in the folder one is in when a profile is exported. -/
theorem here_exportProfile (held : Held) (force : Bool) :
    ((exportProfile held force).on w).2.files.here = w.files.here := by
  rw [on_exportProfile]
  split
  · rfl
  split
  · rfl
  next script _ =>
    cases w.exportPlan held script force with
    | nothing => rfl
    | inlined pattern => rfl
    | done script => exact Workspace.reported_here w _
    | write a =>
      simp only
      split
      · rfl
      · rw [Workspace.reportedAll_here]
        exact hwriter w.files a.script _

theorem here_finish (request : Request) : ((finish request).on w).2.files.here = w.files.here := by
  have hleft := finish_leaves request w
  generalize ((finish request).on w).2 = left at hleft
  cases hleft with
  | faulted _ => exact Workspace.reportedAll_here w _
  | idle _ _ r => exact (Workspace.reported_here _ r).trans (Workspace.reportedAll_here w _)
  | exported _ _ rs =>
    rw [Workspace.reportedAll_here, here_exportProfile]
    · exact Workspace.reportedAll_here w _
    · rw [Workspace.concluded, Workspace.reportedAll_writer]
      exact hwriter

theorem here_load (root : Path) (config : Option Config) :
    ((load root config).on w).2.files.here = w.files.here := by
  rw [on_load]
  rcases beginLoad_cases root config w with
    ⟨fault, rs, hbegin, -⟩ | ⟨full, request, w', -, hbegin, hbegun⟩
  · rw [hbegin]
    exact Workspace.reportedAll_here w rs
  · obtain ⟨rs, hw'⟩ := hbegun.workspace
    have hwriter' : ∀ tree path content, (w'.writer tree path content).1.here = tree.here := by
      rw [hw', Workspace.reportedAll_writer]
      exact hwriter
    rw [hbegin]
    show ((finish request).on w').2.files.here = w.files.here
    rw [here_finish hwriter', hw']
    exact Workspace.reportedAll_here w rs

theorem here_notify (file : Path) : ((notify file).on w).2.files.here = w.files.here := by
  rcases notify_cases file w with ⟨rs, he⟩ | ⟨_, _, _, r, he⟩
  · rw [he, Workspace.reportedAll_here]
  · rw [he, here_load, Workspace.reported_here]
    rw [show (w.reported r).writer = w.writer from Workspace.reportedAll_writer w [r]]
    exact hwriter

end here

/-! ## 5. Files that are gone -/

/-- A profile without a pattern to use is not exported, so that nothing but reports can touch a file. -/
theorem finish_unusable {w w' : Workspace} {root : Path} {config : Config} {request : Request}
    (hbegun : LoadBegun w root config request w') {profile : Profile}
    (hloaded : w.loaded root config = .ok profile) (hunusable : profile.isUsable = false) :
    ∃ held w'', (finish request).on w' = (.ok held, w'') ∧ AfterReports w w'' := by
  obtain ⟨rs, hw'⟩ := hbegun.workspace
  have houtcome : request.outcome = .ok profile := by
    rw [← hloaded, Workspace.loaded, hbegun.making]
    rfl
  have hafter : AfterReports w w' := by
    rw [hw']
    exact (AfterReports.reportedAll w rs).trans (.of_same rfl rfl rfl rfl rfl)
  let made := w'.reportedAll request.records
  have hdone : AfterReports w (made.concluded request profile) :=
    (hafter.trans (.reportedAll w' _)).trans (.of_same rfl rfl rfl rfl rfl)
  rw [on_finish, houtcome]
  simp only
  split
  · exact ⟨_, _, rfl, hdone.trans (.reported _ _)⟩
  · exact ⟨_, _, rfl, hdone.trans (.reported _ _)⟩
  · rw [hunusable]
    exact ⟨_, _, rfl, hdone.trans (.reported _ _)⟩

/-- A notice about a file that is gone ends without a fault, and only reports can touch a file. -/
theorem notify_gone {file full : Path} {w : Workspace} (hfull : w.resolve file = .ok full)
    (hgone : full.name = w.loader.fileName → w.registry.isKnown full.parent = true → ∀ r, ∃ profile,
      (w.reported r).loaded full.parent (w.registry.configFor full.parent) = .ok profile ∧
        profile.isUsable = false) :
    ∃ held w', (notify file).on w = (.ok held, w') ∧ AfterReports w w' := by
  have hnotify := on_notify file w
  rw [hfull] at hnotify
  by_cases hname : full.name = w.loader.fileName
  · cases hknown : w.registry.isKnown full.parent with
    | true =>
      rw [on_notify_of_known hfull hname hknown, on_load]
      generalize noticeRecord Log.info "Reloading ignore file: " _ = r
      obtain ⟨profile, hloaded, hunusable⟩ := hgone hname hknown r
      rcases beginLoad_cases full.parent none (w.reported r) with
        ⟨fault, rs, -, hfault⟩ | ⟨root, request, w', hroot, hbegin, hbegun⟩
      · have hmaking := hfault full.parent (resolve_parent hfull r)
        rw [Workspace.settingsFor, Option.getD_none, Workspace.reported_registry] at hmaking
        rw [Workspace.loaded, hmaking] at hloaded
        cases hloaded
      · cases (resolve_parent hfull r).symm.trans hroot
        rw [Workspace.settingsFor, Option.getD_none, Workspace.reported_registry] at hbegun
        obtain ⟨held, w'', hfinish, hafter⟩ := finish_unusable hbegun hloaded hunusable
        refine ⟨some held, w'', ?_, (AfterReports.reported w r).trans hafter⟩
        simp only [hbegin, hfinish]
    | false =>
      simp only [hname, hknown, bne_self_eq_false, Bool.not_false, Bool.false_eq_true, if_false,
        if_true] at hnotify
      exact ⟨none, _, hnotify, .reported w _⟩
  · simp only [bne_iff_ne.mpr hname, if_true] at hnotify
    exact ⟨none, _, hnotify, .reported w _⟩

end Work

end SkipPath
