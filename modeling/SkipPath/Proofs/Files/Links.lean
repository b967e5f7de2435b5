import SkipPath.Proofs.Results
import SkipPath.Workspace.Basic

/-!
Resolved paths.

What a resolution arrives at is settled (`Links.settled_of_resolve`): it starts from the root, has no way up
and no link in it, and a system takes it.  A settled path resolves to itself, from any folder
(`Path.Settled.resolve`), and so do the folders above it.  Both are about one name at a time: `Links.step` keeps
what is settled, and it finds a settled path name by name.
-/

namespace SkipPath

/-! ## 1. Paths that a system takes -/

namespace Text.Utf8

theorem refusalFrom_eq_none {escaping : Bool} {position : Nat} {t : Text} :
    refusalFrom escaping position t = none ↔ ∀ c ∈ t, isWritable escaping c = true := by
  induction t generalizing position with
  | nil => simp [refusalFrom]
  | cons c t ih =>
    rw [refusalFrom, List.forall_mem_cons]
    cases isWritable escaping c with
    | false => simp
    | true => simp [ih]

end Text.Utf8

/-- What holds of a dot and a slash holds of the text of a path if it holds of its names. -/
theorem Path.forall_mem_render (P : CodePoint → Prop) (hdot : P '.') (hslash : P '/') (p : Path) :
    (∀ c ∈ p.render, P c) ↔ ∀ name ∈ p.names, ∀ c ∈ name, P c := by
  have hjoin : ∀ names : List Text, (∀ c ∈ Text.join [.char '/'] names, P c) ↔
      ∀ name ∈ names, ∀ c ∈ name, P c := by
    intro names
    induction names using Text.join.induct with
    | case1 => simp [Text.join]
    | case2 t => simp [Text.join]
    | case3 t names hnames ih =>
      rw [Text.join, List.forall_mem_append, List.forall_mem_append, ih, List.forall_mem_cons]
      · simp [hslash]
      · exact hnames
  unfold render
  split
  · next hempty =>
    have hnone : p.names = [] := List.isEmpty_iff.mp (Bool.and_eq_true_iff.mp hempty).2
    simp [hnone, hdot]
  · rw [List.forall_mem_append, hjoin]
    refine and_iff_right ?_
    cases p.anchor <;> simp [anchorText, hslash]

/-- A path that no system takes is a fault, and no other one. -/
theorem Fault.ofPath?_eq_none {p : Path} : ofPath? p = none ↔ p.isWritable = true := by
  have hnames : p.isWritable = true ↔ (∀ c ∈ p.render, Text.Utf8.isWritable true c = true) ∧
      ∀ c ∈ p.render, c ≠ .char '\x00' := by
    rw [p.forall_mem_render (Text.Utf8.isWritable true · = true) rfl rfl,
      p.forall_mem_render (· ≠ .char '\x00') (by decide) (by decide)]
    simp only [Path.isWritable, Path.isWritableName, List.all_eq_true, Bool.and_eq_true, bne_iff_ne, forall_and]
  have hnul : (∀ c ∈ p.render, c ≠ .char '\x00') ↔ p.render.contains (.char '\x00') = false := by
    rw [← Bool.not_eq_true, List.contains_iff_mem]
    exact ⟨fun h hmem => h _ hmem rfl, fun h c hc he => h (he ▸ hc)⟩
  have hencoded : (∀ c ∈ p.render, Text.Utf8.isWritable true c = true) ↔
      Text.Utf8.nameRefusal? p.render = none := Text.Utf8.refusalFrom_eq_none.symm
  rw [hnames, hencoded, hnul, ofPath?]
  cases Text.Utf8.nameRefusal? p.render with
  | some refusal => simp
  | none => cases p.render.contains (.char '\x00') <;> simp

theorem Fault.not_isWritable {p : Path} {fault : Fault} (h : ofPath? p = some fault) : ¬ p.isWritable = true := by
  rw [← ofPath?_eq_none, h]
  exact Option.some_ne_none fault

theorem Path.isWritable_child {p : Path} {name : Text} :
    (p.child name).isWritable = true ↔ p.isWritable = true ∧ isWritableName name = true := by
  simp [isWritable, child]

/-! ## 2. Settled paths -/

namespace Path.Settled

variable {leads : Path → Option Path} {p : Path}

theorem anchor (h : p.Settled leads) : p.anchor = .root := by
  induction h with
  | root => rfl
  | child _ _ _ _ ih => exact ih

theorem isWritable (h : p.Settled leads) : p.isWritable = true := by
  induction h with
  | root => rfl
  | child _ _ hwritable _ ih => exact isWritable_child.mpr ⟨ih, hwritable⟩

theorem parent (h : p.Settled leads) : p.parent.Settled leads := by
  cases h with
  | root => exact .root
  | child hfolder _ _ _ =>
    rw [Path.parent, Path.child, List.dropLast_concat]
    exact hfolder

end Path.Settled

namespace Links

variable {links : Links} {here p q : Path}

theorem step_settled {reached next : Reached} {name : Text} (h : reached.path.Settled links.leads)
    (hstep : links.step reached name = .ok next) : next.path.Settled links.leads := by
  unfold step at hstep
  split at hstep
  · cases hstep
    exact h.parent
  · next hname =>
    simp only at hstep
    split at hstep
    · cases hstep
    · cases hstep
    · next path hwritable hleads =>
      cases hstep
      exact links.settled h hname (Path.isWritable_child.mp (Fault.ofPath?_eq_none.mp hwritable)).2 hleads

theorem foldlM_settled {names : List Text} {reached last : Reached} (h : reached.path.Settled links.leads)
    (hlast : names.foldlM links.step reached = .ok last) : last.path.Settled links.leads := by
  induction names generalizing reached with
  | nil =>
    cases hlast
    exact h
  | cons name names ih =>
    rw [List.foldlM_cons] at hlast
    obtain ⟨next, hstep, hlast⟩ := bind_eq_ok.mp hlast
    exact ih (step_settled h hstep) hlast

/-- A path is resolved name by name, from a settled one. -/
theorem foldlM_of_resolve (h : links.resolve here p = .ok q) :
    ∃ reached last : Reached, reached.path.Settled links.leads ∧
      p.names.foldlM links.step reached = .ok last ∧ last.path = q := by
  unfold resolve at h
  split at h
  · obtain ⟨last, hlast, hq⟩ := bind_eq_ok.mp h
    exact ⟨start, last, .root, hlast, Except.ok.inj hq⟩
  · obtain ⟨folder, hfolder, h⟩ := bind_eq_ok.mp h
    obtain ⟨last, hlast, hq⟩ := bind_eq_ok.mp h
    have hsettled : folder.path.Settled links.leads := foldlM_settled .root hfolder
    exact ⟨{ asked := { anchor := .here, names := [] }, path := folder.path }, last, hsettled, hlast,
      Except.ok.inj hq⟩

/-- Resolving gives settled paths. -/
theorem settled_of_resolve (h : links.resolve here p = .ok q) : q.Settled links.leads := by
  obtain ⟨reached, last, hreached, hlast, rfl⟩ := foldlM_of_resolve h
  exact foldlM_settled hreached hlast

theorem step_writable {reached next : Reached} {name : Text} (hstep : links.step reached name = .ok next) :
    Path.isWritableName name = true := by
  unfold step at hstep
  split at hstep
  · next hname =>
    rw [hname]
    rfl
  · simp only at hstep
    split at hstep
    · cases hstep
    · cases hstep
    · next hwritable _ => exact (Path.isWritable_child.mp (Fault.ofPath?_eq_none.mp hwritable)).2

theorem foldlM_writable {names : List Text} {reached last : Reached}
    (hlast : names.foldlM links.step reached = .ok last) : ∀ name ∈ names, Path.isWritableName name = true := by
  induction names generalizing reached with
  | nil => exact fun _ hmem => absurd hmem List.not_mem_nil
  | cons name names ih =>
    rw [List.foldlM_cons] at hlast
    obtain ⟨next, hstep, hlast⟩ := bind_eq_ok.mp hlast
    exact List.forall_mem_cons.mpr ⟨step_writable hstep, ih hlast⟩

/-- Only paths that a system takes are resolved. -/
theorem isWritable_of_resolve (h : links.resolve here p = .ok q) : p.isWritable = true := by
  obtain ⟨_, _, -, hlast, -⟩ := foldlM_of_resolve h
  exact List.all_eq_true.mpr (foldlM_writable hlast)

/-- A path from the root is resolved in the same way from every folder. -/
theorem resolve_of_root (hroot : p.anchor = .root) (here here' : Path) :
    links.resolve here p = links.resolve here' p := by
  have habsolute : p.isAbsolute = true := by rw [Path.isAbsolute, hroot]; rfl
  rw [resolve, resolve, if_pos habsolute, if_pos habsolute]

end Links

theorem Path.Settled.foldlM_step {links : Links} {p : Path} (h : p.Settled links.leads) :
    p.names.foldlM links.step Links.start = .ok { asked := p, path := p } := by
  induction h with
  | root => rfl
  | @child folder name hfolder hname hwritable hleads ih =>
    have htaken : Fault.ofPath? (folder.child name) = none :=
      Fault.ofPath?_eq_none.mpr (Path.isWritable_child.mpr ⟨hfolder.isWritable, hwritable⟩)
    have hstep : links.step { asked := folder, path := folder } name =
        .ok { asked := folder.child name, path := folder.child name } := by
      simp only [Links.step, if_neg hname, htaken, hleads, if_true]
    show (folder.names ++ [name]).foldlM links.step Links.start = _
    rw [List.foldlM_append, ih]
    show links.step { asked := folder, path := folder } name >>= pure = _
    rw [hstep]
    rfl

/-- A settled path is resolved to itself. -/
theorem Path.Settled.resolve {links : Links} {p : Path} (h : p.Settled links.leads) (here : Path) :
    links.resolve here p = .ok p := by
  have habsolute : p.isAbsolute = true := by rw [isAbsolute, h.anchor]; rfl
  rw [Links.resolve, if_pos habsolute, h.foldlM_step]
  rfl

/-! ## 3. In a workspace -/

namespace Workspace

variable {w w' : Workspace} {p q : Path}

/-- A path is settled in a workspace if no link is in it there. -/
def Settled (w : Workspace) (p : Path) : Prop := p.Settled w.links.leads

theorem settled_of_resolve (h : w.resolve p = .ok q) : w.Settled q := Links.settled_of_resolve h

theorem isWritable_of_resolve (h : w.resolve p = .ok q) : p.isWritable = true := Links.isWritable_of_resolve h

theorem Settled.resolve (h : w.Settled p) : w.resolve p = .ok p := Path.Settled.resolve h _

theorem Settled.anchor (h : w.Settled p) : p.anchor = .root := Path.Settled.anchor h

theorem Settled.parent (h : w.Settled p) : w.Settled p.parent := Path.Settled.parent h

/-- A path from the root is resolved in the same way as long as the links stay. -/
theorem resolve_of_root (hroot : p.anchor = .root) (hlinks : w'.links = w.links) :
    w'.resolve p = w.resolve p := by
  rw [resolve, resolve, hlinks]
  exact Links.resolve_of_root hroot _ _

end Workspace

end SkipPath
