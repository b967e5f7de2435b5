import SkipPath.Fault

/-!
Where paths lead, as `os.path.realpath` finds it.

A path is resolved name by name from the root: `..` goes back to the folder above, any other name leads to
what a link there leads to, or stays.  What is the system's is taken from outside: `leads` says where one
more name leads from a folder whose own path is resolved.  All that is asked of it is that it leads to a
resolved path, one that leads to itself together with all folders above it.
-/

namespace SkipPath

/-- A path that is resolved: from the root, without `..` and without links. -/
inductive Path.Settled (leads : Path → Option Path) : Path → Prop where
  | root : Settled leads { anchor := .root, names := [] }
  | child {folder : Path} {name : Text} (hfolder : Settled leads folder) (hname : name ≠ Path.up)
      (hwritable : Path.isWritableName name = true)
      (hleads : leads (folder.child name) = some (folder.child name)) :
      Settled leads (folder.child name)

/-- The links of a system. -/
structure Links where
  /-- Where a path leads whose folder is resolved; nowhere if links go in a circle. -/
  leads : Path → Option Path
  /-- It leads to a resolved path. -/
  settled : ∀ {folder : Path} {name : Text} {path : Path}, folder.Settled leads → name ≠ Path.up →
    Path.isWritableName name = true → leads (folder.child name) = some path → path.Settled leads

namespace Links

/-- A system without links. -/
def absent : Links where
  leads := some
  settled := by
    intro folder name path hfolder hname hwritable hleads
    cases hleads
    exact .child hfolder hname hwritable rfl

/-- How far a path was resolved. -/
structure Reached where
  /-- The path as the system is asked for it: a relative one stays relative up to the first link. -/
  asked : Path
  /-- Where that leads. -/
  path : Path

/-- The folder above, as the system is asked for it. -/
def above (asked : Path) : Path :=
  if asked.names.isEmpty then if asked.isAbsolute then asked else asked.child Path.up
  else if asked.name = Path.up then asked.child Path.up
  else asked.parent

/-- One more name. -/
def step (links : Links) (reached : Reached) (name : Text) : Except Fault Reached :=
  if name = Path.up then .ok { asked := above reached.asked, path := reached.path.parent }
  else
    let asked := reached.asked.child name
    match Fault.ofPath? asked, links.leads (reached.path.child name) with
    | some fault, _ => .error fault
    | none, none => .error (.linkCircle asked)
    | none, some path =>
      .ok { asked := if path = reached.path.child name then asked else path, path := path }

/-- The root, to begin with. -/
def start : Reached :=
  { asked := { anchor := .root, names := [] }, path := { anchor := .root, names := [] } }

/-- The resolved path of a path taken from the folder `here`. -/
def resolve (links : Links) (here p : Path) : Except Fault Path := do
  if p.isAbsolute then return (← p.names.foldlM links.step start).path
  else
    let folder ← here.names.foldlM links.step start
    return (← p.names.foldlM links.step
      { asked := { anchor := .here, names := [] }, path := folder.path }).path

end Links

end SkipPath
