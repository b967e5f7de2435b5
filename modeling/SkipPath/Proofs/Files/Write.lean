import SkipPath.Files.Tree

/-!
What writing a file leaves alone.

A file is written into a folder that is made on the way.  Whether that succeeds or fails somewhere in
between, the other files of the folder stay as they are; and if it succeeds, the file holds what was
written.  A way to write files with these two properties is lawful (`Tree.Lawful`), and `Tree.ensureFile`
is.  The proofs go by the order of trees in which what is there stays there.  If the folder is there before,
even what cannot be read stays so (`content?_ensureFile_other`).
-/

namespace SkipPath.Files.Tree

/-! ## 1. Laws of writing -/

/-- A name that leads to something inside a folder. -/
def IsInner (name : Text) : Prop := name ≠ [.char '.', .char '.']

/-- The files in a folder that can be read in one tree have the same content in another one. -/
def KeepsFiles (folder : Path) (t t' : Tree) : Prop :=
  ∀ name content, IsInner name → t.read (folder.child name) = .ok content →
    t'.read (folder.child name) = .ok content

theorem KeepsFiles.refl (folder : Path) (t : Tree) : KeepsFiles folder t t := fun _ _ _ h => h

theorem KeepsFiles.trans {folder : Path} {t t' t'' : Tree} (h : KeepsFiles folder t t')
    (h' : KeepsFiles folder t' t'') : KeepsFiles folder t t'' :=
  fun name content hname hread => h' name content hname (h name content hname hread)

/-- What a way to write files into a folder has to grant. -/
structure Lawful (folder : Path) (write : Writer) : Prop where
  /-- A file that was written without trouble holds what was written. -/
  holds : ∀ (t t' : Tree) name content, IsInner name →
    write t (folder.child name) content = (t', none) → t'.read (folder.child name) = .ok content
  /-- The other files of the folder stay as they are, even if there is trouble. -/
  keeps : ∀ (t : Tree) name content other kept, IsInner name → IsInner other → other ≠ name →
    t.read (folder.child other) = .ok kept →
    (write t (folder.child name) content).1.read (folder.child other) = .ok kept

/-! ## 2. Trees that only grow -/

/-- Everything in one tree is in another one too. -/
structure Grows (t t' : Tree) : Prop where
  here : t'.here = t.here
  entries : ∀ place entry, t.entryAt? place = some entry → t'.entryAt? place = some entry

theorem Grows.refl (t : Tree) : Grows t t := ⟨rfl, fun _ _ h => h⟩

theorem Grows.trans {t t' t'' : Tree} (h : Grows t t') (h' : Grows t' t'') : Grows t t'' :=
  ⟨h'.here.trans h.here, fun place entry he => h'.entries place entry (h.entries place entry he)⟩

theorem entryAt?_put (t : Tree) {place : Place} (hplace : place ≠ []) (entry : Entry) (other : Place) :
    (t.put place entry).entryAt? other = if other = place then some entry else t.entryAt? other := by
  unfold entryAt? put
  rw [Table.get?_put]
  cases other with
  | nil =>
    show some Entry.folder = if [] = place then some entry else some Entry.folder
    rw [if_neg (Ne.symm hplace)]
  | cons name names => rfl

/-- An entry where nothing was leaves everything else. -/
theorem Grows.put {t : Tree} {place : Place} (h : t.entryAt? place = none) (entry : Entry) :
    Grows t (t.put place entry) := by
  have hplace : place ≠ [] := fun he => by rw [he] at h; cases h
  refine ⟨rfl, fun other found hfound => ?_⟩
  rw [entryAt?_put t hplace]
  split
  · next he => rw [he, h] at hfound; cases hfound
  · exact hfound

/-- A step of a walk is possible only from a folder, and what it comes to does not depend on the tree. -/
theorem walkStep_ok {t : Tree} {place next : Place} {name : Text}
    (h : t.walkStep place name = .ok next) :
    t.entryAt? place = some .folder ∧
      ∀ t' : Tree, t'.entryAt? place = some .folder → t'.walkStep place name = .ok next := by
  unfold walkStep at h
  cases he : t.entryAt? place with
  | none => rw [he] at h; cases h
  | some entry =>
    cases entry with
    | file content => rw [he] at h; cases h
    | folder =>
      refine ⟨rfl, fun t' he' => ?_⟩
      rw [he] at h
      unfold walkStep
      rw [he']
      exact h

/-- A walk that succeeds comes to the same place in every tree in which the folders on the way are. -/
theorem foldlM_walkStep {t t' : Tree}
    (h : ∀ place, t.entryAt? place = some .folder → t'.entryAt? place = some .folder)
    {names : List Text} {first last : Place} (hwalk : names.foldlM t.walkStep first = .ok last) :
    names.foldlM t'.walkStep first = .ok last := by
  induction names generalizing first with
  | nil => exact hwalk
  | cons name names ih =>
    rw [List.foldlM_cons] at hwalk ⊢
    cases hstep : t.walkStep first name with
    | error cause => rw [hstep] at hwalk; cases hwalk
    | ok next =>
      rw [hstep] at hwalk
      obtain ⟨hfolder, hsame⟩ := walkStep_ok hstep
      rw [hsame t' (h first hfolder)]
      exact ih hwalk

theorem walk_of_folders {t t' : Tree} (hhere : t'.here = t.here)
    (h : ∀ place, t.entryAt? place = some .folder → t'.entryAt? place = some .folder) {p : Path}
    {place : Place} (hwalk : t.walk p = .ok place) : t'.walk p = .ok place := by
  unfold walk at hwalk ⊢
  split at hwalk
  · cases hwalk
  · next hsize =>
    rw [if_neg hsize, hhere]
    exact foldlM_walkStep h hwalk

theorem lookup_of_walk {t : Tree} {p : Path} {place : Place} (h : t.walk p = .ok place) :
    t.lookup p = (t.entryAt? place).elim (.error .noSuchFile) .ok := by
  rw [lookup, h, show Except.ok place = (pure place : Except Cause Place) from rfl, pure_bind]
  cases t.entryAt? place <;> rfl

/-- A file is read at the place where the walk to it ends. -/
theorem read_eq_ok {t : Tree} {p : Path} {content : List UInt8} :
    t.read p = .ok content ↔ ∃ place, t.walk p = .ok place ∧ t.entryAt? place = some (.file content) := by
  constructor
  · intro h
    cases hwalk : t.walk p with
    | error cause =>
      have hlookup : t.lookup p = .error cause := by rw [lookup, hwalk]; rfl
      rw [read, hlookup] at h
      cases h
    | ok place =>
      refine ⟨place, rfl, ?_⟩
      rw [read, lookup_of_walk hwalk] at h
      cases he : t.entryAt? place with
      | none => simp [he] at h
      | some entry =>
        cases entry with
        | folder => simp [he] at h
        | file found =>
          rw [he] at h
          cases h
          rfl
  · rintro ⟨place, hwalk, he⟩
    rw [read, lookup_of_walk hwalk, he]
    rfl

theorem Grows.read {t t' : Tree} (h : Grows t t') {p : Path} {content : List UInt8}
    (hread : t.read p = .ok content) : t'.read p = .ok content := by
  obtain ⟨place, hwalk, he⟩ := read_eq_ok.mp hread
  exact read_eq_ok.mpr ⟨place, walk_of_folders h.here (fun place => h.entries place _) hwalk,
    h.entries _ _ he⟩

/-! ## 3. Making folders and writing files -/

theorem Grows.makeFolder {t t' : Tree} {p : Path} (h : t.makeFolder p = .ok t') : Grows t t' := by
  unfold Tree.makeFolder at h
  split at h
  · cases h
  · next place hwalk =>
    split at h
    · cases h; exact .refl t
    · cases h
    · next hnone =>
      split at h
      · cases h; exact .put hnone .folder
      · cases h

/-- Making folders adds folders only, even if it fails. -/
theorem Grows.makeFolders (t : Tree) (p : Path) (depth : Nat) :
    Grows t (t.makeFolders p depth).1 := by
  induction depth generalizing t p with
  | zero => exact .refl t
  | succ depth ih =>
    unfold Tree.makeFolders
    cases hfirst : t.makeFolder p with
    | ok t₁ => exact .makeFolder hfirst
    | error e =>
      simp only
      split
      · have hparents := ih t p.parent
        cases hmade : t.makeFolders p.parent depth with
        | mk t₂ trouble =>
          rw [hmade] at hparents
          cases trouble with
          | some e => exact hparents
          | none =>
            simp only
            cases hagain : t₂.makeFolder p with
            | ok t₃ => exact hparents.trans (.makeFolder hagain)
            | error e => exact hparents
      · exact .refl t

/-- The place of a file in a folder. -/
theorem walk_child {t : Tree} {folder : Path} {name : Text} (hname : IsInner name) {place : Place}
    (h : t.walk (folder.child name) = .ok place) :
    ∃ above, (t.here.join folder).names.foldlM t.walkStep [] = .ok above ∧ place = above ++ [name] := by
  have hnames : (t.here.join (folder.child name)).names = (t.here.join folder).names ++ [name] := by
    unfold Path.join Path.isAbsolute Path.child
    dsimp only
    split <;> simp
  unfold walk at h
  split at h
  · cases h
  · rw [hnames, List.foldlM_append] at h
    cases hfolder : (t.here.join folder).names.foldlM t.walkStep [] with
    | error cause => rw [hfolder] at h; cases h
    | ok above =>
      rw [hfolder] at h
      refine ⟨above, rfl, ?_⟩
      have hstep : t.walkStep above name = .ok place := by
        rw [← h]
        show _ = (t.walkStep above name >>= pure)
        rw [bind_pure]
      unfold walkStep at hstep
      split at hstep
      · cases hstep
      · cases hstep
      · rw [if_neg hname] at hstep
        split at hstep
        · cases hstep
        · exact (Except.ok.inj hstep).symm

/-- What a successful write does: it puts the file at the place of its path, where no folder was. -/
theorem write_eq_ok {t t' : Tree} {p : Path} {content : List UInt8} (h : t.write p content = .ok t') :
    ∃ place, t.walk p = .ok place ∧ t.entryAt? place ≠ some .folder ∧ place ≠ [] ∧
      t' = t.put place (.file content) := by
  unfold write at h
  split at h
  · cases h
  · next place hwalk =>
    refine ⟨place, hwalk, ?_⟩
    split at h
    · cases h
    · next hentry =>
      have hfolder : t.entryAt? place ≠ some .folder := fun he => hentry he
      exact ⟨hfolder, fun he => hfolder (by rw [he]; rfl), (Except.ok.inj h).symm⟩
    · cases h

theorem here_write {t t' : Tree} {p : Path} {content : List UInt8} (h : t.write p content = .ok t') :
    t'.here = t.here := by
  obtain ⟨place, -, -, -, rfl⟩ := write_eq_ok h
  rfl

/-- Walks do not notice an entry that is put where no folder was. -/
theorem walk_put {t : Tree} {place : Place} (hfile : t.entryAt? place ≠ some .folder)
    (hplace : place ≠ []) (entry : Entry) {p : Path} {last : Place} (hwalk : t.walk p = .ok last) :
    (t.put place entry).walk p = .ok last := by
  have hhere : (t.put place entry).here = t.here := rfl
  refine walk_of_folders hhere (fun other hother => ?_) hwalk
  rw [entryAt?_put t hplace, if_neg]
  · exact hother
  · rintro rfl
    exact hfile hother

theorem read_write {t t' : Tree} {p : Path} {content : List UInt8} (h : t.write p content = .ok t') :
    t'.read p = .ok content := by
  obtain ⟨place, hwalk, hfile, hplace, rfl⟩ := write_eq_ok h
  refine read_eq_ok.mpr ⟨place, walk_put hfile hplace _ hwalk, ?_⟩
  rw [entryAt?_put t hplace, if_pos rfl]

theorem read_write_other {t t' : Tree} {folder : Path} {name other : Text} (hname : IsInner name)
    (hother : IsInner other) (hne : other ≠ name) {content kept : List UInt8}
    (h : t.write (folder.child name) content = .ok t')
    (hread : t.read (folder.child other) = .ok kept) : t'.read (folder.child other) = .ok kept := by
  obtain ⟨place, hwalk, hfile, hplace, rfl⟩ := write_eq_ok h
  obtain ⟨found, hfound, hkept⟩ := read_eq_ok.mp hread
  obtain ⟨above, habove, rfl⟩ := walk_child hname hwalk
  obtain ⟨above', habove', rfl⟩ := walk_child hother hfound
  rw [habove] at habove'
  cases habove'
  refine read_eq_ok.mpr ⟨above ++ [other], walk_put hfile hplace _ hfound, ?_⟩
  rw [entryAt?_put t hplace, if_neg]
  · exact hkept
  · intro he
    exact hne (List.singleton_inj.mp (List.append_cancel_left he))

/-- Writing a file with all folders above it is lawful. -/
theorem ensureFile_lawful (folder : Path) : Lawful folder ensureFile where
  holds t t' name content hname h := by
    unfold ensureFile at h
    split at h
    · cases h
    · split at h
      · next hwrite => cases h; exact read_write hwrite
      · cases h
  keeps t name content other kept hname hother hne hread := by
    have hgrows := Grows.makeFolders t (folder.child name).parent
      ((folder.child name).parent.names.length + 1)
    unfold ensureFile ensureFolder
    cases hmade : t.makeFolders (folder.child name).parent
      ((folder.child name).parent.names.length + 1) with
    | mk t₁ trouble =>
      rw [hmade] at hgrows
      have hread₁ := hgrows.read hread
      cases trouble with
      | some e => exact hread₁
      | none =>
        simp only
        cases hwrite : t₁.write (folder.child name) content with
        | ok t₂ => exact read_write_other hname hother hne hwrite hread₁
        | error e => exact hread₁

/-- One stays in the folder one is in when a file is written. -/
theorem here_ensureFile (t : Tree) (p : Path) (content : List UInt8) :
    (t.ensureFile p content).1.here = t.here := by
  have hgrows := Grows.makeFolders t p.parent (p.parent.names.length + 1)
  unfold ensureFile ensureFolder
  cases hmade : t.makeFolders p.parent (p.parent.names.length + 1) with
  | mk t₁ trouble =>
    rw [hmade] at hgrows
    cases trouble with
    | some e => exact hgrows.here
    | none =>
      simp only
      cases hwrite : t₁.write p content with
      | ok t₂ => exact (here_write hwrite).trans hgrows.here
      | error e => exact hgrows.here

/-! ## 4. A folder that is there already -/

/-- What can be read of a file. -/
def content? (t : Tree) (p : Path) : Option (List UInt8) := (t.read p).toOption

theorem content?_eq_some {t : Tree} {p : Path} {content : List UInt8} :
    t.content? p = some content ↔ t.read p = .ok content := by
  unfold content?
  cases t.read p with
  | error e => exact iff_of_false nofun nofun
  | ok found => exact ⟨fun h => congrArg Except.ok (Option.some.inj h), fun h => congrArg some (Except.ok.inj h)⟩

/-- A file that can be read after another one of its folder was written could be read before. -/
theorem read_of_write_other {t t' : Tree} {folder : Path} {name other : Text} (hname : IsInner name)
    (hother : IsInner other) (hne : other ≠ name) {content kept : List UInt8}
    (h : t.write (folder.child name) content = .ok t')
    (hread : t'.read (folder.child other) = .ok kept) : t.read (folder.child other) = .ok kept := by
  obtain ⟨place, hwalk, hfile, hplace, rfl⟩ := write_eq_ok h
  obtain ⟨found, hfound, hkept⟩ := read_eq_ok.mp hread
  -- the walk goes through folders only, and those were there before
  have hback : ∀ p, (t.put place (.file content)).entryAt? p = some .folder →
      t.entryAt? p = some .folder := by
    intro p hp
    rw [entryAt?_put t hplace] at hp
    split at hp
    · cases hp
    · exact hp
  have hhere : t.here = (t.put place (.file content)).here := rfl
  have hbefore := walk_of_folders hhere hback hfound
  obtain ⟨above, habove, rfl⟩ := walk_child hname hwalk
  obtain ⟨above', habove', rfl⟩ := walk_child hother hbefore
  rw [habove] at habove'
  cases habove'
  refine read_eq_ok.mpr ⟨above ++ [other], hbefore, ?_⟩
  rw [entryAt?_put t hplace, if_neg] at hkept
  · exact hkept
  · intro he
    exact hne (List.singleton_inj.mp (List.append_cancel_left he))

theorem content?_write_other {t t' : Tree} {folder : Path} {name other : Text} (hname : IsInner name)
    (hother : IsInner other) (hne : other ≠ name) {content : List UInt8}
    (h : t.write (folder.child name) content = .ok t') :
    t'.content? (folder.child other) = t.content? (folder.child other) := by
  refine Option.ext fun kept => ?_
  rw [content?_eq_some, content?_eq_some]
  exact ⟨read_of_write_other hname hother hne h, read_write_other hname hother hne h⟩

/-- There is nothing to make on the way to a file in a folder that is there. -/
theorem ensureFolder_of_lookup {t : Tree} {p : Path} (h : t.lookup p = .ok .folder) :
    t.ensureFolder p = (t, none) := by
  have hmake : t.makeFolder p = .ok t := by
    cases hwalk : t.walk p with
    | error cause =>
      rw [lookup, hwalk] at h
      cases h
    | ok place =>
      rw [lookup_of_walk hwalk] at h
      rw [makeFolder, hwalk]
      cases hentry : t.entryAt? place with
      | none =>
        rw [hentry] at h
        cases h
      | some entry =>
        rw [hentry] at h
        cases h
        simp only [hentry]
  rw [ensureFolder, makeFolders, hmake]

/-- Where the folder is there, writing a file makes no difference to what can be read of the other ones. -/
theorem content?_ensureFile_other {t : Tree} {folder : Path} (hfolder : t.lookup folder = .ok .folder)
    {name other : Text} (hname : IsInner name) (hother : IsInner other) (hne : other ≠ name)
    (content : List UInt8) :
    (t.ensureFile (folder.child name) content).1.content? (folder.child other) =
      t.content? (folder.child other) := by
  have hparent : (folder.child name).parent = folder := by
    rw [Path.parent, Path.child, List.dropLast_concat]
  rw [ensureFile, hparent, ensureFolder_of_lookup hfolder]
  simp only
  split
  · next t' hwrite => exact content?_write_other hname hother hne hwrite
  · rfl

end SkipPath.Files.Tree
