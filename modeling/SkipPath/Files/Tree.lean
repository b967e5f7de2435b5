import SkipPath.Files.Error
import SkipPath.Table
import SkipPath.Text.Utf8

/-!
The files and folders that a program sees with `stat` and `open` and changes with `mkdir` and `open`.

A tree is a table of places, each the list of the names that lead to it from the root, and what is there:
a file with its bytes, or a folder.  A path is walked name by name, so that the first name at which the
walk fails decides what the error is; `..` goes back to where the walk came from, and a relative path
starts at the folder one is in.
-/

namespace SkipPath.Files

/-- What lies at a place. -/
inductive Entry where
  | file (content : List UInt8)
  | folder
deriving Repr, DecidableEq

/-- A place: the names that lead to it from the root. -/
abbrev Place := List Text

/-- Files and folders. -/
structure Tree where
  /-- The folder one is in. -/
  here : Path
  entries : Table Place Entry := {}
deriving Repr

namespace Tree

/-- What lies at a place, if anything does; the root is a folder. -/
def entryAt? (t : Tree) (place : Place) : Option Entry :=
  if place.isEmpty then some .folder else t.entries.get? place

/-- The longest name, in bytes. -/
def maxNameSize : Nat := 255

/-- The longest text of a path, in bytes. -/
def maxPathSize : Nat := 4095

/-- One name of a walk that has come to `place`. -/
def walkStep (t : Tree) (place : Place) (name : Text) : Except Cause Place :=
  match t.entryAt? place with
  | none => .error .noSuchFile
  | some (.file _) => .error .notADirectory
  | some .folder =>
    if name = Path.up then .ok place.dropLast
    else if maxNameSize < Text.Utf8.size name then .error .nameTooLong
    else .ok (place ++ [name])

/-- The place of a path.  All names but the last have to lead through folders. -/
def walk (t : Tree) (p : Path) : Except Cause Place :=
  if maxPathSize < Text.Utf8.size p.render then .error .nameTooLong
  else (t.here.join p).names.foldlM t.walkStep []

/-- What lies at a path. -/
def lookup (t : Tree) (p : Path) : Except Cause Entry := do
  let place ← t.walk p
  match t.entryAt? place with
  | some entry => .ok entry
  | none => .error .noSuchFile

/-- Whether something lies at a path.  A name that is too long is an error even here. -/
def holds (t : Tree) (p : Path) : Except Error Bool :=
  match t.lookup p with
  | .ok _ => .ok true
  | .error .nameTooLong => .error { cause := .nameTooLong, path := p }
  | .error _ => .ok false

/-- Whether a folder lies at a path. -/
def holdsFolder (t : Tree) (p : Path) : Except Error Bool :=
  match t.lookup p with
  | .ok .folder => .ok true
  | .ok (.file _) => .ok false
  | .error .nameTooLong => .error { cause := .nameTooLong, path := p }
  | .error _ => .ok false

/-- The bytes of a file. -/
def read (t : Tree) (p : Path) : Except Error (List UInt8) :=
  match t.lookup p with
  | .ok (.file content) => .ok content
  | .ok .folder => .error { cause := .isADirectory, path := p }
  | .error cause => .error { cause := cause, path := p }

/-- The size that is given for a folder. -/
def folderSize : Nat := 4096

/-- The size of what lies at a path. -/
def size (t : Tree) (p : Path) : Except Error Nat :=
  match t.lookup p with
  | .ok (.file content) => .ok content.length
  | .ok .folder => .ok folderSize
  | .error cause => .error { cause := cause, path := p }

/-- The tree with an entry at a place. -/
def put (t : Tree) (place : Place) (entry : Entry) : Tree :=
  { t with entries := t.entries.put place entry }

/-- The tree with the file at a path holding `content`; the folder has to be there. -/
def write (t : Tree) (p : Path) (content : List UInt8) : Except Error Tree :=
  match t.walk p with
  | .error cause => .error { cause := cause, path := p }
  | .ok place =>
    match t.entryAt? place.dropLast, t.entryAt? place with
    | _, some .folder => .error { cause := .isADirectory, path := p }
    | some .folder, _ => .ok (t.put place (.file content))
    | _, _ => .error { cause := .noSuchFile, path := p }

/-- One new folder.  A folder that is there already will do. -/
def makeFolder (t : Tree) (p : Path) : Except Error Tree :=
  match t.walk p with
  | .error cause => .error { cause := cause, path := p }
  | .ok place =>
    match t.entryAt? place with
    | some .folder => .ok t
    | some (.file _) => .error { cause := .fileExists, path := p }
    | none =>
      if t.entryAt? place.dropLast = some .folder then .ok (t.put place .folder)
      else .error { cause := .noSuchFile, path := p }

/-- A folder with the folders above it, `depth` levels up at most.  What has been made stays, even if
the rest fails. -/
def makeFolders (t : Tree) (p : Path) : (depth : Nat) → Tree × Option Error
  | 0 => (t, some { cause := .noSuchFile, path := p })
  | depth + 1 =>
    match t.makeFolder p with
    | .ok t => (t, none)
    | .error e =>
      if e.cause = .noSuchFile && p.parent != p then
        match t.makeFolders p.parent depth with
        | (t, some e) => (t, some e)
        | (t, none) =>
          match t.makeFolder p with
          | .ok t => (t, none)
          | .error e => (t, some e)
      else (t, some e)

/-- A folder with all folders above it. -/
def ensureFolder (t : Tree) (p : Path) : Tree × Option Error :=
  t.makeFolders p (p.names.length + 1)

/-- A file with its folder and all folders above it. -/
def ensureFile (t : Tree) (p : Path) (content : List UInt8) : Tree × Option Error :=
  match t.ensureFolder p.parent with
  | (t, some e) => (t, some e)
  | (t, none) =>
    match t.write p content with
    | .ok t => (t, none)
    | .error e => (t, some e)

/-- A way to write a file with all folders above it: the tree after that, and the trouble if there was
any. -/
abbrev Writer := Tree → Path → (content : List UInt8) → Tree × Option Error

/-- The tree without what lies at a path, the content of a folder included. -/
def remove (t : Tree) (p : Path) : Tree :=
  match t.walk p with
  | .error _ => t
  | .ok place => { t with entries := ⟨t.entries.rows.filter fun row => !place.isPrefixOf row.1⟩ }

/-- The text of a place. -/
def placeText (place : Place) : Text := Path.render { anchor := .root, names := place }

/-- Whether nothing lies inside a folder. -/
def isEmptyFolder (t : Tree) (place : Place) : Bool :=
  !t.entries.rows.any fun row => place.isPrefixOf row.1 && row.1 != place

/-- Every file with its content, and every empty folder, marked by a slash at its end. -/
def listing (t : Tree) : List (Text × Option (List UInt8)) :=
  t.entries.rows.filterMap fun (place, entry) =>
    match entry with
    | .file content => some (placeText place, some content)
    | .folder => if t.isEmptyFolder place then some (placeText place ++ [.char '/'], none) else none

end Tree

end SkipPath.Files
