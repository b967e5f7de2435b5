import SkipPath.Text.Lines
import SkipPath.Text.Utf8

/-!
Paths of files and folders, as `pathlib` reads them.

A path is an anchor (none, the root, or the double root) and a list of names.  Reading a path drops
empty names and the name `.`, so that `a//b/./c/` and `a/b/c` are one path; the name `..` is kept until
the path is resolved.
-/

namespace SkipPath

/-- What a path starts from. -/
inductive Anchor where
  /-- The folder one is in. -/
  | here
  /-- The root. -/
  | root
  /-- The root written with two slashes, which reading keeps apart from the root. -/
  | doubleRoot
deriving Repr, DecidableEq

/-- A path. -/
structure Path where
  anchor : Anchor
  names : List Text
deriving Repr, DecidableEq

namespace Path

/-- The anchor of a path that starts with so many slashes. -/
def anchorOf : (slashes : Nat) → Anchor
  | 0 => .here
  | 2 => .doubleRoot
  | _ => .root

/-- A part of a path text that names something. -/
def isName (part : Text) : Bool := !part.isEmpty && part != [.char '.']

/-- The path that a text stands for. -/
def ofText (t : Text) : Path :=
  { anchor := anchorOf (t.takeWhile (· == .char '/')).length
    names := (Text.splitAtChar '/' t).filter isName }

/-- The path that a string stands for. -/
def ofString (s : String) : Path := ofText (Text.ofString s)

/-- The path that a text names where it may be left out; an empty text names none. -/
def named? (t : Option Text) : Option Path := (t.filter fun t => !t.isEmpty).map ofText

/-- The text of an anchor. -/
def anchorText : Anchor → Text
  | .here => []
  | .root => ['/']
  | .doubleRoot => ['/', '/']

/-- The text of a path; the empty path is written as a dot. -/
def render (p : Path) : Text :=
  if p.anchor = .here && p.names.isEmpty then ['.']
  else anchorText p.anchor ++ Text.join ['/'] p.names

/-- Whether a system can take a name: it has to be encoded, and NUL ends its text there. -/
def isWritableName (name : Text) : Bool := name.all fun c => Text.Utf8.isWritable true c && c != .char '\x00'

/-- Whether a system can take the path. -/
def isWritable (p : Path) : Bool := p.names.all isWritableName

/-- The last name, empty if there is none. -/
def name (p : Path) : Text := p.names.getLast?.getD []

/-- The path without its last name. -/
def parent (p : Path) : Path := { p with names := p.names.dropLast }

/-- Whether the path starts from a root. -/
def isAbsolute (p : Path) : Bool := p.anchor != .here

/-- The second path taken from the first one. -/
def join (p q : Path) : Path :=
  if q.isAbsolute then q else { p with names := p.names ++ q.names }

/-- The path with one more name. -/
def child (p : Path) (name : Text) : Path := { p with names := p.names ++ [name] }

/-- The name of the folder above. -/
abbrev up : Text := [.char '.', .char '.']

/-- One name taken from a list of names, the last one first: `..` takes a name away. -/
def descend (names : List Text) (name : Text) : List Text :=
  if name = up then names.drop 1 else name :: names

/-- The path from the root, without `..`, of a path taken from the folder `folder`; no link is followed. -/
def resolve (p folder : Path) : Path :=
  { anchor := .root
    names := ((folder.join p).names.foldl descend []).reverse }

end Path

end SkipPath
