import SkipPath.Fault
import SkipPath.Files.Tree
import SkipPath.Gitignore.Pattern
import SkipPath.Profile.Verdict

/-!
Reading the ignore file of a project (`IgnoreFileLoader.read`).

The file has to be there, be small enough, be UTF-8 and hold more than blanks; else there is a problem and
no text.  With the text come warnings about suspicious lines, which do not keep it from being used.
-/

namespace SkipPath

/-- Which file is read, how large it may be, and with which library its lines are looked at. -/
structure Loader where
  fileName : Text := Text.ofString ".gitignore"
  /-- The largest size, in bytes. -/
  maxSize : Int := 1024 * 1024
  pathspec : Pathspec := Gitignore.wildmatch

namespace Loader

/-- A remark about a line. -/
structure Warning where
  line : Nat
  pattern : Text
  message : Text
deriving Repr, DecidableEq

/-- What reading a file gives: a text with warnings, or the problem with the file. -/
inductive Content where
  | text (t : Text) (warnings : List Warning)
  | problem (message : Text)
deriving Repr, DecidableEq

namespace Content

/-- The text, if there is one. -/
def text? : Content → Option Text
  | .text t _ => some t
  | .problem _ => none

/-- The warnings. -/
def warnings : Content → List Warning
  | .text _ warnings => warnings
  | .problem _ => []

end Content

/-- The ignore file of a project. -/
def pathIn (loader : Loader) (root : Path) : Path := root.join (Path.ofText loader.fileName)

/-- The remarks about the pattern lines of a text. -/
def warningsOf (loader : Loader) (text : Text) : Except Gitignore.Error (List Warning) := do
  let found ← (Row.patterns text).mapM fun row => do
    let messages ← Gitignore.concerns loader.pathspec row.line
    pure (messages.map fun message =>
      { line := row.number, pattern := row.line, message := message : Warning })
  pure found.flatten

/-- The text in the bytes of a file. -/
def decode (path : Path) (bytes : List UInt8) : Except Text Text :=
  match Text.Utf8.decode bytes with
  | .error e => .error (Text.ofString "Failed to read file: " ++ path.render
      ++ Text.ofString " , error: " ++ e.message)
  | .ok raw =>
    let text := Text.unifyBreaks raw
    if Text.isAllBlank text then
      .error (Text.ofString "Read empty content from file: " ++ path.render)
    else .ok text

/-- The text of a file, or the problem with it. -/
def readText (loader : Loader) (tree : Files.Tree) (path : Path) :
    Except Files.Error (Except Text Text) := do
  if !(← tree.holds path) then
    return .error (Text.ofString "Not exist git ignore file: " ++ path.render)
  match tree.size path with
  | .error e => return .error (Text.ofString "Cannot stat file: " ++ e.message)
  | .ok size =>
    if loader.maxSize < size then
      return .error (Text.ofString s!"File too large: {size} bytes (max: {loader.maxSize})")
    match tree.read path with
    | .error e => return .error (Text.ofString "Failed to read file: " ++ path.render
        ++ Text.ofString " , error: " ++ e.message)
    | .ok bytes => return decode path bytes

/-- The content of the ignore file of a project. -/
def read (loader : Loader) (tree : Files.Tree) (root : Path) : Except Fault Content :=
  match loader.readText tree (loader.pathIn root) with
  | .error e => .error (.file e)
  | .ok (.error message) => .ok (.problem message)
  | .ok (.ok text) =>
    match loader.warningsOf text with
    | .ok warnings => .ok (.text text warnings)
    | .error e => .error (.gitignore e)

end Loader

end SkipPath
