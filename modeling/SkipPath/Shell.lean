import SkipPath.Text.Blank
import SkipPath.Text.Casing
import SkipPath.Text.Quoted

/-!
The shells a search command may be written for (`ShellKind`).

They differ in how one path separator is written inside a pattern, in the longest command they take, and
in the kind of script they read.
-/

namespace SkipPath

/-- The dialect of a terminal. -/
inductive Shell where
  /-- A shell of the Bourne family. -/
  | posix
  /-- The command prompt of Windows. -/
  | cmd
  /-- A Bourne shell on Windows, which removes one more level of escapes. -/
  | mingw
deriving Repr, DecidableEq

namespace Shell

/-- The name of a shell. -/
def name : Shell → Text
  | .posix => Text.ofString "posix"
  | .cmd => Text.ofString "cmd"
  | .mingw => Text.ofString "mingw"

/-- Every name by which a shell may be called. -/
def names : List (Text × Shell) := [
  (Text.ofString "bash", .posix), (Text.ofString "sh", .posix), (Text.ofString "zsh", .posix),
  (Text.ofString "wsl", .posix), (Text.ofString "windows", .cmd), (Text.ofString "gitbash", .mingw),
  (Text.ofString "posix", .posix), (Text.ofString "cmd", .cmd), (Text.ofString "mingw", .mingw)]

/-- The form in which a name of a shell is looked up: no blanks around it, and small letters. -/
def key (t : Text) : Text := Text.lowercase (Text.trim t)

/-- The shell of a name; the key that was looked up if there is no such shell. -/
def parse (t : Text) : Except Text Shell :=
  match names.find? (·.1 == key t) with
  | some (_, shell) => .ok shell
  | none => .error (key t)

/-- What is said about a key that names no shell. -/
def unknownMessage (key : Text) : Text :=
  Text.quoted key ++ Text.ofString " is not a valid ShellKind"

/-- Whether commands are read by the rules of the Windows command prompt. -/
def isCmd (s : Shell) : Bool := s = .cmd

/-- The longest command, in characters. -/
def maxCommandLength : Shell → Nat
  | .cmd => 8163
  | .posix | .mingw => 131072

/-- The end of the name of a script. -/
def scriptExtension : Shell → Text
  | .cmd => Text.ofString ".cmd"
  | .posix | .mingw => Text.ofString ".sh"

/-- One path separator inside a pattern.  On Windows it is an escaped backslash, and a shell that
removes a level of escapes first needs two of them; a search tool that takes the slash there needs
neither. -/
def separator (s : Shell) (forwardSlash : Bool) : Text :=
  if forwardSlash then ['/']
  else match s with
    | .posix => ['/']
    | .cmd => ['\\', '\\']
    | .mingw => ['\\', '\\', '\\', '\\']

end Shell

end SkipPath
