import SkipPath.Digest.Sha256
import SkipPath.Path
import SkipPath.Shell
import SkipPath.Text.Quoted
import SkipPath.Text.Utf8
import SkipPath.Text.Word

/-!
Where the script that sets the variable of a project lies (`get_script_path`).

Its name starts with the name of the project's folder, for readers, and goes on with eight digits of a
digest of the whole path, so that folders of one name in different places have scripts of their own.
-/

namespace SkipPath.Export

/-- A character that is kept in the name of a script. -/
def isScriptNameChar (c : CodePoint) : Bool := Text.isWord c || c = '.' || c = '-'

/-- One character in front of a name in which each run of other characters than those of script names is
one hyphen; the flag says whether the name starts inside such a run. -/
def hyphenStep (c : CodePoint) (state : Bool × Text) : Bool × Text :=
  if isScriptNameChar c then (false, c :: state.2)
  else (true, if state.1 then state.2 else '-' :: state.2)

/-- The text without the hyphens at both ends. -/
def trimHyphens (t : Text) : Text :=
  Text.dropEndWhile (· == '-') (t.dropWhile (· == '-'))

/-- The name of a folder as the name of a script shows it. -/
def folderLabel (folder : Path) : Text :=
  let label := trimHyphens (folder.name.foldr hyphenStep (false, [])).2
  if label.isEmpty then Text.ofString "root" else label

/-- The first eight digits of the digest of bytes. -/
def digestDigits (bytes : List UInt8) : Text :=
  match Digest.Sha256.digest bytes with
  | word :: _ => Text.hexDigits 8 word.toNat
  | [] => []

/-- The name of the script of a project, without its end.  A path that cannot be encoded has no digest. -/
def scriptLabel (full : Path) : Except Text.Utf8.Refusal Text := do
  let bytes ← Text.Utf8.encode full.render
  return folderLabel full ++ .char '-' :: digestDigits bytes

/-- The end of the name of a script, before the one that the shell asks for. -/
def scriptSuffix : Text := Text.ofString ".set-git-skip-paths-env.tmp"

/-- The script of a project, whose path is resolved, in the folder for scripts. -/
def scriptPath (scripts full : Path) (shell : Shell) : Except Text.Utf8.Refusal Path := do
  let label ← scriptLabel full
  return scripts.child (label ++ scriptSuffix ++ shell.scriptExtension)

end SkipPath.Export
