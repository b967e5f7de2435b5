import SkipPath.Text.Ranges

/-!
What is wrong with an ignore file, line by line or as a whole (`Diagnostic`).
-/

namespace SkipPath

/-- The kinds of diagnostics. -/
inductive DiagnosticKind where
  /-- The file could not be read, or holds nothing. -/
  | ioError
  /-- The file exempts paths, and that is not to be passed over. -/
  | exemptionConflict
  /-- The fragment of a line is no regular expression. -/
  | regexCompileError
  /-- A line says nothing that could be used. -/
  | degenerateLine
  /-- The pattern is too long for a command. -/
  | commandLengthOverflow
deriving Repr, DecidableEq

namespace DiagnosticKind

/-- The name of a kind. -/
def name : DiagnosticKind → Text
  | .ioError => Text.ofString "io-error"
  | .exemptionConflict => Text.ofString "exemption-conflict"
  | .regexCompileError => Text.ofString "regex-compile-error"
  | .degenerateLine => Text.ofString "degenerate-line"
  | .commandLengthOverflow => Text.ofString "command-length-overflow"

/-- Whether the file is unusable on account of it. -/
def isFatal : DiagnosticKind → Bool
  | .ioError | .exemptionConflict | .commandLengthOverflow => true
  | .regexCompileError | .degenerateLine => false

end DiagnosticKind

/-- A diagnostic.  Lines are counted from one, and zero stands for the whole file. -/
structure Diagnostic where
  kind : DiagnosticKind
  line : Nat
  /-- The text of the line. -/
  text : Text
  message : Text
deriving Repr, DecidableEq

namespace Diagnostic

/-- The diagnostic as one text. -/
def render (d : Diagnostic) : Text :=
  d.kind.name ++ (if d.line = 0 then [] else Text.ofString s!":{d.line}")
    ++ Text.ofString ": " ++ d.message

/-- The most diagnostics that are kept, the fatal one apart. -/
def limit : Nat := 20

end Diagnostic

end SkipPath
