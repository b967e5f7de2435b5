import SkipPath.Shell

/-!
The variable that carries a long pattern: its name, the command that sets it (`get_export_command`) and
the text that refers to it (`get_variable_reference`).
-/

namespace SkipPath.Export

/-- The name of the variable. -/
def variableName : Text := Text.ofString "Skip_Git_Paths"

/-- A character inside single quotes of a Bourne shell. -/
def quoteCharPosix (c : CodePoint) : Text := if c = '\'' then ['\'', '\\', '\'', '\''] else [c]

/-- The command that sets the variable to a pattern.  Inside single quotes a Bourne shell takes every
character as it is, except the quote, which is written outside of them. -/
def assignment (shell : Shell) (pattern : Text) : Text :=
  if shell.isCmd then
    Text.ofString "@set \"" ++ variableName ++ .char '=' :: pattern ++ [.char '"']
  else
    Text.ofString "export " ++ variableName ++ .char '=' :: .char '\'' :: pattern.flatMap quoteCharPosix ++ [.char '\'']

/-- Whether the command that sets the variable keeps to a limit. -/
def fits (shell : Shell) (limit : Int) (pattern : Text) : Bool :=
  decide (((assignment shell pattern).length : Int) ≤ limit)

/-- The text that stands for the value of the variable in a command. -/
def reference (shell : Shell) : Text :=
  if shell.isCmd then .char '"' :: .char '%' :: variableName ++ [.char '%', .char '"']
  else .char '"' :: .char '$' :: variableName ++ [.char '"']

end SkipPath.Export
