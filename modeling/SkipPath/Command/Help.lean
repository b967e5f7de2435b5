import SkipPath.Command.Grammar
import SkipPath.Config
import SkipPath.Text.Casing
import SkipPath.Text.Paragraph

/-!
The help of a command, as `argparse` formats it: how it is called, and what its operands and options mean.

The lines fit the terminal.  The explanations stand in a column of their own; a name that is too long for
its column has a line to itself.
-/

namespace SkipPath.Command

/-- The columns of a terminal that does not say how many it has. -/
def standardColumns : Nat := 80

/-- The columns of the terminal, as the environment gives them. -/
def terminalColumns (env : Environment) : Nat :=
  match (env.value? "COLUMNS").map Text.Integer.read with
  | some (.ok n) => if 0 < n then n.toNat else standardColumns
  | _ => standardColumns

/-- The longest line of a help. -/
def helpWidth (env : Environment) : Nat := terminalColumns env - 2

/-- The fewest characters that a line of running text may have, however narrow the terminal is. -/
def leastWidth : Nat := 11

/-- The column in which explanations start: the 24th, or an earlier one in a narrow terminal. -/
def helpColumn (width : Nat) : Nat := min 24 (max (width - 20) 4)

/-- Blanks. -/
def blanks (n : Nat) : Text := List.replicate n ' '

/-- Parts joined by blanks into lines.  A line ends before it would be longer than `limit`.  `line` holds the
parts of the current line, last first, and `size` its length with the `indent` in front of it. -/
def wrapFrom (indent limit : Nat) (line : List Text) (size : Nat) : List Text → List (List Text)
  | [] => if line.isEmpty then [] else [line.reverse]
  | part :: parts =>
    if limit < size + 1 + part.length && !line.isEmpty then
      line.reverse :: wrapFrom indent limit [part] (indent + 1 + part.length) parts
    else wrapFrom indent limit (part :: line) (size + 1 + part.length) parts

/-- Parts in lines that are indented. -/
def wrap (indent limit : Nat) (parts : List Text) : List Text :=
  (wrapFrom (indent - 1) limit [] (indent - 1) parts).map fun line =>
    blanks indent ++ Text.join [' '] line

/-- Parts in lines after a lead that stands in front of the first one; the others are indented. -/
def wrapAfter (lead : Text) (indent limit : Nat) (parts : List Text) : List Text :=
  match wrapFrom (indent - 1) limit [] (lead.length - 1) parts with
  | [] => [lead]
  | first :: more =>
    (lead ++ Text.join [' '] first) :: more.map fun line => blanks indent ++ Text.join [' '] line

namespace Flag

/-- The name of an option's value. -/
def valueName (f : Flag) : Text :=
  (Text.uppercase (f.name.drop 2)).map fun c => if c = .char '-' then .char '_' else c

/-- The option as it is called, by one of its names. -/
def call (f : Flag) (name : Text) : Text :=
  if f.kind.takesValue then name ++ .char ' ' :: f.valueName else name

/-- The option in the summary. -/
def usage (f : Flag) : Text := .char '[' :: f.call (f.short.getD f.name) ++ [.char ']']

/-- The option with all its names. -/
def heading (f : Flag) : Text :=
  Text.join [',', ' '] ((f.short.toList ++ [f.name]).map f.call)

end Flag

/-- A list of names to choose from. -/
def choices (names : List Text) : Text := .char '\x7b' :: Text.join [.char ','] names ++ [.char '\x7d']

namespace Operand

/-- The operand in the summary; `names` are those of the commands to choose from. -/
def usage (o : Operand) (names : List Text) : List Text :=
  match o.arity with
  | .one => [o.name]
  | .many => [o.name, .char '[' :: o.name ++ Text.ofString " ...]"]
  | .rest => [choices names, Text.ofString "..."]

end Operand

/-- A name with its explanation. -/
def entry (width indent : Nat) (heading about : Text) : List Text :=
  let column := helpColumn width
  let lines := (Text.fill (max (width - column) leastWidth) about).map (blanks column ++ ·)
  let first := blanks indent ++ heading
  if heading.length + indent + 2 ≤ column then
    match lines with
    | [] => [first]
    | line :: lines => (first ++ line.drop first.length) :: lines
  else first :: lines

namespace Grammar

/-- The summary of how a command is called.  The program is on a line of its own if it takes more than three
quarters of the width. -/
def usage (g : Grammar) (width : Nat) (names : List Text) : List Text :=
  let options := g.flags.map Flag.usage
  let operands := g.operands.flatMap (·.usage names)
  let lead := Text.ofString "usage: "
  let whole := lead ++ Text.join [' '] (g.program :: options ++ operands)
  let size := lead.length + g.program.length
  if whole.length ≤ width then [whole]
  else if 4 * size ≤ 3 * width then
    wrapAfter lead (size + 1) width (g.program :: options) ++ wrap (size + 1) width operands
  else
    match wrap lead.length width (options ++ operands) with
    | [line] => [lead ++ g.program, line]
    | _ =>
      (lead ++ g.program) :: wrap lead.length width options ++ wrap lead.length width operands

/-- The whole help.  `commands` are the commands to choose from, with their explanations. -/
def help (g : Grammar) (width : Nat) (about : Text) (commands : List (Text × Text)) : List Text :=
  let names := commands.map (·.1)
  let operands := g.operands.flatMap fun o => match o.arity with
    | .rest =>
      (blanks 2 ++ choices names) :: commands.flatMap fun (name, about) => entry width 4 name about
    | _ => entry width 2 o.name o.about
  g.usage width names
    ++ (if about.isEmpty then [] else [] :: Text.fill (max width leastWidth) about)
    ++ [[], Text.ofString "positional arguments:"] ++ operands
    ++ [[], Text.ofString "options:"] ++ g.flags.flatMap fun f => entry width 2 f.heading f.about

end Grammar

end SkipPath.Command
