import SkipPath.Text.Hex
import SkipPath.Text.Printable

/-!
Quoted texts, as error messages show them (`repr`): single quotes around the text, or double quotes when it
holds a single quote and no double one.  The quote in use and the backslash get a backslash, three
controls have letters of their own, and any other character that cannot be shown is written by its
number, in two, four or eight hexadecimal digits.
-/

namespace SkipPath.Text

/-- One character inside the given quotes. -/
def quoteChar (quote : CodePoint) (c : CodePoint) : Text :=
  if c = quote || c = '\\' then ['\\', c]
  else if c = '\n' then ['\\', 'n']
  else if c = '\r' then ['\\', 'r']
  else if c = '\t' then ['\\', 't']
  else if isPrintable c then [c]
  else if c.toNat < 0x100 then '\\' :: 'x' :: hexDigits 2 c.toNat
  else if c.toNat < 0x10000 then '\\' :: 'u' :: hexDigits 4 c.toNat
  else '\\' :: 'U' :: hexDigits 8 c.toNat

/-- The quotes a text is shown in. -/
def quoteFor (t : Text) : CodePoint := if t.contains '\'' && !t.contains '"' then '"' else '\''

/-- The text in quotes. -/
def quoted (t : Text) : Text :=
  let quote := quoteFor t
  quote :: t.flatMap (quoteChar quote) ++ [quote]

end SkipPath.Text
