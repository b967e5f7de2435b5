import SkipPath.Text.Ranges

/-!
Three ways to cut a text into lines.

* `unifyBreaks` is what reading a file does: the pair CR LF and the lone CR both become LF.
* `splitLines` cuts at LF and at CR LF, and keeps an empty last line.
* `splitAtBreaks` cuts at every character that Unicode counts as a line break, and a break at the very
  end opens no further line.

Each goes through the text from its end, so that a CR knows whether an LF follows.
-/

namespace SkipPath.Text

/-- Put a character in front of the first line. -/
def consFirst (c : CodePoint) : List Text → List Text
  | [] => [[c]]
  | line :: lines => (c :: line) :: lines

/-- One character in front of a text whose line breaks are already unified; the flag says whether an
LF follows in the text as it was. -/
def unifyStep (c : CodePoint) (state : Bool × Text) : Bool × Text :=
  if c = '\r' then (false, if state.1 then state.2 else '\n' :: state.2)
  else (c = '\n', c :: state.2)

/-- The text with CR LF and lone CR written as LF. -/
def unifyBreaks (t : Text) : Text := (t.foldr unifyStep (false, [])).2

/-- One character in front of lines that are already cut. -/
def splitStep (c : CodePoint) (state : Bool × List Text) : Bool × List Text :=
  if c = '\n' then (true, [] :: state.2)
  else if c = '\r' && state.1 then (false, state.2)
  else (false, consFirst c state.2)

/-- The lines of a text, cut at LF with or without a CR before it.  There is always a last line, which
may be empty. -/
def splitLines (t : Text) : List Text := (t.foldr splitStep (false, [[]])).2

/-- A character at which a line ends. -/
def isBreak (c : CodePoint) : Bool :=
  inRanges [(0xA, 0xD), (0x1C, 0x1E), (0x85, 0x85), (0x2028, 0x2029)] c.toNat

/-- One character in front of lines that are cut at every break. -/
def breakStep (c : CodePoint) (state : Bool × List Text) : Bool × List Text :=
  if c = '\r' && state.1 then (false, state.2)
  else if isBreak c then (c = '\n', [] :: state.2)
  else (false, consFirst c state.2)

/-- The list without its last line if that line is empty. -/
def dropEmptyLast (lines : List Text) : List Text :=
  if lines.getLast? = some [] then lines.dropLast else lines

/-- The lines of a text, cut at every line break; no line follows a break at the end. -/
def splitAtBreaks (t : Text) : List Text := dropEmptyLast (t.foldr breakStep (false, [[]])).2

/-- The parts of a text between occurrences of one character; always at least one. -/
def splitAtChar (sep : CodePoint) (t : Text) : List Text :=
  t.foldr (fun c parts => if c = sep then [] :: parts else consFirst c parts) [[]]

/-- Texts joined with a separator between neighbours. -/
def join (sep : Text) : List Text → Text
  | [] => []
  | [t] => t
  | t :: rest => t ++ sep ++ join sep rest

end SkipPath.Text
