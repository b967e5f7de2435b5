import SkipPath.Text.Ranges

/-!
Blank characters (`isspace`) and the removal of blanks at the ends of a text (`strip`).

The blanks are the Unicode white space characters together with the four information separators
U+001C to U+001F; zero-width characters such as U+200B and U+FEFF are not blank.
-/

namespace SkipPath.Text

/-- The ranges of blank characters. -/
def blankRanges : List (Nat × Nat) := [
  (0x9, 0xD), (0x1C, 0x20), (0x85, 0x85), (0xA0, 0xA0), (0x1680, 0x1680), (0x2000, 0x200A),
  (0x2028, 0x2029), (0x202F, 0x202F), (0x205F, 0x205F), (0x3000, 0x3000)]

/-- A blank character. -/
def isBlank (c : CodePoint) : Bool := inRanges blankRanges c.toNat

/-- The text without its longest end on which `p` holds throughout. -/
def dropEndWhile (p : CodePoint → Bool) (t : Text) : Text := (t.reverse.dropWhile p).reverse

/-- The longest end on which `p` holds throughout. -/
def takeEndWhile (p : CodePoint → Bool) (t : Text) : Text := (t.reverse.takeWhile p).reverse

/-- The text without the blanks it starts with. -/
def trimStart (t : Text) : Text := t.dropWhile isBlank

/-- The text without the blanks it ends in. -/
def trimEnd (t : Text) : Text := dropEndWhile isBlank t

/-- The text without the blanks at both ends. -/
def trim (t : Text) : Text := trimEnd (trimStart t)

/-- A text of blanks only, the empty one included. -/
def isAllBlank (t : Text) : Bool := t.all isBlank

/-- Cutting an end off loses nothing: what stays and what goes are the whole text. -/
theorem dropEndWhile_append_takeEndWhile (p : CodePoint → Bool) (t : Text) :
    dropEndWhile p t ++ takeEndWhile p t = t := by
  simp [dropEndWhile, takeEndWhile, ← List.reverse_append]

end SkipPath.Text
