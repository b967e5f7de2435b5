import SkipPath.Text.CodePoint

/-!
Sets of characters given as ascending ranges of code points.

`Text` is the project's working form of text: a list of code points, so that every scanner is a
recursion on it and every position counts code points.
-/

namespace SkipPath

/-- A text, code point by code point. -/
abbrev Text := List CodePoint

namespace Text

/-- Whether a code point lies in one of the ranges.  The ranges ascend, so the search may stop at the
first range that starts above it. -/
def inRanges : List (Nat × Nat) → Nat → Bool
  | [], _ => false
  | (low, high) :: rest, n => if n < low then false else n ≤ high || inRanges rest n

/-- The text of a string literal. -/
def ofString (s : String) : Text := s.toList.map .char

/-- The string of a text.  A string holds no surrogates: the replacement character stands for them. -/
def display (t : Text) : String := String.ofList (t.map fun
  | .char c => c
  | .surrogate _ => '\uFFFD')

end Text

end SkipPath
