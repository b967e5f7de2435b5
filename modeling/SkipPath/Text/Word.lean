import SkipPath.Text.Letter
import SkipPath.Text.Numeral

/-!
Word characters: letters, numerals and the underscore.  Combining marks are none of them.
-/

namespace SkipPath.Text

/-- A letter, a numeral or the underscore. -/
def isWord (c : CodePoint) : Bool := c = '_' || isLetter c || isNumeral c

end SkipPath.Text
