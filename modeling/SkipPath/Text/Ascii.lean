import SkipPath.Text.Ranges

/-!
Digits and letters of ASCII.
-/

namespace SkipPath.Text

/-- A decimal digit of ASCII. -/
def isAsciiDigit (c : CodePoint) : Bool := '0' ≤ c && c ≤ '9'

/-- A letter of ASCII. -/
def isAsciiLetter (c : CodePoint) : Bool := ('a' ≤ c && c ≤ 'z') || ('A' ≤ c && c ≤ 'Z')

/-- A letter of ASCII as a capital; any other character as it is. -/
def capitalAscii (c : CodePoint) : CodePoint :=
  if 'a' ≤ c && c ≤ 'z' then CodePoint.ofNat (c.toNat - 32) else c

end SkipPath.Text
