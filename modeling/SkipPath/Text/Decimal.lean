import SkipPath.Text.Lines

/-!
Decimal numbers with a fraction, as text (`repr`).

There is always a digit on each side of the point, and no zero at the end but that one.  Numbers from
10⁻⁴ up to 10¹⁶ are written out; others have one digit before the point, and an exponent of at least
two digits.
-/

namespace SkipPath.Text

/-- The digits of a number without the zeros at the end, and how many zeros there were. -/
def significant (digits : Text) : Text × Nat :=
  let kept := (digits.reverse.dropWhile (· == .char '0')).reverse
  (kept, digits.length - kept.length)

/-- An exponent of ten. -/
def exponent (e : Int) : Text :=
  let digits := Text.ofString (toString e.natAbs)
  .char 'e' :: (if e < 0 then .char '-' else .char '+') :: List.replicate (2 - digits.length) (.char '0') ++ digits

/-- Digits with a point after the first one, and the exponent of ten that they are multiplied by. -/
def scientific (digits : Text) (e : Int) : Text :=
  (match digits with
    | [] => []
    | [d] => [d]
    | d :: rest => d :: '.' :: rest) ++ exponent e

/-- Digits with the point after `whole` of them. -/
def positional (digits : Text) (whole : Int) : Text :=
  if whole ≤ 0 then .char '0' :: .char '.' :: List.replicate (-whole).toNat (.char '0') ++ digits
  else
    let front := digits.take whole.toNat
    let after := digits.drop whole.toNat
    front ++ List.replicate (whole.toNat - front.length) (.char '0') ++ .char '.' ::
      (if after.isEmpty then [.char '0'] else after)

/-- The number of so many units of the last of so many places. -/
def decimal (units : Int) (places : Nat) : Text :=
  let sign : Text := if units < 0 then ['-'] else []
  let (digits, zeros) := significant (Text.ofString (toString units.natAbs))
  if digits.isEmpty then sign ++ [.char '0', .char '.', .char '0']
  else
    let whole : Int := digits.length + zeros - places
    sign ++ if -4 < whole && whole ≤ 16 then positional digits whole else scientific digits (whole - 1)

end SkipPath.Text
