/-!
Rounding of rational numbers: to a whole number, and to a number of binary digits.

The result is always as near as can be; of two results that are as near, it is the even one.
-/

namespace SkipPath.Rounding

/-- The whole number nearest to a quotient. -/
def nearestQuotient (a b : Nat) : Nat :=
  let q := a / b
  let r := a % b
  if 2 * r < b || (2 * r = b && q % 2 = 0) then q else q + 1

/-- How far a quotient is to be moved to the left, in binary digits, so that its whole part has `digits` of
them. -/
def shift (digits a b : Nat) : Int :=
  let s : Int := digits - (a.log2 - b.log2 : Int)
  if Nat.pow 2 digits * (b * Nat.pow 2 (-s).toNat) ≤ a * Nat.pow 2 s.toNat then s - 1 else s

/-- The nearest number that has no more than so many binary digits, zeros at its ends not counted. -/
def toBinary (digits : Nat) (q : Rat) : Rat :=
  let a := q.num.natAbs
  let s := shift digits a q.den
  let m := nearestQuotient (a * Nat.pow 2 s.toNat) (q.den * Nat.pow 2 (-s).toNat)
  mkRat (q.num.sign * (m * Nat.pow 2 (-s).toNat : Nat)) (Nat.pow 2 s.toNat)

/-- The binary digits that a number with a fraction is kept with. -/
def keptDigits : Nat := 53

/-- A number as it is kept. -/
def kept (q : Rat) : Rat := toBinary keptDigits q

end SkipPath.Rounding
