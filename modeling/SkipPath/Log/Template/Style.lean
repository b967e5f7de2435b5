import SkipPath.Rounding
import SkipPath.Text.Decimal

/-!
How values are written in the holes of templates: the width they fill, the sign, and the forms of numbers.

A number with a fraction has a fixed form, with so many places, and a form with an exponent, with so many
places after the first digit.  Both round the exact value once, to the nearest number of such places.
-/

namespace SkipPath.Log.Template

/-- How a value is put into a hole. -/
structure Style where
  leftAligned : Bool := false
  plus : Bool := false
  blank : Bool := false
  marked : Bool := false
  zeros : Bool := false
  width : Nat := 0
  precision : Option Nat := none

/-- The style with one more flag, if the character is a flag. -/
def Style.flag? (s : Style) : CodePoint → Option Style
  | '-' => some { s with leftAligned := true }
  | '+' => some { s with plus := true }
  | ' ' => some { s with blank := true }
  | '#' => some { s with marked := true }
  | '0' => some { s with zeros := true }
  | _ => none

/-- The style after all flags in front of a text, and the text after them. -/
def Style.flags (s : Style) : Text → Style × Text
  | [] => (s, [])
  | c :: rest =>
    match s.flag? c with
    | some s => s.flags rest
    | none => (s, c :: rest)

/-- A text in the width of a style. -/
def Style.aligned (s : Style) (t : Text) : Text :=
  let space : Text := List.replicate (s.width - t.length) ' '
  if s.leftAligned then t ++ space else space ++ t

/-- The digits of a number in a base up to sixteen. -/
def digitsOf (base n : Nat) : Text := (Nat.toDigits base n).map .char

/-- The digits of a number in a style.  The sign and `mark` stand in front of them, and of the zeros that
fill the width. -/
def Style.signed (s : Style) (negative : Bool) (mark body : Text) : Text :=
  let sign : Text := if negative then ['-'] else if s.plus then ['+'] else if s.blank then [' '] else []
  let front := sign ++ mark
  if s.zeros && !s.leftAligned then
    front ++ List.replicate (s.width - front.length - body.length) (.char '0') ++ body
  else s.aligned (front ++ body)

/-- A whole number in a style.  `mark` is the one of its base. -/
def Style.whole (s : Style) (n : Int) (base : Nat) (mark : Text) : Text :=
  let digits := digitsOf base n.natAbs
  let body := List.replicate (s.precision.getD 0 - digits.length) (.char '0') ++ digits
  s.signed (n < 0) (if s.marked then mark else []) body

/-- Digits with a point in front of the last `places`.  Without places there is a point only if `marked`. -/
def pointed (marked : Bool) (places : Nat) (digits : Text) : Text :=
  let digits := List.replicate (places + 1 - digits.length) (.char '0') ++ digits
  let whole := digits.take (digits.length - places)
  if places = 0 then (if marked then whole ++ [.char '.'] else whole)
  else whole ++ .char '.' :: digits.drop (digits.length - places)

/-- A number with so many places. -/
def fixed (marked : Bool) (places : Nat) (q : Rat) : Text :=
  pointed marked places (digitsOf 10 (Rounding.nearestQuotient (q.num.natAbs * Nat.pow 10 places) q.den))

/-- The exponent of ten of the first digit of a number below one; `size` is the number of digits of its
reciprocal. -/
def exponentBelowOne (a b : Nat) (size : Int) : Int :=
  if b ≤ a * Nat.pow 10 (size - 1).toNat then 1 - size else -size

/-- The exponent of ten of the first digit of a number that is written with `places` more of them, and the
number of units of the last place. -/
def leading (places : Nat) (q : Rat) : Int × Nat :=
  let a := q.num.natAbs
  if a = 0 then (0, 0)
  else
    let units (e : Int) : Nat :=
      let s := places - e
      Rounding.nearestQuotient (a * Nat.pow 10 s.toNat) (q.den * Nat.pow 10 (-s).toNat)
    let size (n : Nat) : Int := (digitsOf 10 n).length
    let e := if q.den ≤ a then size (a / q.den) - 1 else exponentBelowOne a q.den (size (q.den / a))
    if units e < Nat.pow 10 (places + 1) then (e, units e) else (e + 1, units (e + 1))

/-- Digits with a point, without the zeros at the end, and without the point if nothing stands after it. -/
def withoutZeros (t : Text) : Text :=
  if t.contains '.' then
    let t := (t.reverse.dropWhile (· == .char '0'))
    (if t.head? = some (.char '.') then t.drop 1 else t).reverse
  else t

/-- A number in a style, without its sign: in the fixed form, in the form with an exponent, or in the shorter
of the two. -/
def Style.real (s : Style) (form : CodePoint) (q : Rat) : Text :=
  let places := s.precision.getD 6
  match form with
  | 'f' => fixed s.marked places q
  | 'e' =>
    let (e, units) := leading places q
    pointed s.marked places (digitsOf 10 units) ++ Text.exponent e
  | _ =>
    let count := max places 1
    let (e, units) := leading (count - 1) q
    let trim (t : Text) : Text := if s.marked then t else withoutZeros t
    if -4 ≤ e && e < count then trim (fixed s.marked ((count - 1 : Int) - e).toNat q)
    else trim (pointed s.marked (count - 1) (digitsOf 10 units)) ++ Text.exponent e

/-- A text in a style: no more of it than the precision says. -/
def Style.text (s : Style) (t : Text) : Text :=
  s.aligned (match s.precision with
    | some n => t.take n
    | none => t)

end SkipPath.Log.Template
