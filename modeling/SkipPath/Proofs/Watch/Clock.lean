import SkipPath.Watch.Clock
import Mathlib.Algebra.Order.Field.Basic
import Mathlib.Algebra.Order.Field.Power
import Mathlib.Algebra.Order.Field.Rat
import Mathlib.Tactic.Linarith
import Mathlib.Tactic.Ring

/-!
Readings of a clock, and the time between them.

A number that is kept with some digits is a whole number that is not too large, moved by some digits
(`HasDigits`), and every such number is kept as it is (`toBinary_of_hasDigits`).  The bounds of the digits that
are kept (`shift_bounds`) carry both.  The difference of two such numbers has no more digits than they have if
the larger one is at most twice the smaller one (`HasDigits.sub`), so the time between readings that are that
close is exact (`Time.elapsed_of_close`).  If it counts as so long when the earlier reading itself is that late, the
readings are so far apart indeed (`Time.add_le_of_le_elapsed`): where they are not close, they are far apart anyway.
-/

namespace SkipPath

namespace Rounding

/-- A number has no more than so many binary digits, zeros at its ends not counted: it is a whole number that is
not too large, moved by some digits. -/
def HasDigits (digits : Nat) (q : Rat) : Prop := ∃ m k : Int, q = m * 2 ^ k ∧ |(m : Rat)| ≤ 2 ^ digits

/-! ## 1. How far a number is moved -/

theorem two_zpow_eq (s : Int) : (2 : Rat) ^ s = 2 ^ s.toNat / 2 ^ (-s).toNat := by
  rw [← zpow_natCast, ← zpow_natCast, ← zpow_sub₀ two_ne_zero]
  congr 1
  omega

/-- A quotient that is moved, by whole numbers. -/
theorem scaled_eq (a b : Nat) (s : Int) :
    (a / b : Rat) * 2 ^ s = ((a * 2 ^ s.toNat : Nat) : Rat) / (b * 2 ^ (-s).toNat : Nat) := by
  rw [two_zpow_eq, div_mul_div_comm]
  push_cast
  rfl

/-- A quotient that is moved as far as it has to be has as many digits in front of its point as it is to have. -/
theorem shift_bounds (digits : Nat) {a b : Nat} (ha : a ≠ 0) (hb : b ≠ 0) :
    (a / b : Rat) * 2 ^ shift digits a b < 2 ^ digits ∧
      (2 : Rat) ^ digits ≤ 2 * ((a / b : Rat) * 2 ^ shift digits a b) := by
  have hbpos : (0 : Rat) < b := by positivity
  have htwo : (2 : Rat) ≠ 0 := two_ne_zero
  obtain ⟨s, hs⟩ : ∃ s : Int, s = digits - (a.log2 - b.log2 : Int) := ⟨_, rfl⟩
  have hupper : (a / b : Rat) * 2 ^ s < 2 * 2 ^ digits := by
    have hnum : (a : Rat) < 2 ^ (a.log2 + 1) := by exact_mod_cast Nat.lt_log2_self
    have hden : (2 : Rat) ^ b.log2 ≤ b := by exact_mod_cast Nat.log2_self_le hb
    have hpow : (2 : Rat) ^ (a.log2 + 1) * 2 ^ s = 2 * 2 ^ digits * 2 ^ b.log2 := by
      rw [← zpow_natCast, ← zpow_add₀ htwo, ← zpow_natCast, ← zpow_natCast, ← zpow_one_add₀ htwo,
        ← zpow_add₀ htwo]
      congr 1
      push_cast
      omega
    rw [div_mul_eq_mul_div, div_lt_iff₀ hbpos]
    calc (a : Rat) * 2 ^ s < 2 ^ (a.log2 + 1) * 2 ^ s := by gcongr
      _ = 2 * 2 ^ digits * 2 ^ b.log2 := hpow
      _ ≤ 2 * 2 ^ digits * b := by gcongr
  have hlower : (2 : Rat) ^ digits ≤ 2 * ((a / b : Rat) * 2 ^ s) := by
    have hnum : (2 : Rat) ^ a.log2 ≤ a := by exact_mod_cast Nat.log2_self_le ha
    have hden : (b : Rat) ≤ 2 ^ (b.log2 + 1) := by exact_mod_cast Nat.lt_log2_self.le
    have hpow : (2 : Rat) ^ digits * 2 ^ (b.log2 + 1) = 2 * (2 ^ a.log2 * 2 ^ s) := by
      rw [← zpow_natCast, ← zpow_natCast, ← zpow_add₀ htwo, ← zpow_natCast, ← zpow_add₀ htwo,
        ← zpow_one_add₀ htwo]
      congr 1
      push_cast
      omega
    rw [div_mul_eq_mul_div, ← mul_div_assoc, le_div_iff₀ hbpos]
    calc (2 : Rat) ^ digits * b ≤ 2 ^ digits * 2 ^ (b.log2 + 1) := by gcongr
      _ = 2 * (2 ^ a.log2 * 2 ^ s) := hpow
      _ ≤ 2 * (a * 2 ^ s) := by gcongr
  have hmoved : Nat.pow 2 digits * (b * Nat.pow 2 (-s).toNat) ≤ a * Nat.pow 2 s.toNat ↔
      (2 : Rat) ^ digits ≤ (a / b : Rat) * 2 ^ s := by
    rw [scaled_eq, le_div_iff₀ (by positivity)]
    exact_mod_cast Iff.rfl
  rw [shift, ← hs]
  split
  · next hlarge =>
    have hhalf : (a / b : Rat) * 2 ^ s = 2 * ((a / b : Rat) * 2 ^ (s - 1)) := by
      rw [zpow_sub_one₀ htwo]
      ring
    rw [hhalf] at hupper
    constructor
    · linarith
    · rw [← hhalf]
      exact hmoved.mp hlarge
  · next hsmall => exact ⟨not_le.mp (mt hmoved.mpr hsmall), hlower⟩

/-! ## 2. What is kept of a number -/

/-- A number as its sign and its size. -/
theorem sign_mul_size (q : Rat) : (q.num.sign : Rat) * (q.num.natAbs / q.den) = q := by
  have hsign : (q.num.sign : Rat) * q.num.natAbs = q.num := by
    rw [← Int.cast_natCast, ← Int.cast_mul, Int.sign_mul_natAbs]
  rw [← mul_div_assoc, hsign, Rat.num_div_den]

theorem size_eq (q : Rat) : (q.num.natAbs / q.den : Rat) = |q| := by
  rw [Nat.cast_natAbs, Int.cast_abs, ← Nat.abs_cast q.den, ← abs_div, Rat.num_div_den]

theorem nearestQuotient_le {a b n : Nat} (h : a < n * b) : nearestQuotient a b ≤ n := by
  have hq : a / b < n := Nat.div_lt_of_lt_mul (by rwa [Nat.mul_comm])
  simp only [nearestQuotient]
  split <;> omega

theorem nearestQuotient_mul_right (m : Nat) {b : Nat} (hb : 0 < b) : nearestQuotient (m * b) b = m := by
  simp only [nearestQuotient, Nat.mul_mod_left, Nat.mul_div_cancel m hb, Nat.mul_zero, hb, decide_true,
    Bool.true_or, if_true]

section kept

variable (digits : Nat) (q : Rat)

/-- The digits that are kept of a number, as a whole number. -/
def digitsOf : Nat :=
  let s := shift digits q.num.natAbs q.den
  nearestQuotient (q.num.natAbs * 2 ^ s.toNat) (q.den * 2 ^ (-s).toNat)

theorem toBinary_eq : toBinary digits q =
    (q.num.sign * digitsOf digits q : Int) * 2 ^ (-shift digits q.num.natAbs q.den) := by
  simp only [toBinary, Rat.mkRat_eq_div, two_zpow_eq, neg_neg, digitsOf, Nat.pow_eq]
  push_cast
  ring

end kept

variable {digits : Nat} {q : Rat}

/-- What is kept of a number has no more digits than are kept. -/
theorem hasDigits_toBinary : HasDigits digits (toBinary digits q) := by
  refine ⟨_, _, toBinary_eq digits q, ?_⟩
  by_cases hq : q = 0
  · subst hq
    simp
  have hnum : q.num.natAbs ≠ 0 := Int.natAbs_ne_zero.mpr (Rat.num_ne_zero.mpr hq)
  have hbounds := (shift_bounds digits hnum q.den_ne_zero).1
  have hden := q.den_pos
  rw [scaled_eq, div_lt_iff₀ (by positivity)] at hbounds
  have hle : digitsOf digits q ≤ 2 ^ digits := nearestQuotient_le (by exact_mod_cast hbounds)
  have hsign : |(q.num.sign : Rat)| ≤ 1 := by
    rcases Int.sign_trichotomy q.num with h | h | h <;> simp [h]
  push_cast
  rw [abs_mul, Nat.abs_cast]
  calc |(q.num.sign : Rat)| * digitsOf digits q ≤ 1 * digitsOf digits q := by gcongr
    _ ≤ 2 ^ digits := by rw [one_mul]; exact_mod_cast hle

theorem pos_of_toBinary_pos (h : 0 < toBinary digits q) : 0 < q := by
  refine lt_of_not_ge fun hle => h.not_ge ?_
  have hsign : q.num.sign ≤ 0 := Int.sign_nonpos_iff.mpr (Rat.num_nonpos.mpr hle)
  rw [toBinary_eq]
  refine mul_nonpos_of_nonpos_of_nonneg ?_ (zpow_nonneg two_pos.le _)
  exact_mod_cast mul_nonpos_of_nonpos_of_nonneg hsign (Int.natCast_nonneg _)

/-- A number whose size is a whole number once it is moved as far as it has to be is kept as it is. -/
theorem toBinary_of_whole {n : Nat}
    (h : (q.num.natAbs / q.den : Rat) * 2 ^ shift digits q.num.natAbs q.den = n) : toBinary digits q = q := by
  have hden := q.den_pos
  have hwhole := h
  rw [scaled_eq, div_eq_iff (by positivity)] at hwhole
  have hdigits : digitsOf digits q = n := by
    have heq : q.num.natAbs * 2 ^ (shift digits q.num.natAbs q.den).toNat =
        n * (q.den * 2 ^ (-shift digits q.num.natAbs q.den).toNat) := by exact_mod_cast hwhole
    rw [digitsOf, heq, nearestQuotient_mul_right n (by positivity)]
  rw [toBinary_eq, hdigits, Int.cast_mul, Int.cast_natCast, ← h, zpow_neg]
  have hpos : (2 : Rat) ^ shift digits q.num.natAbs q.den ≠ 0 := zpow_ne_zero _ two_ne_zero
  rw [mul_assoc, mul_inv_cancel_right₀ hpos, sign_mul_size]

/-- A number that has no more digits than are kept is kept as it is. -/
theorem toBinary_of_hasDigits (hdigits : 0 < digits) (h : HasDigits digits q) : toBinary digits q = q := by
  obtain ⟨m, k, heq, hm⟩ := h
  by_cases hq : q = 0
  · subst hq
    exact toBinary_of_whole (n := 0) (by simp)
  have hnum : q.num.natAbs ≠ 0 := Int.natAbs_ne_zero.mpr (Rat.num_ne_zero.mpr hq)
  have hlower := (shift_bounds digits hnum q.den_ne_zero).2
  generalize hs : shift digits q.num.natAbs q.den = s at hlower
  have hmoved : (q.num.natAbs / q.den : Rat) * 2 ^ s = |(m : Rat)| * 2 ^ (k + s) := by
    rw [size_eq, heq, abs_mul, abs_zpow, abs_two, mul_assoc, zpow_add₀ two_ne_zero]
  rw [hmoved] at hlower
  by_cases hwhole : 0 ≤ k + s
  · obtain ⟨j, hj⟩ := Int.eq_ofNat_of_zero_le hwhole
    apply toBinary_of_whole (n := m.natAbs * 2 ^ j)
    rw [hs, hmoved, hj, zpow_natCast, Nat.cast_mul, Nat.cast_natAbs, Int.cast_abs, Nat.cast_pow, Nat.cast_ofNat]
  · -- A part of a digit stands behind the point, so the number is the largest one, and a power of two.
    have hpart : (2 : Rat) * 2 ^ (k + s) ≤ 1 := by
      rw [← zpow_one_add₀ two_ne_zero]
      exact zpow_le_one_of_nonpos₀ one_le_two (by omega)
    have hupper : 2 * (|(m : Rat)| * 2 ^ (k + s)) ≤ 2 ^ digits :=
      calc 2 * (|(m : Rat)| * 2 ^ (k + s)) = |(m : Rat)| * (2 * 2 ^ (k + s)) := by ring
        _ ≤ |(m : Rat)| * 1 := by gcongr
        _ ≤ 2 ^ digits := by rwa [mul_one]
    obtain ⟨d, rfl⟩ := Nat.exists_eq_add_of_lt hdigits
    apply toBinary_of_whole (n := 2 ^ d)
    rw [hs, hmoved, Nat.cast_pow, Nat.cast_ofNat]
    rw [zero_add, pow_succ] at hlower hupper
    linarith

theorem HasDigits.of_le {c m e : Int} (hle : |(c : Rat) * 2 ^ e| ≤ m * 2 ^ e) (hm : |(m : Rat)| ≤ 2 ^ digits) :
    HasDigits digits (c * 2 ^ e) := by
  refine ⟨c, e, rfl, le_trans ?_ ((le_abs_self _).trans hm)⟩
  rwa [abs_mul, abs_zpow, abs_two, mul_le_mul_iff_left₀ (zpow_pos two_pos e)] at hle

/-- The difference of two numbers, by whole numbers that are moved as far as the one that is moved less. -/
theorem sub_eq_of_le (m n : Int) {j k : Int} (h : j ≤ k) :
    (n : Rat) * 2 ^ k - m * 2 ^ j = (n * 2 ^ (k - j).toNat - m : Int) * 2 ^ j := by
  have hk : (2 : Rat) ^ k = 2 ^ (k - j).toNat * 2 ^ j := by
    rw [← zpow_natCast, ← zpow_add₀ two_ne_zero, Int.toNat_of_nonneg (sub_nonneg.mpr h), sub_add_cancel]
  rw [hk]
  push_cast
  ring

/-- The difference of two numbers has no more digits than they have, if the larger one is at most twice the
smaller one. -/
theorem HasDigits.sub {p q : Rat} (hp : HasDigits digits p) (hq : HasDigits digits q) (hzero : 0 ≤ p)
    (hle : p ≤ q) (hclose : q ≤ 2 * p) : HasDigits digits (q - p) := by
  obtain ⟨m, j, rfl, hm⟩ := hp
  obtain ⟨n, k, rfl, hn⟩ := hq
  have habs := abs_of_nonneg (sub_nonneg.mpr hle)
  rcases le_total j k with hjk | hkj
  · rw [sub_eq_of_le m n hjk] at habs ⊢
    refine HasDigits.of_le (m := m) ?_ hm
    rw [habs, ← sub_eq_of_le m n hjk]
    linarith
  · have hswap : (n : Rat) * 2 ^ k - m * 2 ^ j = (n - m * 2 ^ (j - k).toNat : Int) * 2 ^ k := by
      have h := sub_eq_of_le n m hkj
      rw [← neg_sub, h, ← neg_mul, ← Int.cast_neg, neg_sub]
    rw [hswap] at habs ⊢
    refine HasDigits.of_le (m := n) ?_ hn
    rw [habs, ← hswap]
    linarith

end Rounding

namespace Watch.Time

open Rounding

/-- A reading is a number that a clock can keep. -/
def IsReading (t : Time) : Prop := kept t = t

instance (t : Time) : Decidable t.IsReading := inferInstanceAs (Decidable (_ = _))

/-- The time that has passed since zero. -/
theorem elapsed_zero {now : Time} (h : IsReading now) : elapsed 0 now = now := by
  rw [elapsed, sub_zero, h]

/-- The time between two readings is exact if the later one is at most twice the earlier one. -/
theorem elapsed_of_close {start now : Time} (hstart : IsReading start) (hnow : IsReading now)
    (hzero : 0 ≤ start) (hle : start ≤ now) (hclose : now ≤ 2 * start) :
    elapsed start now = now - start := by
  have hs : HasDigits keptDigits start := by
    rw [← hstart]
    exact hasDigits_toBinary
  have hn : HasDigits keptDigits now := by
    rw [← hnow]
    exact hasDigits_toBinary
  exact toBinary_of_hasDigits (by decide) (hs.sub hn hzero hle hclose)

/-- If any time counts as passed, the later reading is larger. -/
theorem lt_of_elapsed_pos {start now : Time} (h : 0 < elapsed start now) : start < now :=
  sub_pos.mp (pos_of_toBinary_pos h)

/-- If so much time counts as passed since a reading that is no earlier than that, so much has passed. -/
theorem add_le_of_le_elapsed {start now span : Time} (hstart : IsReading start) (hnow : IsReading now)
    (hspan : 0 < span) (hlate : span ≤ start) (h : span ≤ elapsed start now) : start + span ≤ now := by
  have hlt := lt_of_elapsed_pos (hspan.trans_le h)
  by_cases hclose : now ≤ 2 * start
  · rw [elapsed_of_close hstart hnow (hspan.le.trans hlate) hlt.le hclose] at h
    linarith
  · linarith

end Watch.Time
end SkipPath
