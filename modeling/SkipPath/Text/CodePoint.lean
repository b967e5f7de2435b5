/-!
Code points, the members of texts.

A text may hold what no encoding writes: a surrogate that stands alone.  A code point is therefore a
character or a surrogate; the numbers of both together are those below 110000.
-/

namespace SkipPath

/-- A member of a text. -/
inductive CodePoint where
  | char (c : Char)
  /-- A surrogate that stands alone; surrogates are counted from D800. -/
  | surrogate (n : Fin 0x800)
deriving Repr, DecidableEq

namespace CodePoint

instance : Coe Char CodePoint := ⟨char⟩

/-- The number of a code point. -/
def toNat : CodePoint → Nat
  | char c => c.toNat
  | surrogate n => 0xD800 + n.val

/-- The code point of a number; that of zero if there is none. -/
def ofNat (n : Nat) : CodePoint :=
  if h : 0xD800 ≤ n ∧ n < 0xE000 then surrogate ⟨n - 0xD800, by omega⟩ else char (Char.ofNat n)

/-- Whether a code point is a surrogate. -/
def isSurrogate : CodePoint → Bool
  | char _ => false
  | surrogate _ => true

instance : LE CodePoint := ⟨fun a b => a.toNat ≤ b.toNat⟩

instance (a b : CodePoint) : Decidable (a ≤ b) := inferInstanceAs (Decidable (a.toNat ≤ b.toNat))

/-- No character has the number of a surrogate. -/
theorem char_toNat_ne (c : Char) (n : Fin 0x800) : c.toNat ≠ 0xD800 + n.val := by
  have hvalid : c.toNat < 0xD800 ∨ 0xDFFF < c.toNat ∧ c.toNat < 0x110000 := c.valid
  omega

/-- A code point is known by its number. -/
theorem toNat_inj {a b : CodePoint} : a.toNat = b.toNat ↔ a = b := by
  cases a with
  | char c =>
    cases b with
    | char d => simp [toNat, Char.toNat_inj]
    | surrogate n => simpa [toNat] using char_toNat_ne c n
  | surrogate m =>
    cases b with
    | char d => simpa [toNat] using (char_toNat_ne d m).symm
    | surrogate n => simp [toNat, Fin.ext_iff]

/-- Below 110000 every number is that of its code point. -/
theorem toNat_ofNat {n : Nat} (h : n < 0x110000) : (ofNat n).toNat = n := by
  unfold ofNat
  split
  · next hsurrogate => exact Nat.add_sub_of_le hsurrogate.1
  · next hchar =>
    have hvalid : n.isValidChar := by
      simp only [Nat.isValidChar]
      omega
    rw [toNat, Char.ofNat, dif_pos hvalid]
    rfl

/-- From 110000 on a number stands for no code point. -/
theorem ofNat_of_le {n : Nat} (h : 0x110000 ≤ n) : ofNat n = ofNat 0 := by
  have hnotSurrogate : ¬ (0xD800 ≤ n ∧ n < 0xE000) := by omega
  have hinvalid : ¬ n.isValidChar := by
    simp only [Nat.isValidChar]
    omega
  rw [ofNat, dif_neg hnotSurrogate, Char.ofNat, dif_neg hinvalid]
  rfl

theorem le_trans {a b c : CodePoint} (hab : a ≤ b) (hbc : b ≤ c) : a ≤ c := Nat.le_trans hab hbc

theorem le_total (a b : CodePoint) : a ≤ b ∨ b ≤ a := Nat.le_total a.toNat b.toNat

theorem le_antisymm {a b : CodePoint} (hab : a ≤ b) (hba : b ≤ a) : a = b :=
  toNat_inj.mp (Nat.le_antisymm hab hba)

end CodePoint

end SkipPath
