/-!
What comes of a computation that may fail.

Most functions here give a value or say why there is none.  One after another gives a value only if each does
(`bind_eq_ok`), and what is checked of the value of a run shows that there is one (`exists_ok`).
-/

namespace SkipPath

variable {ε α β : Type} {x : Except ε α}

/-- A computation after another gives a value if both do. -/
theorem bind_eq_ok {f : α → Except ε β} {b : β} : (x >>= f) = .ok b ↔ ∃ a, x = .ok a ∧ f a = .ok b := by
  cases x <;> simp [bind, Except.bind]

/-- What is made of a value is there if the value is. -/
theorem map_eq_ok {f : α → β} {b : β} : x.map f = .ok b ↔ ∃ a, x = .ok a ∧ f a = b := by
  cases x <;> simp [Except.map]

theorem toOption_eq_some {a : α} : x.toOption = some a ↔ x = .ok a := by
  cases x <;> simp [Except.toOption]

theorem toOption_eq_none : x.toOption = none ↔ ∃ e, x = .error e := by
  cases x <;> simp [Except.toOption]

/-- A value of which something is checked is there. -/
theorem exists_ok (x : Except ε α) (check : α → Bool) (h : x.toOption.any check = true) :
    ∃ a, x = .ok a ∧ check a = true := by
  obtain ⟨a, ha, hcheck⟩ := (Option.any_eq_true ..).mp h
  exact ⟨a, toOption_eq_some.mp ha, hcheck⟩

end SkipPath
