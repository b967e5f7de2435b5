/-!
Tables: finite maps that keep their keys in the order in which they were first put in (`dict`).

Putting a value under a key that is already there replaces the value and leaves the key in its place;
a key that was taken out and put in again goes to the end.  `get?` is the view of a table as a map, and
the small lemmas below say what each operation does to that view.
-/

namespace SkipPath

/-- A finite map with its keys in order. -/
structure Table (α β : Type) where
  rows : List (α × β) := []
deriving Repr, DecidableEq

namespace Table

variable {α β : Type} [DecidableEq α]

/-- The table without rows. -/
def empty : Table α β := {}

/-- The value in the first row of a key. -/
def find? (key : α) : List (α × β) → Option β
  | [] => none
  | (k, v) :: rows => if k = key then some v else find? key rows

/-- The value under a key. -/
def get? (t : Table α β) (key : α) : Option β := find? key t.rows

/-- Whether there is a value under a key. -/
def contains (t : Table α β) (key : α) : Bool := (t.get? key).isSome

/-- The rows with a value put under a key: in the key's place, or at the end. -/
def putRows (key : α) (value : β) : List (α × β) → List (α × β)
  | [] => [(key, value)]
  | (k, v) :: rows => if k = key then (k, value) :: rows else (k, v) :: putRows key value rows

/-- The table with a value put under a key. -/
def put (t : Table α β) (key : α) (value : β) : Table α β := ⟨putRows key value t.rows⟩

/-- The table without a key. -/
def erase (t : Table α β) (key : α) : Table α β := ⟨t.rows.filter (fun row => row.1 ≠ key)⟩

/-- The keys, in order. -/
def keys (t : Table α β) : List α := t.rows.map (·.1)

/-- The values, in the order of their keys. -/
def values (t : Table α β) : List β := t.rows.map (·.2)

theorem find?_putRows (key other : α) (value : β) (rows : List (α × β)) :
    find? other (putRows key value rows) = if other = key then some value else find? other rows := by
  induction rows with
  | nil => by_cases h : other = key <;> simp_all [putRows, find?, eq_comm]
  | cons row rows ih =>
    obtain ⟨k, v⟩ := row
    by_cases hk : k = key
    · subst hk
      by_cases ho : k = other
      · simp [putRows, find?, ho]
      · simp [putRows, find?, ho, Ne.symm ho]
    · by_cases ho : k = other
      · subst ho
        simp [putRows, find?, hk]
      · simp [putRows, find?, hk, ho, ih]

/-- A value that was put is found, and the other keys are as before. -/
@[simp] theorem get?_put (t : Table α β) (key other : α) (value : β) :
    (t.put key value).get? other = if other = key then some value else t.get? other :=
  find?_putRows key other value t.rows

theorem find?_filter_ne (key other : α) (rows : List (α × β)) :
    find? other (rows.filter (fun row => row.1 ≠ key))
      = if other = key then none else find? other rows := by
  induction rows with
  | nil => simp [find?]
  | cons row rows ih =>
    obtain ⟨k, v⟩ := row
    by_cases hk : k = key
    · subst hk
      by_cases ho : other = k
      · simp_all
      · simp_all [find?, Ne.symm ho]
    · by_cases ho : k = other
      · subst ho
        simp [find?, hk]
      · simp_all [find?]

/-- An erased key is gone, and the other keys are as before. -/
@[simp] theorem get?_erase (t : Table α β) (key other : α) :
    (t.erase key).get? other = if other = key then none else t.get? other :=
  find?_filter_ne key other t.rows

@[simp] theorem get?_empty (key : α) : (empty : Table α β).get? key = none := rfl

end Table

end SkipPath
