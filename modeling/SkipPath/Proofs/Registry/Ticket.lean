import SkipPath.Registry.Basic
import Mathlib.Data.List.Nodup

/-!
Tickets and removal marks.

What each operation of the registry does to the views of it: the published profile, the settings, the last
ticket and the removal mark of a project.  Only `clear` needs more than the views: it goes through the
rows of the table of tickets, so that a project must not have two of them (`Registry.OneCounterEach`).
-/

namespace SkipPath

namespace Table

variable {α β : Type} [DecidableEq α]

theorem mem_of_mem_putRows {key : α} {value : β} {rows : List (α × β)} {other : α}
    (h : other ∈ (putRows key value rows).map (·.1)) : other = key ∨ other ∈ rows.map (·.1) := by
  induction rows with
  | nil => exact .inl (by simpa [putRows] using h)
  | cons row rows ih =>
    obtain ⟨k, v⟩ := row
    unfold putRows at h
    by_cases hk : k = key
    · rw [if_pos hk] at h
      exact .inr h
    · rw [if_neg hk] at h
      rcases List.mem_cons.mp h with h | h
      · exact .inr (List.mem_cons.mpr (.inl h))
      · exact (ih h).imp id (List.mem_cons_of_mem k)

theorem nodup_putRows (key : α) (value : β) {rows : List (α × β)} (h : (rows.map (·.1)).Nodup) :
    ((putRows key value rows).map (·.1)).Nodup := by
  induction rows with
  | nil => simp [putRows]
  | cons row rows ih =>
    obtain ⟨k, v⟩ := row
    have hn := List.nodup_cons.mp h
    unfold putRows
    by_cases hk : k = key
    · rw [if_pos hk]
      exact h
    · rw [if_neg hk]
      refine List.nodup_cons.mpr ⟨fun hmem => ?_, ih hn.2⟩
      exact (mem_of_mem_putRows hmem).elim hk hn.1

/-- A table with every key once still has every key once when a value is put. -/
theorem nodup_keys_put {t : Table α β} (h : t.keys.Nodup) (key : α) (value : β) :
    (t.put key value).keys.Nodup := nodup_putRows key value h

theorem find?_eq_none {key : α} {rows : List (α × β)} (h : key ∉ rows.map (·.1)) :
    find? key rows = none := by
  induction rows with
  | nil => rfl
  | cons row rows ih =>
    obtain ⟨k, v⟩ := row
    have hk : k ≠ key := fun e => h (by simp [e])
    rw [find?, if_neg hk]
    exact ih fun hmem => h (List.mem_cons_of_mem k hmem)

/-- Putting all rows of a table into another one, whose own values stay under the other keys. -/
theorem get?_foldl_put (rows : List (α × β)) (hrows : (rows.map (·.1)).Nodup) (t : Table α β)
    (key : α) :
    (rows.foldl (fun t row => t.put row.1 row.2) t).get? key =
      (find? key rows).or (t.get? key) := by
  induction rows generalizing t with
  | nil => rfl
  | cons row rows ih =>
    obtain ⟨k, v⟩ := row
    have hn := List.nodup_cons.mp hrows
    rw [List.foldl_cons, ih hn.2, get?_put, find?]
    by_cases hk : k = key
    · subst hk
      rw [find?_eq_none hn.1, if_pos rfl, if_pos rfl, Option.none_or, Option.some_or]
    · rw [if_neg hk, if_neg (Ne.symm hk)]

end Table

namespace Registry

variable (r : Registry) (root other : Path)

/-! ## 1. Beginning -/

@[simp] theorem begin_fst : (r.begin root).1 = r.lastTicket root + 1 := rfl

@[simp] theorem begin_defaultConfig : (r.begin root).2.defaultConfig = r.defaultConfig := rfl

@[simp] theorem get?_begin : (r.begin root).2.get? other = r.get? other := rfl

@[simp] theorem configs_begin : (r.begin root).2.configs = r.configs := rfl

@[simp] theorem removalMark_begin : (r.begin root).2.removalMark other = r.removalMark other := rfl

@[simp] theorem lastTicket_begin :
    (r.begin root).2.lastTicket other =
      if other = root then r.lastTicket root + 1 else r.lastTicket other := by
  unfold lastTicket Registry.begin
  rw [Table.get?_put]
  split <;> rfl

/-! ## 2. Ending -/

variable (config : Config) (ending : Ending)

@[simp] theorem apply_defaultConfig : (r.apply root config ending).defaultConfig = r.defaultConfig := by
  cases ending <;> rfl

@[simp] theorem tickets_apply : (r.apply root config ending).tickets = r.tickets := by
  cases ending <;> rfl

@[simp] theorem lastTicket_apply :
    (r.apply root config ending).lastTicket other = r.lastTicket other := by
  cases ending <;> rfl

@[simp] theorem removalMark_apply :
    (r.apply root config ending).removalMark other = r.removalMark other := by
  cases ending <;> rfl

@[simp] theorem get?_apply_published (held : Held) :
    (r.apply root config (.published held)).get? other =
      if other = root then some held else r.get? other := Table.get?_put ..

@[simp] theorem configs_apply_published (held : Held) :
    (r.apply root config (.published held)).configs.get? other =
      if other = root then some config else r.configs.get? other := Table.get?_put ..

/-- How a request ends, by its ticket. -/
theorem ending_cases (ticket : Nat) (profile : Profile) (record : Export.RecordId) :
    (ticket ≤ r.removalMark root ∧ r.ending root ticket profile record = .discarded) ∨
    (r.removalMark root < ticket ∧ (∃ current, r.get? root = some current ∧ ticket < current.ticket ∧
      r.ending root ticket profile record = .superseded current)) ∨
    (r.removalMark root < ticket ∧ (∀ current, r.get? root = some current → current.ticket ≤ ticket) ∧
      r.ending root ticket profile record = .published
        { profile := profile, ticket := ticket
          record := (r.get? root).elim record (·.record) }) := by
  unfold ending
  by_cases hmark : ticket ≤ r.removalMark root
  · exact .inl ⟨hmark, if_pos hmark⟩
  · rw [if_neg hmark]
    cases hcurrent : r.get? root with
    | none =>
      exact .inr (.inr ⟨by omega, fun current h => absurd h.symm (Option.some_ne_none current), rfl⟩)
    | some current =>
      by_cases hlt : ticket < current.ticket
      · exact .inr (.inl ⟨by omega, current, rfl, hlt, if_pos hlt⟩)
      · refine .inr (.inr ⟨by omega, fun other hother => ?_, if_neg hlt⟩)
        cases hother
        omega

/-! ## 3. Removing -/

@[simp] theorem remove_defaultConfig : (r.remove root).defaultConfig = r.defaultConfig := rfl

@[simp] theorem lastTicket_remove : (r.remove root).lastTicket other = r.lastTicket other := rfl

@[simp] theorem get?_remove :
    (r.remove root).get? other = if other = root then none else r.get? other := Table.get?_erase ..

@[simp] theorem configs_remove :
    (r.remove root).configs.get? other = if other = root then none else r.configs.get? other :=
  Table.get?_erase ..

@[simp] theorem removalMark_remove :
    (r.remove root).removalMark other =
      if other = root then r.lastTicket root else r.removalMark other := by
  unfold removalMark Registry.remove
  rw [Table.get?_put]
  split <;> rfl

@[simp] theorem clear_defaultConfig : r.clear.defaultConfig = r.defaultConfig := rfl

@[simp] theorem lastTicket_clear : r.clear.lastTicket other = r.lastTicket other := rfl

@[simp] theorem get?_clear : r.clear.get? other = none := rfl

@[simp] theorem configs_clear : r.clear.configs.get? other = none := rfl

/-- Each project has one counter of tickets. -/
def OneCounterEach : Prop := r.tickets.keys.Nodup

/-- The marks after clearing are the last tickets, where there are any. -/
theorem get?_removed_clear (h : r.OneCounterEach) :
    r.clear.removed.get? other = (r.tickets.get? other).or (r.removed.get? other) :=
  Table.get?_foldl_put r.tickets.rows h r.removed other

/-- Clearing voids all tickets of all projects that have any. -/
theorem removalMark_clear (h : r.OneCounterEach) :
    r.clear.removalMark other =
      if (r.tickets.get? other).isSome then r.lastTicket other else r.removalMark other := by
  unfold removalMark lastTicket
  rw [get?_removed_clear r other h]
  cases r.tickets.get? other <;> rfl

end Registry

end SkipPath
