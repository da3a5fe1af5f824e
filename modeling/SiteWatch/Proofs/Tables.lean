/-
# Tables

Values that are kept under keys, as lists of pairs. What is kept for one key is nothing to another one.
-/

namespace SiteWatch

variable {α β : Type} [BEq α] [LawfulBEq α] {table : List (α × β)}

theorem mem_of_lookup {key : α} {value : β} (hlookup : table.lookup key = some value) :
    (key, value) ∈ table := by
  obtain ⟨before, after, rfl, -⟩ := List.lookup_eq_some_iff.mp hlookup
  simp

/-- Dropping what is kept for a key leaves what is kept for the others. -/
theorem lookup_filter_ne {key other : α} (hother : other ≠ key) (table : List (α × β)) :
    (table.filter (·.1 != key)).lookup other = table.lookup other := by
  induction table with
  | nil => rfl
  | cons entry rest ih =>
      by_cases hentry : entry.1 = key
      · have hkey : (other == entry.1) = false := by simpa [hentry] using hother
        rw [List.filter_cons_of_neg (by simp [hentry]), ih, List.lookup_cons, hkey]
      · rw [List.filter_cons_of_pos (by simp [hentry]), List.lookup_cons, List.lookup_cons, ih]

/-- Keeping a value for a key is nothing to the other keys. -/
theorem lookup_cons_filter_ne {key other : α} (hother : other ≠ key) (value : β)
    (table : List (α × β)) :
    ((key, value) :: table.filter (·.1 != key)).lookup other = table.lookup other := by
  have hkey : (other == key) = false := by simpa using hother
  rw [List.lookup_cons, hkey]
  exact lookup_filter_ne hother table

end SiteWatch
