/-!
# Tables

A table is a list of keys with values, and the first entry of a key counts. `put` gives a
key a new value. Main statement: `lookup_put`.
-/

namespace ChannelWatch.Table
set_option autoImplicit false

variable {κ ν : Type} [DecidableEq κ]

/-- The table with a new value under a key. -/
def put (table : List (κ × ν)) (key : κ) (value : ν) : List (κ × ν) :=
  (key, value) :: table.filter fun entry => entry.1 ≠ key

theorem lookup_entry (key k : κ) (value : ν) (table : List (κ × ν)) :
    List.lookup key ((k, value) :: table) = if key = k then some value else table.lookup key := by
  have step : List.lookup key ((k, value) :: table) =
      match key == k with
      | true => some value
      | false => table.lookup key := rfl
  rw [step]
  by_cases h : key = k
  · subst h
    simp
  · have miss : (key == k) = false := beq_eq_false_iff_ne.2 h
    rw [miss, if_neg h]

theorem lookup_filter_ne (table : List (κ × ν)) {key k : κ} (ne : k ≠ key) :
    (table.filter fun entry => entry.1 ≠ key).lookup k = table.lookup k := by
  induction table with
  | nil => rfl
  | cons entry table ih =>
    obtain ⟨a, v⟩ := entry
    by_cases drop : a = key
    · rw [List.filter_cons_of_neg (by simpa using drop), ih, lookup_entry, drop, if_neg ne]
    · rw [List.filter_cons_of_pos (by simpa using drop), lookup_entry, lookup_entry, ih]

theorem lookup_put (table : List (κ × ν)) (key k : κ) (value : ν) :
    (put table key value).lookup k = if k = key then some value else table.lookup k := by
  rw [put, lookup_entry]
  by_cases h : k = key
  · rw [if_pos h, if_pos h]
  · rw [if_neg h, if_neg h, lookup_filter_ne table h]

end ChannelWatch.Table
