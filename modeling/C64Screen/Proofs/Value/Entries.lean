import C64Screen.Value
import Mathlib.Data.List.Nodup

/-!
# Entries of a table

A key has a value in a table if one of the entries is of that key, and where no key comes twice, it has the value
of that entry, in whatever order the entries come.
-/

namespace C64Screen.Value

variable {key : String} {v : Value} {entries : List (String × Value)}

theorem lookup_eq_none_iff : lookup key entries = none ↔ key ∉ entries.map Prod.fst := by
  induction entries with
  | nil => simp [lookup]
  | cons e rest ih =>
    obtain ⟨k, w⟩ := e
    rw [lookup, List.map_cons, List.mem_cons, not_or, eq_comm (a := key)]
    split
    · next same => simp [same]
    · next other => rw [ih, and_iff_right other]

theorem lookup_of_mem (distinct : (entries.map Prod.fst).Nodup) (listed : (key, v) ∈ entries) :
    lookup key entries = some v := by
  induction entries with
  | nil => cases listed
  | cons e rest ih =>
    rw [List.map_cons, List.nodup_cons] at distinct
    rcases List.mem_cons.mp listed with rfl | later
    · exact if_pos rfl
    · have other : e.1 ≠ key := fun same => distinct.1 (List.mem_map.mpr ⟨(key, v), later, same.symm⟩)
      rw [lookup, if_neg other, ih distinct.2 later]

theorem mem_of_lookup (found : lookup key entries = some v) : (key, v) ∈ entries := by
  induction entries with
  | nil => cases found
  | cons e rest ih =>
    obtain ⟨k, w⟩ := e
    rw [lookup] at found
    split at found
    · next same =>
      cases same
      cases found
      exact List.mem_cons_self
    · exact List.mem_cons_of_mem _ (ih found)

theorem lookup_eq_some_iff (distinct : (entries.map Prod.fst).Nodup) :
    lookup key entries = some v ↔ (key, v) ∈ entries :=
  ⟨mem_of_lookup, lookup_of_mem distinct⟩

/-- In what order the entries come is no matter. -/
theorem lookup_perm {arranged : List (String × Value)} (distinct : (entries.map Prod.fst).Nodup)
    (perm : entries.Perm arranged) (key : String) : lookup key arranged = lookup key entries := by
  have rearranged : (arranged.map Prod.fst).Nodup := (perm.map Prod.fst).nodup_iff.mp distinct
  ext v
  rw [lookup_eq_some_iff rearranged, lookup_eq_some_iff distinct, perm.mem_iff]

/-- A key that is new goes to the end. -/
theorem assign_of_not_mem (fresh : key ∉ entries.map Prod.fst) (v : Value) :
    assign key v entries = entries ++ [(key, v)] := by
  induction entries with
  | nil => rfl
  | cons e rest ih =>
    rw [List.map_cons, List.mem_cons, not_or] at fresh
    rw [assign, if_neg (Ne.symm fresh.1), ih fresh.2]
    rfl

end C64Screen.Value
