import Mathlib.Data.List.Basic
import Mathlib.Logic.Function.Basic

/-!
# Finite maps and the entries they hold

A finite map is given by its lookup function.  `Holds map entries` says that
the map holds exactly the listed entries; the rules below say what becomes of
the list when a key is inserted, stored again or erased, and when a store
destroys the correspondence.
-/

namespace MFiWrapper
namespace Library

variable {κ ν : Type*}

/-- The map holds exactly the listed entries. -/
def Holds (map : κ → Option ν) (entries : List (κ × ν)) : Prop :=
  ∀ k v, map k = some v ↔ (k, v) ∈ entries

section Rules

variable {map : κ → Option ν} {entries : List (κ × ν)} {k : κ} {v w : ν}

theorem holds_nil : Holds (fun _ : κ => (none : Option ν)) [] := by
  intro k v
  simp

theorem Holds.unique (hHolds : Holds map entries) (hv : (k, v) ∈ entries)
    (hw : (k, w) ∈ entries) : v = w :=
  Option.some.inj (((hHolds k v).mpr hv).symm.trans ((hHolds k w).mpr hw))

theorem Holds.isSome_iff (hHolds : Holds map entries) (k : κ) :
    (map k).isSome ↔ k ∈ entries.map Prod.fst := by
  rw [Option.isSome_iff_exists, List.mem_map]
  constructor
  · rintro ⟨v, hv⟩
    exact ⟨(k, v), (hHolds k v).mp hv, rfl⟩
  · rintro ⟨⟨_, v⟩, hv, rfl⟩
    exact ⟨v, (hHolds _ v).mpr hv⟩

theorem Holds.eq_none_iff (hHolds : Holds map entries) (k : κ) :
    map k = none ↔ k ∉ entries.map Prod.fst := by
  rw [← hHolds.isSome_iff, Option.not_isSome_iff_eq_none]

variable [DecidableEq κ]

/-- Inserting a new key appends an entry. -/
theorem Holds.insert (hHolds : Holds map entries) (hFresh : map k = none) (v : ν) :
    Holds (Function.update map k (some v)) (entries ++ [(k, v)]) := by
  intro k' v'
  rw [List.mem_append, List.mem_singleton, Prod.mk.injEq]
  by_cases hKey : k' = k
  · subst hKey
    -- the key had no entry before
    have hNot : (k', v') ∉ entries := fun hMem => by
      simp [(hHolds k' v').mpr hMem] at hFresh
    rw [Function.update_self, Option.some.injEq]
    simp [hNot, eq_comm]
  · rw [Function.update_of_ne hKey, hHolds k' v']
    simp [hKey]

/-- Storing what the map holds already changes nothing. -/
theorem Holds.store_same (hHolds : Holds map entries) (hMem : (k, v) ∈ entries) :
    Function.update map k (some v) = map := by
  rw [← (hHolds k v).mpr hMem, Function.update_eq_self]

/-- Erasing a key drops its entry. -/
theorem Holds.erase (hHolds : Holds map entries) (k : κ) :
    Holds (Function.update map k none) (entries.filter fun entry => entry.1 ≠ k) := by
  intro k' v'
  rw [List.mem_filter]
  by_cases hKey : k' = k
  · subst hKey
    rw [Function.update_self]
    simp
  · rw [Function.update_of_ne hKey, hHolds k' v']
    simp [hKey]

/-- No list of entries with an older value of the key fits after a store. -/
theorem not_holds_of_stale (hMem : (k, w) ∈ entries) (hNe : w ≠ v) :
    ¬ Holds (Function.update map k (some v)) entries := by
  intro hHolds
  have hStored := (hHolds k w).mpr hMem
  rw [Function.update_self, Option.some.injEq] at hStored
  exact hNe hStored.symm

/-- No list of entries without the key fits after a store. -/
theorem not_holds_of_missing (hMissing : k ∉ entries.map Prod.fst) :
    ¬ Holds (Function.update map k (some v)) entries := by
  intro hHolds
  have hStored := (hHolds k v).mp (Function.update_self ..)
  exact hMissing (List.mem_map.mpr ⟨_, hStored, rfl⟩)

/-- No list of entries with the key fits after it was erased. -/
theorem not_holds_of_erased (hMem : (k, w) ∈ entries) :
    ¬ Holds (Function.update map k none) entries := by
  intro hHolds
  have hStored := (hHolds k w).mpr hMem
  rw [Function.update_self] at hStored
  cases hStored

end Rules

end Library
end MFiWrapper
