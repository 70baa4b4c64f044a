import Mathlib.Data.List.Basic

/-!
# Changes in a list

A change at one place of a list cannot be seen through a function that gives the same
for the new value as for the old one.  Changes that commute at every value commute in a list.
-/

namespace MFiWrapper
namespace Library

variable {α β : Type*} {f : α → β}

theorem map_modify_of_same {g : α → α} (hSame : ∀ a, f (g a) = f a) (l : List α) (i : Nat) :
    (l.modify i g).map f = l.map f := by
  apply List.ext_getElem?
  intro j
  rw [List.getElem?_map, List.getElem?_modify, List.getElem?_map]
  cases l[j]? with
  | none => rfl
  | some a =>
      simp only [Option.map_some]
      split_ifs
      · exact congrArg some (hSame a)
      · rfl

theorem map_set_of_same {l : List α} {i : Nat} {a : α} (hAt : l[i]? = some a) {a' : α}
    (hSame : f a' = f a) : (l.set i a').map f = l.map f := by
  have hMapped : (l.map f)[i]? = some (f a) := by
    rw [List.getElem?_map, hAt]
    rfl
  obtain ⟨hLt, hValue⟩ := List.getElem?_eq_some_iff.mp hMapped
  rw [List.map_set, hSame, ← hValue]
  exact List.set_getElem_self hLt

theorem set_eq_modify {l : List α} {i : Nat} {a : α} (hAt : l[i]? = some a) (g : α → α) :
    l.set i (g a) = l.modify i g := by
  apply List.ext_getElem?
  intro j
  rw [List.getElem?_set, List.getElem?_modify]
  split_ifs with hSame hLt
  · rw [← hSame, hAt]
    rfl
  · rw [← hSame, List.getElem?_eq_none (Nat.le_of_not_lt hLt)]
    rfl
  · cases l[j]? <;> rfl

/-- Only the value at the place matters. -/
theorem modify_congr {l : List α} {i : Nat} {a : α} (hAt : l[i]? = some a) {g h : α → α}
    (hSame : g a = h a) : l.modify i g = l.modify i h := by
  rw [← set_eq_modify hAt g, ← set_eq_modify hAt h, hSame]

/-- Changes that commute at every value commute at any two places. -/
theorem modify_comm {g h : α → α} (hComm : ∀ a, h (g a) = g (h a)) (l : List α) (i j : Nat) :
    (l.modify i g).modify j h = (l.modify j h).modify i g := by
  by_cases hSame : i = j
  · have hComp : h ∘ g = g ∘ h := funext hComm
    rw [hSame, List.modify_modify_eq, List.modify_modify_eq, hComp]
  · exact List.modify_modify_ne g h l hSame

end Library
end MFiWrapper
