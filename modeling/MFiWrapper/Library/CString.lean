import Mathlib.Data.List.TakeWhile
import Mathlib.Tactic.Basic

/-!
# Strings that end at a terminator

A string in memory goes on to the first terminator.  Whether it ends inside the
part of the memory that belongs to an object is a question about that part only,
and then so is the string.
-/

namespace MFiWrapper
namespace Library

variable {α : Type*} [DecidableEq α] {terminator : α} {memory : List α}

/-- The string ends before the memory does, if a terminator is in it. -/
theorem length_takeWhile_lt_iff :
    (memory.takeWhile (· ≠ terminator)).length < memory.length ↔ terminator ∈ memory := by
  constructor
  · intro hShort
    by_contra hAbsent
    have hAll : memory.takeWhile (· ≠ terminator) = memory := by
      rw [List.takeWhile_eq_self_iff]
      intro character hMem
      exact decide_eq_true fun hEnd => hAbsent (hEnd ▸ hMem)
    rw [hAll] at hShort
    exact absurd hShort (lt_irrefl _)
  · intro hMem
    refine lt_of_le_of_ne (List.takeWhile_prefix _).length_le fun hLength => ?_
    have hAll := (List.takeWhile_prefix (· ≠ terminator)).eq_of_length hLength
    rw [List.takeWhile_eq_self_iff] at hAll
    exact absurd rfl (of_decide_eq_true (hAll terminator hMem))

/-- What follows the terminator does not matter. -/
theorem takeWhile_append_of_mem (hMem : terminator ∈ memory) (beyond : List α) :
    (memory ++ beyond).takeWhile (· ≠ terminator) = memory.takeWhile (· ≠ terminator) := by
  rw [List.takeWhile_append, if_neg (length_takeWhile_lt_iff.mpr hMem).ne]

/-- Without one the string goes on behind the memory. -/
theorem takeWhile_append_of_notMem (hAbsent : terminator ∉ memory) (beyond : List α) :
    (memory ++ beyond).takeWhile (· ≠ terminator) =
      memory ++ beyond.takeWhile (· ≠ terminator) := by
  apply List.takeWhile_append_of_pos
  intro character hMem
  exact decide_eq_true fun hEnd => hAbsent (hEnd ▸ hMem)

end Library
end MFiWrapper
