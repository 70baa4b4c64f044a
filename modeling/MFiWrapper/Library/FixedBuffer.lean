import Mathlib.Data.List.Basic
import Mathlib.Tactic.Basic

/-!
# Stores into a buffer of fixed size

A block of cells is stored at an offset of a buffer whose size its type says.  A store
that would go beyond the buffer has no result.  The rules are for a buffer that is
filled front to back: what has been stored so far, then what was in the rest of it.
-/

namespace MFiWrapper
namespace Library

variable {α : Type} {size : Nat}

/-- Copy a block to an offset, if it ends inside the buffer. -/
def store (buffer : Vector α size) (offset : Nat) (block : List α) : Option (Vector α size) :=
  if hInside : offset + block.length ≤ size then
    some ⟨(buffer.toList.take offset ++ block ++
      buffer.toList.drop (offset + block.length)).toArray, by
        simp only [List.size_toArray, List.length_append, List.length_take, List.length_drop,
          Vector.length_toList]
        omega⟩
  else none

theorem store_eq_none_iff {buffer : Vector α size} {offset : Nat} {block : List α} :
    store buffer offset block = none ↔ size < offset + block.length := by
  rw [store]
  split_ifs with hInside
  · simp [hInside]
  · simpa using hInside

/-- A store at the end of what is filled, into what is left. -/
theorem exists_store {buffer : Vector α size} {front rest : List α} (offset : Nat)
    (block : List α) (hFilled : buffer.toList = front ++ rest) (hOffset : front.length = offset)
    (hRoom : block.length ≤ rest.length) :
    ∃ buffer', store buffer offset block = some buffer' ∧
      buffer'.toList = (front ++ block) ++ rest.drop block.length := by
  have hSize : front.length + rest.length = size := by
    rw [← List.length_append, ← hFilled, Vector.length_toList]
  have hInside : offset + block.length ≤ size := by omega
  refine ⟨_, dif_pos hInside, ?_⟩
  show buffer.toList.take offset ++ block ++ buffer.toList.drop (offset + block.length) = _
  rw [hFilled, List.take_left' hOffset, ← hOffset, List.drop_length_add_append]

end Library
end MFiWrapper
