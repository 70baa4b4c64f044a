import Mathlib.Data.List.Destutter

/-!
# Changes of a value

What somebody hears who is told of a value whenever it is another than before.
-/

namespace MFiWrapper
namespace Library

variable {α : Type*} [DecidableEq α]

/-- The values that differ from the one before. -/
def changes (before : α) (values : List α) : List α := (values.destutter' (· ≠ ·) before).tail

@[simp] theorem changes_nil (before : α) : changes before [] = [] := rfl

theorem changes_cons_same (before : α) (values : List α) :
    changes before (before :: values) = changes before values := by
  rw [changes, List.destutter'_cons_neg values (not_not.mpr rfl), changes]

/-- The first value, then the changes. -/
theorem destutter'_eq (before : α) (values : List α) :
    values.destutter' (· ≠ ·) before = before :: changes before values := by
  induction values generalizing before with
  | nil => rfl
  | cons value values ih =>
      by_cases hSame : before = value
      · rw [hSame, changes_cons_same, List.destutter'_cons_neg values (not_not.mpr rfl), ih]
      · rw [changes, List.destutter'_cons_pos values hSame, List.tail_cons]

theorem changes_cons_other {before now : α} (hOther : before ≠ now) (values : List α) :
    changes before (now :: values) = now :: changes now values := by
  rw [changes, List.destutter'_cons_pos values hOther, List.tail_cons, destutter'_eq]

/-- One more value is one more change, or none. -/
theorem changes_concat (before : α) (values : List α) (now : α) :
    changes before (values ++ [now]) =
      changes before values ++ if values.getLastD before = now then [] else [now] := by
  induction values generalizing before with
  | nil =>
      rw [List.nil_append, List.getLastD_nil, changes_nil, List.nil_append]
      split_ifs with hSame
      · rw [hSame, changes_cons_same, changes_nil]
      · rw [changes_cons_other hSame, changes_nil]
  | cons value values ih =>
      rw [List.cons_append, List.getLastD_cons]
      by_cases hSame : before = value
      · rw [hSame, changes_cons_same, changes_cons_same, ih]
      · rw [changes_cons_other hSame, changes_cons_other hSame, ih, List.cons_append]

end Library
end MFiWrapper
