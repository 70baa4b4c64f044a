import Mathlib.Data.List.Basic
import Mathlib.Tactic.SplitIfs

/-!
# Computations that record what they look at

A value together with the places (the indexes of a buffer, the keys of a table)
that were used to compute it, in order.  A program is written once with and once
without the record; `value` relates the two, and `Within` says that every place
that was used is an allowed one.  The rules take a program apart at its binds, so
the condition under which it stays within the allowed places can be read off.
-/

namespace MFiWrapper
namespace Library

/-- A value and the places used to compute it. -/
structure Accessing (ι α : Type) where
  value : α
  used : List ι

namespace Accessing

variable {ι α β : Type}

instance : Monad (Accessing ι) where
  pure value := ⟨value, []⟩
  bind first next := ⟨(next first.value).value, first.used ++ (next first.value).used⟩

/-- Use some places, for the value that is found there.  Irreducible: `simp` must
not change the condition of a branch without its decision. -/
@[irreducible] def use (places : List ι) (value : α) : Accessing ι α := ⟨value, places⟩

@[simp] theorem value_pure (value : α) : (pure value : Accessing ι α).value = value := rfl

@[simp] theorem value_use (places : List ι) (value : α) : (use places value).value = value := by
  unfold use
  rfl

@[simp] theorem value_bind (first : Accessing ι α) (next : α → Accessing ι β) :
    (first >>= next).value = (next first.value).value := rfl

@[simp] theorem value_ite (c : Prop) [Decidable c] (yes no : Accessing ι α) :
    (if c then yes else no).value = if c then yes.value else no.value := by
  split_ifs
  · rfl
  · rfl

/-- Only allowed places are used. -/
def Within (allowed : ι → Prop) (computation : Accessing ι α) : Prop :=
  ∀ place ∈ computation.used, allowed place

variable {allowed : ι → Prop}

@[simp] theorem within_pure (value : α) : (pure value : Accessing ι α).Within allowed := by
  intro place hUsed
  cases hUsed

@[simp] theorem within_use_iff (places : List ι) (value : α) :
    (use places value).Within allowed ↔ ∀ place ∈ places, allowed place := by
  unfold use
  rfl

@[simp] theorem within_bind_iff (first : Accessing ι α) (next : α → Accessing ι β) :
    (first >>= next).Within allowed ↔
      first.Within allowed ∧ (next first.value).Within allowed := by
  show (∀ place ∈ first.used ++ (next first.value).used, allowed place) ↔ _
  exact List.forall_mem_append

@[simp] theorem within_ite_iff (c : Prop) [Decidable c] (yes no : Accessing ι α) :
    (if c then yes else no).Within allowed ↔
      (c → yes.Within allowed) ∧ (¬ c → no.Within allowed) := by
  split_ifs with hCase
  · simp [hCase]
  · simp [hCase]

end Accessing

end Library
end MFiWrapper
