import Mathlib.Logic.Relation

/-!
# Machines that halt

A machine is a partial function `step : σ → Option σ` on its states; it halts where
`step` gives `none`.  A machine with a measure that every step makes smaller gets to
a state in which it halts, and an invariant of the steps holds there.
-/

namespace MFiWrapper
namespace Library

variable {σ : Type*} {step : σ → Option σ}

/-- The machine gets from one state to the other. -/
def Reaches (step : σ → Option σ) : σ → σ → Prop :=
  Relation.ReflTransGen fun s s' => step s = some s'

/-- A measure that every step makes smaller leads to a state in which the machine halts. -/
theorem exists_halted (measure : σ → Nat)
    (hStep : ∀ s s', step s = some s' → measure s' < measure s) (s : σ) :
    ∃ final, Reaches step s final ∧ step final = none := by
  induction hMeasure : measure s using Nat.strongRecOn generalizing s with
  | ind n ih =>
      cases hNext : step s with
      | none => exact ⟨s, .refl, hNext⟩
      | some s' =>
          have hSmaller := hStep s s' hNext
          rw [hMeasure] at hSmaller
          obtain ⟨final, hReaches, hHalted⟩ := ih (measure s') hSmaller s' rfl
          exact ⟨final, .head hNext hReaches, hHalted⟩

/-- An invariant of the steps. -/
theorem Reaches.invariant {inv : σ → Prop} (hStep : ∀ s s', inv s → step s = some s' → inv s')
    {s s' : σ} (hReaches : Reaches step s s') (hInit : inv s) : inv s' := by
  induction hReaches with
  | refl => exact hInit
  | tail _ hNext ih => exact hStep _ _ ih hNext

end Library
end MFiWrapper
