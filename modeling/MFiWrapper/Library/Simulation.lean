import MFiWrapper.Library.Runs

/-!
# Refinement between partial step functions

A concrete machine refines an abstract one if every event of the concrete machine can
be matched by a run of the abstract one, the shadow of the event, after which the two
are related again.  The shadow may be empty: the abstract machine then does not notice
the event.  `run_simulation_within_of` is the rule for whole runs.  It uses the abstract
machine to show that the concrete one completes, so that progress, too, needs to be
proved once only.
-/

namespace MFiWrapper
namespace Library

variable {γ α ε δ : Type*}

/-- What the abstract machine does during a run of the concrete one. -/
def shadows (step : γ → ε → Option γ) (shadow : γ → ε → List δ) : γ → List ε → List δ
  | _, [] => []
  | c, e :: events =>
      shadow c e ++ ((step c e).map fun c' => shadows step shadow c' events).getD []

section Rules

variable {step : γ → ε → Option γ} {abstract : α → δ → Option α} {shadow : γ → ε → List δ}
  {related : γ → α → Prop}

theorem shadows_cons {c c' : γ} {e : ε} (hStep : step c e = some c') (events : List ε) :
    shadows step shadow c (e :: events) = shadow c e ++ shadows step shadow c' events := by
  rw [shadows, hStep]
  rfl

/-- Simulation rule, while a resource lasts that the events use up and for the events that
can occur.  Related states stay related, and the concrete run completes with its shadow. -/
theorem run_simulation_within_of (used : α → Nat) (cost : ε → Nat) (budget : Nat)
    (can : ε → Prop)
    (hStep : ∀ c a e, related c a → can e → used a + cost e ≤ budget →
      ∃ c' a', step c e = some c' ∧ run abstract a (shadow c e) = some a' ∧ related c' a' ∧
        used a' = used a + cost e)
    {c : γ} {a : α} (hInit : related c a) {events : List ε} (hCan : ∀ e ∈ events, can e)
    (hBudget : used a + (events.map cost).sum ≤ budget) :
    ∃ c' a', run step c events = some c' ∧
      run abstract a (shadows step shadow c events) = some a' ∧ related c' a' ∧
      used a' = used a + (events.map cost).sum := by
  induction events generalizing c a with
  | nil => exact ⟨c, a, rfl, rfl, hInit, rfl⟩
  | cons e events ih =>
      rw [List.map_cons, List.sum_cons] at hBudget ⊢
      obtain ⟨hNow, hLater⟩ := List.forall_mem_cons.mp hCan
      obtain ⟨c₁, a₁, hConcrete, hAbstract, hRelated, hUsed⟩ := hStep c a e hInit hNow (by omega)
      obtain ⟨c₂, a₂, hRun, hShadow, hRelated', hUsed'⟩ := ih hRelated hLater (by omega)
      refine ⟨c₂, a₂, ?_, ?_, hRelated', by omega⟩
      · rw [run_cons, hConcrete]
        exact hRun
      · rw [shadows_cons hConcrete, run_append, hAbstract]
        exact hShadow

/-- Simulation rule, when every event can occur. -/
theorem run_simulation_within (used : α → Nat) (cost : ε → Nat) (budget : Nat)
    (hStep : ∀ c a e, related c a → used a + cost e ≤ budget →
      ∃ c' a', step c e = some c' ∧ run abstract a (shadow c e) = some a' ∧ related c' a' ∧
        used a' = used a + cost e)
    {c : γ} {a : α} (hInit : related c a) {events : List ε}
    (hBudget : used a + (events.map cost).sum ≤ budget) :
    ∃ c' a', run step c events = some c' ∧
      run abstract a (shadows step shadow c events) = some a' ∧ related c' a' ∧
      used a' = used a + (events.map cost).sum :=
  run_simulation_within_of used cost budget (fun _ => True)
    (fun c a e hRelated _ => hStep c a e hRelated) hInit (fun _ _ => trivial) hBudget

/-- Erasure rule: if some events are lost on a machine from whose states something was
erased and the others commute with erasing, then erasing at the end of a run is a run
without the lost events. -/
theorem run_erase (erase : γ → γ) (keeps : ε → Bool)
    (hKeep : ∀ c e, keeps e = true → step (erase c) e = (step c e).map erase)
    (hLose : ∀ c e, keeps e = false → (step c e).map erase = some (erase c))
    (c : γ) (events : List ε) :
    (run step c events).map erase = run step (erase c) (events.filter keeps) := by
  induction events generalizing c with
  | nil => rfl
  | cons e events ih =>
      rw [run_cons]
      cases hKeeps : keeps e with
      | true =>
          rw [List.filter_cons_of_pos hKeeps, run_cons, hKeep c e hKeeps]
          cases step c e with
          | none => rfl
          | some c' => exact ih c'
      | false =>
          rw [List.filter_cons_of_neg (by simp [hKeeps])]
          obtain ⟨c', hStep, hErase⟩ := Option.map_eq_some_iff.mp (hLose c e hKeeps)
          rw [hStep, Option.bind_some, ih c', hErase]

end Rules

end Library
end MFiWrapper
