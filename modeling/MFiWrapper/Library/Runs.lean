import Mathlib.Algebra.GroupWithZero.Nat
import Mathlib.Data.List.Infix
import Mathlib.Tactic.Basic

/-!
# Runs of a partial step function

A program reacting to events is modelled by `step : σ → ε → Option σ`; `none`
is a step that never completes (an uncaught exception, a store outside an
object, a loop that spins forever).  A run is the fold of `step` over a list
of events, and it is defined exactly when every one of its steps completes.

Besides the usual invariant rule this file contains the *exactness* rules
`throughout_iff_along_allowed` and `throughout_iff_along`: when a property is
kept by precisely those steps that meet a condition, then it holds in every
state of a run if and only if every step of the run meets the condition.
-/

namespace MFiWrapper
namespace Library

variable {σ ε : Type*}

/-- The state after the events, or `none` if some step does not complete. -/
def run (step : σ → ε → Option σ) (s : σ) (events : List ε) : Option σ :=
  events.foldlM step s

@[simp] theorem run_nil (step : σ → ε → Option σ) (s : σ) :
    run step s [] = some s := rfl

theorem run_cons (step : σ → ε → Option σ) (s : σ) (e : ε) (events : List ε) :
    run step s (e :: events) = (step s e).bind fun s' => run step s' events := rfl

theorem run_singleton (step : σ → ε → Option σ) (s : σ) (e : ε) :
    run step s [e] = step s e := by
  rw [run_cons]
  exact Option.bind_fun_some (step s e)

theorem run_append (step : σ → ε → Option σ) (s : σ) (first second : List ε) :
    run step s (first ++ second) = (run step s first).bind fun s' => run step s' second :=
  List.foldlM_append

/-- Every step of the run that is reached meets `ok`. -/
def Along (step : σ → ε → Option σ) (ok : σ → ε → Prop) : σ → List ε → Prop
  | _, [] => True
  | s, e :: events => ok s e ∧ ∀ s', step s e = some s' → Along step ok s' events

instance Along.decidable {step : σ → ε → Option σ} {ok : σ → ε → Prop}
    [∀ s e, Decidable (ok s e)] : ∀ s events, Decidable (Along step ok s events)
  | _, [] => .isTrue trivial
  | s, e :: events =>
      let rest : Decidable (∀ s', step s e = some s' → Along step ok s' events) :=
        match step s e with
        | none => .isTrue fun _ h => nomatch h
        | some s₁ => @decidable_of_iff _ (Along step ok s₁ events)
            ⟨fun h _ hs' => Option.some.inj hs' ▸ h, fun h => h s₁ rfl⟩
            (Along.decidable s₁ events)
      @instDecidableAnd _ _ _ rest

/-- The run completes, and `good` holds in every state it goes through, the
first and the last included. -/
def Throughout (step : σ → ε → Option σ) (good : σ → Prop) (s : σ)
    (events : List ε) : Prop :=
  ∀ before, before <+: events → ∃ s', run step s before = some s' ∧ good s'

section Rules

variable {step : σ → ε → Option σ} {inv good : σ → Prop} {ok : σ → ε → Prop}

/-- Invariant rule: an invariant that every step re-establishes holds after
every run, and the run completes. -/
theorem run_invariant
    (hStep : ∀ s e, inv s → ∃ s', step s e = some s' ∧ inv s')
    {s : σ} (hInit : inv s) (events : List ε) :
    ∃ s', run step s events = some s' ∧ inv s' := by
  induction events generalizing s with
  | nil => exact ⟨s, rfl, hInit⟩
  | cons e events ih =>
      obtain ⟨s₁, hs₁, hInv₁⟩ := hStep s e hInit
      obtain ⟨s₂, hs₂, hInv₂⟩ := ih hInv₁
      exact ⟨s₂, by rw [run_cons, hs₁]; exact hs₂, hInv₂⟩

/-- Conditional invariant rule: the steps need only keep the invariant where
they meet the condition the run promises. -/
theorem run_invariant_along
    (hStep : ∀ s e, inv s → ok s e → ∃ s', step s e = some s' ∧ inv s')
    {s : σ} (hInit : inv s) {events : List ε} (hAlong : Along step ok s events) :
    ∃ s', run step s events = some s' ∧ inv s' := by
  induction events generalizing s with
  | nil => exact ⟨s, rfl, hInit⟩
  | cons e events ih =>
      obtain ⟨hOk, hRest⟩ := hAlong
      obtain ⟨s₁, hs₁, hInv₁⟩ := hStep s e hInit hOk
      obtain ⟨s₂, hs₂, hInv₂⟩ := ih hInv₁ (hRest s₁ hs₁)
      exact ⟨s₂, by rw [run_cons, hs₁]; exact hs₂, hInv₂⟩

/-- Budget rule: the steps need only keep the invariant while a resource that
they use up lasts and for the events that can occur, and the events of the run do
not cost more than there is. -/
theorem run_invariant_within_of (used : σ → Nat) (cost : ε → Nat) (budget : Nat) (can : ε → Prop)
    (hStep : ∀ s e, inv s → can e → used s + cost e ≤ budget →
      ∃ s', step s e = some s' ∧ inv s' ∧ used s' = used s + cost e)
    {s : σ} (hInit : inv s) {events : List ε} (hCan : ∀ e ∈ events, can e)
    (hBudget : used s + (events.map cost).sum ≤ budget) :
    ∃ s', run step s events = some s' ∧ inv s' := by
  induction events generalizing s with
  | nil => exact ⟨s, rfl, hInit⟩
  | cons e events ih =>
      rw [List.map_cons, List.sum_cons] at hBudget
      obtain ⟨hNow, hLater⟩ := List.forall_mem_cons.mp hCan
      obtain ⟨s₁, hs₁, hInv₁, hUsed⟩ := hStep s e hInit hNow (by omega)
      obtain ⟨s₂, hs₂, hInv₂⟩ := ih hInv₁ hLater (by omega)
      exact ⟨s₂, by rw [run_cons, hs₁]; exact hs₂, hInv₂⟩

/-- Budget rule, when every event can occur. -/
theorem run_invariant_within (used : σ → Nat) (cost : ε → Nat) (budget : Nat)
    (hStep : ∀ s e, inv s → used s + cost e ≤ budget →
      ∃ s', step s e = some s' ∧ inv s' ∧ used s' = used s + cost e)
    {s : σ} (hInit : inv s) {events : List ε}
    (hBudget : used s + (events.map cost).sum ≤ budget) :
    ∃ s', run step s events = some s' ∧ inv s' :=
  run_invariant_within_of used cost budget (fun _ => True) (fun s e hInv _ => hStep s e hInv)
    hInit (fun _ _ => trivial) hBudget

theorem along_before {s : σ} {before events : List ε}
    (hPrefix : before <+: events) (hAlong : Along step ok s events) :
    Along step ok s before := by
  induction before generalizing s events with
  | nil => trivial
  | cons e before ih =>
      obtain ⟨rest, rfl⟩ := hPrefix
      obtain ⟨hOk, hRest⟩ := hAlong
      exact ⟨hOk, fun s' hs' => ih (List.prefix_append before rest) (hRest s' hs')⟩

theorem throughout_of_along (hGood : ∀ s, inv s → good s)
    (hStep : ∀ s e, inv s → ok s e → ∃ s', step s e = some s' ∧ inv s')
    {s : σ} (hInit : inv s) {events : List ε} (hAlong : Along step ok s events) :
    Throughout step good s events := by
  intro before hPrefix
  obtain ⟨s', hs', hInv⟩ :=
    run_invariant_along hStep hInit (along_before hPrefix hAlong)
  exact ⟨s', hs', hGood s' hInv⟩

theorem along_and {allowed : σ → ε → Prop} {s : σ} {events : List ε}
    (hAllowed : Along step allowed s events) (hAlong : Along step ok s events) :
    Along step (fun s e => allowed s e ∧ ok s e) s events := by
  induction events generalizing s with
  | nil => trivial
  | cons e events ih =>
      exact ⟨⟨hAllowed.1, hAlong.1⟩, fun s' hs' => ih (hAllowed.2 s' hs') (hAlong.2 s' hs')⟩

theorem along_of_forall (hAll : ∀ s e, ok s e) (s : σ) (events : List ε) :
    Along step ok s events := by
  induction events generalizing s with
  | nil => trivial
  | cons e events ih => exact ⟨hAll s e, fun s' _ => ih s'⟩

/-- Two conditions that are the same for the steps from states with an invariant, when
the steps that meet them keep it. -/
theorem along_iff_along {ok' : σ → ε → Prop} (hIff : ∀ s e, inv s → (ok s e ↔ ok' s e))
    (hStep : ∀ s e s', inv s → ok' s e → step s e = some s' → inv s')
    {s : σ} (hInit : inv s) (events : List ε) :
    Along step ok s events ↔ Along step ok' s events := by
  induction events generalizing s with
  | nil => exact Iff.rfl
  | cons e events ih =>
      constructor
      · rintro ⟨hOk, hRest⟩
        have hOk' := (hIff s e hInit).mp hOk
        exact ⟨hOk', fun s' hs' => (ih (hStep s e s' hInit hOk' hs')).mp (hRest s' hs')⟩
      · rintro ⟨hOk', hRest⟩
        exact ⟨(hIff s e hInit).mpr hOk',
          fun s' hs' => (ih (hStep s e s' hInit hOk' hs')).mpr (hRest s' hs')⟩

/-- Exactness rule, for the runs of an environment that only does what is
allowed.  If, from states satisfying the invariant, an allowed step that meets
the condition re-establishes the invariant and one that does not leads to no
good state, then being good throughout a run is the same as meeting the
condition at each of its steps. -/
theorem throughout_iff_along_allowed {allowed : σ → ε → Prop} (hGood : ∀ s, inv s → good s)
    (hStep : ∀ s e, inv s → allowed s e → ok s e → ∃ s', step s e = some s' ∧ inv s')
    (hBad : ∀ s e, inv s → allowed s e → ¬ ok s e → ∀ s', step s e = some s' → ¬ good s')
    {s : σ} (hInit : inv s) {events : List ε} (hAllowed : Along step allowed s events) :
    Throughout step good s events ↔ Along step ok s events := by
  refine ⟨fun hAll => ?_, fun hAlong => throughout_of_along hGood
    (fun s e hInv hBoth => hStep s e hInv hBoth.1 hBoth.2) hInit (along_and hAllowed hAlong)⟩
  induction events generalizing s with
  | nil => trivial
  | cons e events ih =>
      obtain ⟨hAllow, hAllowRest⟩ := hAllowed
      -- the run of the first event alone is good already
      have hOk : ok s e := by
        by_contra hNot
        obtain ⟨s', hs', hGood'⟩ := hAll [e] ⟨events, rfl⟩
        rw [run_cons] at hs'
        obtain ⟨s₁, hs₁, hRun⟩ := Option.bind_eq_some_iff.mp hs'
        obtain rfl : s₁ = s' := Option.some.inj hRun
        exact hBad s e hInit hAllow hNot s₁ hs₁ hGood'
      refine ⟨hOk, fun s₁ hs₁ => ?_⟩
      obtain ⟨s₂, hs₂, hInv₂⟩ := hStep s e hInit hAllow hOk
      obtain rfl : s₂ = s₁ := Option.some.inj (hs₂.symm.trans hs₁)
      refine ih hInv₂ (hAllowRest s₂ hs₁) fun before hPrefix => ?_
      obtain ⟨s', hs', hGood'⟩ := hAll (e :: before) (List.cons_prefix_cons.mpr ⟨rfl, hPrefix⟩)
      rw [run_cons, hs₁] at hs'
      exact ⟨s', hs', hGood'⟩

/-- Exactness rule, for an environment that may do anything. -/
theorem throughout_iff_along (hGood : ∀ s, inv s → good s)
    (hStep : ∀ s e, inv s → ok s e → ∃ s', step s e = some s' ∧ inv s')
    (hBad : ∀ s e, inv s → ¬ ok s e → ∀ s', step s e = some s' → ¬ good s')
    {s : σ} (hInit : inv s) (events : List ε) :
    Throughout step good s events ↔ Along step ok s events :=
  throughout_iff_along_allowed hGood (fun s e hInv _ => hStep s e hInv)
    (fun s e hInv _ => hBad s e hInv) hInit
    (along_of_forall (fun (_ : σ) (_ : ε) => trivial) s events)

end Rules

end Library
end MFiWrapper
