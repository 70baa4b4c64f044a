import Mathlib.Data.List.Basic

/-!
# Postponed actions

Somebody else may act between the steps of a procedure.  If the steps commute with the
actions as far as an observer can see, the procedure does what it does undisturbed, and all
the actions can be thought to come after it.
-/

namespace MFiWrapper
namespace Library

variable {σ α ν : Type*} {act : σ → α → σ} {view : σ → ν} {s t u : σ}

/-- To an observer, `s` is `t` after some actions. -/
def After (act : σ → α → σ) (view : σ → ν) (s t : σ) : Prop :=
  ∃ actions : List α, view s = view (actions.foldl act t)

namespace After

theorem of_view (hSame : view s = view t) : After act view s t := ⟨[], hSame⟩

theorem refl (s : σ) : After act view s s := of_view rfl

theorem foldl (actions : List α) (t : σ) : After act view (actions.foldl act t) t :=
  ⟨actions, rfl⟩

section Observer

variable (hAct : ∀ s t a, view s = view t → view (act s a) = view (act t a))

include hAct

theorem foldl_congr (hSame : view s = view t) (actions : List α) :
    view (actions.foldl act s) = view (actions.foldl act t) := by
  induction actions generalizing s t with
  | nil => exact hSame
  | cons a actions ih => exact ih (hAct s t a hSame)

theorem trans (hFirst : After act view s t) (hSecond : After act view t u) :
    After act view s u := by
  obtain ⟨later, hLater⟩ := hFirst
  obtain ⟨earlier, hEarlier⟩ := hSecond
  refine ⟨earlier ++ later, ?_⟩
  rw [hLater, List.foldl_append]
  exact foldl_congr hAct hEarlier later

theorem view_right (hAfter : After act view s t) (hSame : view t = view u) :
    After act view s u := hAfter.trans hAct (of_view hSame)

/-- A step that commutes with the actions does not mind those that came before it. -/
theorem step {step : σ → σ} (hStep : ∀ s t, view s = view t → view (step s) = view (step t))
    (hComm : ∀ s a, view (step (act s a)) = view (act (step s) a))
    (hAfter : After act view s t) : After act view (step s) (step t) := by
  have hActions (actions : List α) (t : σ) :
      view (step (actions.foldl act t)) = view (actions.foldl act (step t)) := by
    induction actions generalizing t with
    | nil => rfl
    | cons a actions ih =>
        calc view (step (actions.foldl act (act t a)))
            = view (actions.foldl act (step (act t a))) := ih (act t a)
          _ = view (actions.foldl act (act (step t) a)) := foldl_congr hAct (hComm t a) actions
  obtain ⟨actions, hSame⟩ := hAfter
  exact ⟨actions, (hStep _ _ hSame).trans (hActions actions t)⟩

end Observer

/-- What neither the actions nor the observer's point of view can change. -/
theorem kept {β : Type*} {f : σ → β} (hView : ∀ s t, view s = view t → f s = f t)
    (hAct : ∀ s a, f (act s a) = f s) (hAfter : After act view s t) : f s = f t := by
  obtain ⟨actions, hSame⟩ := hAfter
  refine (hView _ _ hSame).trans ?_
  clear hSame
  induction actions generalizing t with
  | nil => rfl
  | cons a actions ih => exact ih.trans (hAct t a)

end After

end Library
end MFiWrapper
