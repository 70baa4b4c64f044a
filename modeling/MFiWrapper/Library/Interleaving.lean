import Mathlib.Data.List.Basic
import Mathlib.Logic.Function.Basic
import MFiWrapper.Library.Runs

/-!
# Components that share a state

Components take turns in any order, and each turn may read and change a part of
the state that all of them share.  A component is isolated when what it shows is
what its own events alone would have made it show.

`isolated_iff` is a two-sided noninterference rule.  Its step obligation compares
one turn of a component over two shared states: the turn shows the same exactly
if the two states agree in whatever matters to it.
-/

namespace MFiWrapper
namespace Library

variable {κ σ β ε ω : Type*}

/-- The shared state, the components, and the events so far. -/
structure Interleaved (κ σ β ε : Type*) where
  shared : σ
  parts : κ → β
  history : List (κ × ε)

/-- The events of one component. -/
def own [DecidableEq κ] (k : κ) (history : List (κ × ε)) : List ε :=
  (history.filter (·.1 = k)).map Prod.snd

section Turns

variable [DecidableEq κ] (turn : σ → β → ε → Option (σ × β))

/-- One component takes its turn. -/
def Interleaved.step (state : Interleaved κ σ β ε) (event : κ × ε) :
    Option (Interleaved κ σ β ε) :=
  (turn state.shared (state.parts event.1) event.2).map fun next =>
    ⟨next.1, Function.update state.parts event.1 next.2, state.history ++ [event]⟩

/-- Before the first turn. -/
def Interleaved.start (shared : σ) (parts : κ → β) : Interleaved κ σ β ε := ⟨shared, parts, []⟩

/-- A component that has the shared state to itself. -/
def alone (shared : σ) (part : β) (events : List ε) : Option (σ × β) :=
  run (fun s e => turn s.1 s.2 e) (shared, part) events

/-- Every component shows what its own events alone make it show. -/
def Isolated (shows : β → ω) (shared : σ) (parts : κ → β) (state : Interleaved κ σ β ε) : Prop :=
  ∀ k, ∃ final, alone turn shared (parts k) (own k state.history) = some final ∧
    shows (state.parts k) = shows final.2

/-- The shared state agrees with the one that the component's own events alone have
led to, in what matters to the turn. -/
def Undisturbed (agree : σ → σ → β → ε → Prop) (shared : σ) (parts : κ → β)
    (state : Interleaved κ σ β ε) (event : κ × ε) : Prop :=
  ∀ final, alone turn shared (parts event.1) (own event.1 state.history) = some final →
    agree state.shared final.1 (state.parts event.1) event.2

/-- What a turn is to satisfy, for shared states and components within the
invariants. -/
structure Comparable (inv : σ → Prop) (sound : β → Prop) (agree : σ → σ → β → ε → Prop)
    (shows : β → ω) : Prop where
  turns : ∀ s₁ s₂ part e, inv s₁ → inv s₂ → sound part →
    ∃ s₁' s₂' part₁ part₂, turn s₁ part e = some (s₁', part₁) ∧
      turn s₂ part e = some (s₂', part₂) ∧ inv s₁' ∧ inv s₂' ∧ sound part₁ ∧
      (agree s₁ s₂ part e → part₁ = part₂) ∧
      (¬ agree s₁ s₂ part e → shows part₁ ≠ shows part₂)

end Turns

section Rules

variable [DecidableEq κ] {turn : σ → β → ε → Option (σ × β)} {inv : σ → Prop}
  {sound : β → Prop} {agree : σ → σ → β → ε → Prop} {shows : β → ω} {shared : σ}
  {parts : κ → β} {state : Interleaved κ σ β ε}

theorem own_append_self (k : κ) (e : ε) (history : List (κ × ε)) :
    own k (history ++ [(k, e)]) = own k history ++ [e] := by
  simp [own]

theorem own_append_other {k k' : κ} (hOther : k' ≠ k) (e : ε) (history : List (κ × ε)) :
    own k (history ++ [(k', e)]) = own k history := by
  simp [own, hOther]

theorem alone_append {part : β} {events : List ε} {final : σ × β}
    (hAlone : alone turn shared part events = some final) (e : ε) :
    alone turn shared part (events ++ [e]) = turn final.1 final.2 e := by
  rw [alone, run_append]
  show (alone turn shared part events).bind _ = _
  rw [hAlone]
  exact run_singleton _ final e

theorem alone_cons {part part' : β} {shared' : σ} {e : ε}
    (hTurn : turn shared part e = some (shared', part')) (events : List ε) :
    alone turn shared part (e :: events) = alone turn shared' part' events := by
  rw [alone, run_cons, hTurn]
  rfl

/-- Every component is, whatever it shows, the one its own events alone lead to. -/
structure Separate (turn : σ → β → ε → Option (σ × β)) (inv : σ → Prop) (sound : β → Prop)
    (shared : σ) (parts : κ → β) (state : Interleaved κ σ β ε) : Prop where
  shared_inv : inv state.shared
  parts_sound : ∀ k, sound (state.parts k)
  same : ∀ k, ∃ s, inv s ∧
    alone turn shared (parts k) (own k state.history) = some (s, state.parts k)

theorem Separate.isolated (hSeparate : Separate turn inv sound shared parts state) :
    Isolated turn shows shared parts state := by
  intro k
  obtain ⟨s, -, hAlone⟩ := hSeparate.same k
  exact ⟨_, hAlone, rfl⟩

theorem separate_start (hInv : inv shared) (hSound : ∀ k, sound (parts k)) :
    Separate turn inv sound shared parts (.start shared parts : Interleaved κ σ β ε) where
  shared_inv := hInv
  parts_sound := hSound
  same _ := ⟨shared, hInv, rfl⟩

/-- A turn keeps the components separate exactly if it is undisturbed. -/
theorem Separate.step (hTurn : Comparable turn inv sound agree shows)
    (hSeparate : Separate turn inv sound shared parts state) (event : κ × ε) :
    ∃ state', state.step turn event = some state' ∧
      (Undisturbed turn agree shared parts state event →
        Separate turn inv sound shared parts state') ∧
      (¬ Undisturbed turn agree shared parts state event →
        ¬ Isolated turn shows shared parts state') := by
  obtain ⟨k, e⟩ := event
  obtain ⟨s, hInv, hAlone⟩ := hSeparate.same k
  obtain ⟨s₁', s₂', part₁, part₂, hShared, hOwn, hInv₁, hInv₂, hSound, hSame, hDiffer⟩ :=
    hTurn.turns state.shared s (state.parts k) e hSeparate.shared_inv hInv (hSeparate.parts_sound k)
  have hNext : alone turn shared (parts k) (own k (state.history ++ [(k, e)])) =
      some (s₂', part₂) := by
    rw [own_append_self, alone_append hAlone, hOwn]
  -- what the component would find alone is determined by its own history
  have hUndisturbed : Undisturbed turn agree shared parts state (k, e) ↔
      agree state.shared s (state.parts k) e := by
    refine ⟨fun h => h _ hAlone, fun h final hFinal => ?_⟩
    obtain rfl : (s, state.parts k) = final := Option.some.inj (hAlone.symm.trans hFinal)
    exact h
  refine ⟨⟨s₁', Function.update state.parts k part₁, state.history ++ [(k, e)]⟩, ?_,
    fun hAgree => ?_, fun hNot hIsolated => ?_⟩
  · simp [Interleaved.step, hShared]
  · obtain rfl := hSame (hUndisturbed.mp hAgree)
    refine ⟨hInv₁, fun k' => ?_, fun k' => ?_⟩
    · show sound (Function.update state.parts k part₁ k')
      by_cases hk : k' = k
      · rw [hk, Function.update_self]
        exact hSound
      · rw [Function.update_of_ne hk]
        exact hSeparate.parts_sound k'
    · show ∃ s, inv s ∧ alone turn shared (parts k') (own k' (state.history ++ [(k, e)])) =
        some (s, Function.update state.parts k part₁ k')
      by_cases hk : k' = k
      · subst hk
        rw [Function.update_self]
        exact ⟨s₂', hInv₂, hNext⟩
      · rw [Function.update_of_ne hk, own_append_other (Ne.symm hk)]
        exact hSeparate.same k'
  · -- the component whose turn it was shows the difference
    obtain ⟨final, hFinal, hShows⟩ := hIsolated k
    obtain rfl : (s₂', part₂) = final := Option.some.inj (hNext.symm.trans hFinal)
    change shows (Function.update state.parts k part₁ k) = shows part₂ at hShows
    rw [Function.update_self] at hShows
    exact hDiffer (fun h => hNot (hUndisturbed.mpr h)) hShows

/-- Two-sided noninterference.  The components are isolated throughout a run if and
only if every turn of the run is undisturbed. -/
theorem isolated_iff (hTurn : Comparable turn inv sound agree shows) (hInv : inv shared)
    (hSound : ∀ k, sound (parts k)) (events : List (κ × ε)) :
    Throughout (Interleaved.step turn) (Isolated turn shows shared parts) (.start shared parts)
        events ↔
      Along (Interleaved.step turn) (Undisturbed turn agree shared parts) (.start shared parts)
        events := by
  have hGood : ∀ state : Interleaved κ σ β ε, Separate turn inv sound shared parts state →
      Isolated turn shows shared parts state := fun _ hSeparate => hSeparate.isolated
  refine throughout_iff_along hGood ?_ ?_ (separate_start hInv hSound) events
  · intro state event hSeparate hUndisturbed
    obtain ⟨state', hStep, hKeep, -⟩ := hSeparate.step hTurn event
    exact ⟨state', hStep, hKeep hUndisturbed⟩
  · intro state event hSeparate hNot state' hStep
    obtain ⟨state₁, hStep₁, -, hBroken⟩ := hSeparate.step hTurn event
    obtain rfl : state₁ = state' := Option.some.inj (hStep₁.symm.trans hStep)
    exact hBroken hNot

end Rules

end Library
end MFiWrapper
