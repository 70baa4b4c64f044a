import MFiWrapper.Library.Runs

/-!
# Messages in flight between a leader and a follower

One side changes its state and sends a message about every change; the other
side applies the messages in the order they were sent, but later.  A relation
`r a m a'` tells which messages lead from one view of the state to another.
The invariant of such a pair is a path: the messages in flight lead from the
view the follower has now to the view the leader has now.  The leader extends
the path at its end, the follower consumes it from its beginning.
-/

namespace MFiWrapper
namespace Library

variable {σ α μ : Type*}

/-- The messages lead from one view to another. -/
inductive Path (r : α → μ → α → Prop) : α → List μ → α → Prop
  | nil (a : α) : Path r a [] a
  | cons {a b c : α} {m : μ} {messages : List μ} (hHead : r a m b)
      (hRest : Path r b messages c) : Path r a (m :: messages) c

variable {r : α → μ → α → Prop} {a b c : α} {m : μ} {messages : List μ}

/-- The leader sends further messages. -/
theorem Path.append {sent : List μ} (hPath : Path r a messages b) (hSent : Path r b sent c) :
    Path r a (messages ++ sent) c := by
  induction hPath with
  | nil a => exact hSent
  | cons hHead _ ih => exact .cons hHead (ih hSent)

/-- The follower takes the oldest message. -/
theorem Path.next (hPath : Path r a (m :: messages) c) :
    ∃ b, r a m b ∧ Path r b messages c := by
  cases hPath with
  | cons hHead hRest => exact ⟨_, hHead, hRest⟩

/-- Replay rule: a follower that applies every message it gets as the relation
says ends up, after all messages in flight, with the leader's view. -/
theorem Path.replay {apply : σ → μ → Option σ} {view : σ → α} {inv : σ → Prop}
    (hApply : ∀ s m b, inv s → r (view s) m b → ∃ s', apply s m = some s' ∧ inv s' ∧ view s' = b)
    {s : σ} (hInv : inv s) (hPath : Path r (view s) messages c) :
    ∃ s', run apply s messages = some s' ∧ inv s' ∧ view s' = c := by
  induction messages generalizing s with
  | nil =>
      cases hPath
      exact ⟨s, rfl, hInv, rfl⟩
  | cons m messages ih =>
      obtain ⟨b, hHead, hRest⟩ := hPath.next
      obtain ⟨s₁, hs₁, hInv₁, rfl⟩ := hApply s m b hInv hHead
      obtain ⟨s₂, hs₂, hInv₂, hView⟩ := ih hInv₁ hRest
      exact ⟨s₂, by rw [run_cons, hs₁]; exact hs₂, hInv₂, hView⟩

end Library
end MFiWrapper
