import Mathlib.Algebra.Order.Field.Rat
import MFiWrapper.Library.Replay
import MFiWrapper.Protocol

/-!
# What the packets say about the attached controllers

The contract between the two sides, without either of them: what a packet of
the backend says about the list of attached handles, in the order in which
they were attached.
-/

namespace MFiWrapper

open Library

/-- The packet may be sent while the first list of handles is attached, and
says that the second list is attached from then on. -/
inductive Announces : List UInt32 → MFiWPacket ℚ → List UInt32 → Prop
  | connect {handles : List UInt32} {handle : UInt32} (data : MFiWConnectPacket)
      (hNonzero : handle ≠ 0) (hFresh : handle ∉ handles) :
      Announces handles (.connect handle data) (handles ++ [handle])
  | disconnect {handles : List UInt32} {handle : UInt32} (hMem : handle ∈ handles) :
      Announces handles (.disconnect handle) (handles.erase handle)
  | inputState {handles : List UInt32} {handle : UInt32} (data : MFiWInputStatePacket ℚ)
      (hMem : handle ∈ handles) : Announces handles (.inputState handle data) handles
  | pausePressed {handles : List UInt32} {handle : UInt32} (hMem : handle ∈ handles) :
      Announces handles (.pausePressed handle) handles

/-- The packet is about a controller that has to be there already. -/
def MFiWPacket.refersToAttached : MFiWPacket ℚ → Bool
  | .disconnect _ | .inputState _ _ | .pausePressed _ => true
  | .connect _ _ | .setPlayerIndex _ _ => false

theorem Announces.mem {handles handles' : List UInt32} {packet : MFiWPacket ℚ}
    (hAnnounces : Announces handles packet handles') (hRefers : packet.refersToAttached = true) :
    packet.handle ∈ handles := by
  cases hAnnounces with
  | connect data hNonzero hFresh => cases hRefers
  | disconnect hMem => exact hMem
  | inputState data hMem => exact hMem
  | pausePressed hMem => exact hMem

/-- What was sent between two states of the backend says how the attached
handles have changed between them. -/
def Announced (sent sent' : List (MFiWPacket ℚ)) (handles handles' : List UInt32) : Prop :=
  ∃ packets, sent' = sent ++ packets ∧ Path Announces handles packets handles'

variable {sent sent' : List (MFiWPacket ℚ)} {handles handles' : List UInt32}

/-- Nothing was sent and nothing has changed. -/
theorem Announced.none (hSent : sent' = sent) (hHandles : handles' = handles) :
    Announced sent sent' handles handles' := by
  subst hSent hHandles
  exact ⟨[], (List.append_nil _).symm, .nil _⟩

/-- One packet was sent. -/
theorem Announced.one {packet : MFiWPacket ℚ} (hSent : sent' = sent ++ [packet])
    (hAnnounces : Announces handles packet handles') : Announced sent sent' handles handles' :=
  ⟨[packet], hSent, .cons hAnnounces (.nil _)⟩

end MFiWrapper
