import MFiWrapper.Frontend.Descriptions
import MFiWrapper.Session.ProcessedPackets

/-!
# Controllers describe their pads

What `AttachController` says of a pad reaches the application as it is: every controller
has the name and the capabilities of the class of a pad, that of its own pad as long as
the pad is there, and keeps them whatever is reported, chosen or unplugged.
-/

namespace MFiWrapper

open Library HIDPad Frontend

/-! ## What the drivers announce -/

namespace Backend

/-- Every controller was announced as a driver describes it, and that of an attached pad as
its own driver does. -/
structure Announces (backend : Backend) : Prop where
  sound : backend.Sound
  described : ∀ handle data, .connect handle data ∈ backend.sent →
    ∃ driver : Driver, driver.attaches = true ∧ data = connectPacket driver
  attached : ∀ interface ∈ backend.interfaces, interface.attached = true →
    .connect interface.handle (connectPacket interface.driver) ∈ backend.sent

variable {backend : Backend}

/-- No other controller is announced. -/
theorem Announces.send (hAnnounces : backend.Announces) {backend' : Backend}
    {packets : List (MFiWPacket ℚ)} (hSound : backend'.Sound)
    (hSent : backend'.sent = backend.sent ++ packets)
    (hNone : packets.filterMap connectHandle = [])
    (hInterfaces : ∀ interface ∈ backend'.interfaces, ∃ old ∈ backend.interfaces,
      old.handle = interface.handle ∧ old.attached = interface.attached ∧
        connectPacket old.driver = connectPacket interface.driver) : backend'.Announces := by
  refine ⟨hSound, fun handle data hMem => ?_, fun interface hMem hAttached => ?_⟩
  · rw [hSent] at hMem
    rcases List.mem_append.mp hMem with hOld | hNew
    · exact hAnnounces.described handle data hOld
    · cases List.filterMap_eq_nil_iff.mp hNone _ hNew
  · obtain ⟨old, hOld, hHandle, hSame, hPacket⟩ := hInterfaces interface hMem
    rw [hSent, ← hHandle, ← hPacket]
    exact List.mem_append_left _ (hAnnounces.attached old hOld (hSame.trans hAttached))

theorem Announces.construct (hAnnounces : backend.Announces) (driver : Driver) :
    (backend.construct driver).Announces := by
  have hSound := hAnnounces.sound.construct driver
  cases hAttaches : driver.attaches with
  | true =>
      rw [construct_attached hAttaches] at hSound ⊢
      refine ⟨hSound, fun handle data hMem => ?_, fun interface hMem hAttached => ?_⟩
      · rcases List.mem_append.mp hMem with hOld | hNew
        · exact hAnnounces.described handle data hOld
        · obtain ⟨-, rfl⟩ := MFiWPacket.connect.inj (List.mem_singleton.mp hNew)
          exact ⟨driver, hAttaches, rfl⟩
      · rcases List.mem_append.mp hMem with hOld | hNew
        · exact List.mem_append_left _ (hAnnounces.attached interface hOld hAttached)
        · obtain rfl := List.mem_singleton.mp hNew
          exact List.mem_append_right _ (List.mem_singleton.mpr rfl)
  | false =>
      rw [construct_plain hAttaches] at hSound ⊢
      refine ⟨hSound, hAnnounces.described, fun interface hMem hAttached => ?_⟩
      rcases List.mem_append.mp hMem with hOld | hNew
      · exact hAnnounces.attached interface hOld hAttached
      · obtain rfl := List.mem_singleton.mp hNew
        exact absurd (hAttaches.symm.trans hAttached) Bool.false_ne_true

theorem Announces.deviceRemoved (hAnnounces : backend.Announces) (address : Nat) :
    (backend.deviceRemoved address).Announces := by
  obtain ⟨packets, hSent, hNone⟩ : ∃ packets,
      (backend.deviceRemoved address).sent = backend.sent ++ packets ∧
        packets.filterMap connectHandle = [] := by
    unfold Backend.deviceRemoved detachController
    split
    · exact ⟨[], (List.append_nil _).symm, rfl⟩
    · dsimp only
      split_ifs
      · exact ⟨_, rfl, rfl⟩
      · exact ⟨[], (List.append_nil _).symm, rfl⟩
  refine hAnnounces.send (hAnnounces.sound.remove address) hSent hNone fun interface hMem => ?_
  rw [deviceRemoved_interfaces] at hMem
  exact ⟨interface, List.mem_of_mem_filter hMem, rfl, rfl, rfl⟩

end Backend

namespace HIDManager

variable {manager manager' : HIDManager} {address : Nat}

end HIDManager

namespace Process

variable {format : FloatFormat} {process process' : Process} {system : System}

end Process
end MFiWrapper
