import MFiWrapper.Backend.Registry
import MFiWrapper.Common.Announcements

/-!
# The attached handles and what the backend announces about them

The invariant of the backend while handles are not reused, in the presence of
player indices for any handle but 0, also for handles that are no longer
attached.  Every operation sends packets that say how the list of attached
handles changes.
-/

namespace MFiWrapper
namespace Backend

open Library HIDPad

/-- The map knows every attached interface; a key that none of them has leads
nowhere, and there is no key 0. -/
structure Tracked (backend : Backend) : Prop where
  sound : backend.Sound
  nodup : backend.handles.Nodup
  nonzero : 0 ∉ backend.handles
  issued : ∀ handle ∈ backend.handles, handle.toNat < backend.nextHandle.toNat
  next : backend.nextHandle ≠ 0
  stored : ∀ handle address, (handle, address) ∈ backend.entries →
    backend.devices handle = some (some address)
  stray : ∀ handle, handle ∉ backend.handles → (backend.devices handle).getD none = none
  zero : backend.devices 0 = none

variable {backend backend' : Backend}

theorem tracked_initial : initial.Tracked := by
  constructor
  · exact sound_initial
  all_goals simp [initial, handles, entries]

theorem Tracked.next_notMem (hTracked : backend.Tracked) :
    backend.nextHandle ∉ backend.handles :=
  fun hMem => (hTracked.issued _ hMem).false

/-! ## Attaching -/

theorem nextHandle_succ (hRoom : backend.nextHandle.toNat + 1 < 2 ^ 32) :
    (backend.nextHandle + 1).toNat = backend.nextHandle.toNat + 1 := by
  rw [UInt32.toNat_add]
  exact Nat.mod_eq_of_lt hRoom

theorem Tracked.construct_attached (hTracked : backend.Tracked) {driver : Driver}
    (hAttaches : driver.attaches = true) (hRoom : backend.nextHandle.toNat + 1 < 2 ^ 32) :
    (backend.construct driver).Tracked := by
  have hEntries := entries_construct_attached hAttaches backend
  have hHandles := handles_construct_attached hAttaches backend
  have hNext : (backend.construct driver).nextHandle = backend.nextHandle + 1 := by
    rw [Backend.construct_attached hAttaches]
  have hDevices : (backend.construct driver).devices = Function.update backend.devices
      backend.nextHandle (some (some backend.allocated)) := by
    rw [Backend.construct_attached hAttaches]
  have hSucc := nextHandle_succ hRoom
  constructor
  · exact hTracked.sound.construct driver
  · rw [hHandles]
    exact hTracked.nodup.append (List.nodup_singleton _)
      (List.disjoint_singleton.mpr hTracked.next_notMem)
  · rw [hHandles, List.mem_append, List.mem_singleton, not_or]
    exact ⟨hTracked.nonzero, hTracked.next.symm⟩
  · rw [hHandles, hNext, hSucc]
    intro handle hMem
    rcases List.mem_append.mp hMem with hOld | hNew
    · exact Nat.lt_succ_of_lt (hTracked.issued handle hOld)
    · rw [List.mem_singleton.mp hNew]
      exact Nat.lt_succ_self _
  · rw [hNext]
    intro hZero
    rw [hZero] at hSucc
    cases hSucc
  · rw [hEntries, hDevices]
    intro handle address hMem
    rcases List.mem_append.mp hMem with hOld | hNew
    · have hNe : handle ≠ backend.nextHandle := fun hSame =>
        hTracked.next_notMem (hSame ▸ mem_handles.mpr ⟨address, hOld⟩)
      rw [Function.update_of_ne hNe]
      exact hTracked.stored handle address hOld
    · -- the entry just made
      obtain ⟨rfl, rfl⟩ := Prod.mk.inj (List.mem_singleton.mp hNew)
      exact Function.update_self ..
  · rw [hHandles, hDevices]
    intro handle hNotMem
    rw [List.mem_append, List.mem_singleton, not_or] at hNotMem
    rw [Function.update_of_ne hNotMem.2]
    exact hTracked.stray handle hNotMem.1
  · rw [hDevices, Function.update_of_ne hTracked.next.symm]
    exact hTracked.zero

/-- Invariants that only look at the registry are kept by a step that does not
touch it. -/
theorem Tracked.of_same (hTracked : backend.Tracked) (hSound : backend'.Sound)
    (hNext : backend'.nextHandle = backend.nextHandle)
    (hEntries : backend'.entries = backend.entries)
    (hDevices : backend'.devices = backend.devices) : backend'.Tracked := by
  have hHandles : backend'.handles = backend.handles := by rw [handles, hEntries, handles]
  obtain ⟨-, hNodup, hNonzero, hIssued, hNext', hStored, hStray, hZero⟩ := hTracked
  constructor
  · exact hSound
  · rwa [hHandles]
  · rwa [hHandles]
  · rwa [hHandles, hNext]
  · rwa [hNext]
  · rwa [hEntries, hDevices]
  · rwa [hHandles, hDevices]
  · rwa [hDevices]

/-- A construction, of a recognised device or not. -/
theorem Tracked.construct (hTracked : backend.Tracked) (driver : Driver)
    (hRoom : driver.attaches = true → backend.nextHandle.toNat + 1 < 2 ^ 32) :
    (backend.construct driver).Tracked ∧
      Announced backend.sent (backend.construct driver).sent
        backend.handles (backend.construct driver).handles := by
  cases hAttaches : driver.attaches
  · have hEntries := entries_construct_plain hAttaches backend
    have hSound := hTracked.sound.construct driver
    rw [construct_plain hAttaches] at hEntries hSound ⊢
    exact ⟨hTracked.of_same hSound rfl hEntries rfl,
      .none rfl (by rw [handles, hEntries, handles])⟩
  · refine ⟨hTracked.construct_attached hAttaches (hRoom hAttaches), ?_⟩
    rw [handles_construct_attached hAttaches, Backend.construct_attached hAttaches]
    exact .one rfl (.connect _ hTracked.next hTracked.next_notMem)

/-! ## Removing -/

theorem Tracked.deviceRemoved_attached (hTracked : backend.Tracked) {address : Nat}
    {interface : Interface} (hLive : backend.interfaceAt address = some interface)
    (hAttached : interface.attached = true) :
    (backend.deviceRemoved address).Tracked ∧
      Announced backend.sent (backend.deviceRemoved address).sent
        backend.handles (backend.deviceRemoved address).handles := by
  have hEntry := entry_of_live hTracked.sound hLive hAttached
  have hMem : interface.handle ∈ backend.handles := mem_handles.mpr ⟨address, hEntry⟩
  have hSome : (backend.devices interface.handle).isSome := by
    rw [hTracked.stored _ _ hEntry]
    rfl
  have hEntries := entries_remove_attached hTracked.sound hTracked.nodup hEntry
  have hHandles := handles_remove_attached hTracked.sound hTracked.nodup hEntry
  have hDevices : (backend.deviceRemoved address).devices =
      Function.update backend.devices interface.handle none := by
    rw [deviceRemoved_known hLive hSome]
  have hNext := deviceRemoved_nextHandle address backend
  have hSent : (backend.deviceRemoved address).sent =
      backend.sent ++ [.disconnect interface.handle] := by
    rw [deviceRemoved_known hLive hSome]
  constructor
  · constructor
    · exact hTracked.sound.remove address
    · rw [hHandles]
      exact hTracked.nodup.erase _
    · rw [hHandles]
      exact fun hZero => hTracked.nonzero (List.mem_of_mem_erase hZero)
    · rw [hHandles, hNext]
      exact fun handle hErased => hTracked.issued handle (List.mem_of_mem_erase hErased)
    · rw [hNext]
      exact hTracked.next
    · rw [hEntries, hDevices]
      intro handle other hOther
      obtain ⟨hOld, hNe⟩ := List.mem_filter.mp hOther
      rw [Function.update_of_ne (of_decide_eq_true hNe)]
      exact hTracked.stored handle other hOld
    · rw [hHandles, hDevices]
      intro handle hNotMem
      by_cases hSame : handle = interface.handle
      · rw [hSame, Function.update_self]
        rfl
      · rw [Function.update_of_ne hSame]
        refine hTracked.stray handle fun hOld => hNotMem ?_
        exact (List.mem_erase_of_ne hSame).mpr hOld
    · have hNe : 0 ≠ interface.handle := fun hZero => hTracked.nonzero (hZero ▸ hMem)
      rw [hDevices, Function.update_of_ne hNe]
      exact hTracked.zero
  · rw [hHandles]
    exact .one hSent (.disconnect hMem)

/-- A removal, of whatever is at the address. -/
theorem Tracked.deviceRemoved (hTracked : backend.Tracked) (address : Nat) :
    (backend.deviceRemoved address).Tracked ∧
      Announced backend.sent (backend.deviceRemoved address).sent
        backend.handles (backend.deviceRemoved address).handles := by
  cases hLive : backend.interfaceAt address with
  | none =>
      rw [deviceRemoved_absent hLive]
      exact ⟨hTracked, .none rfl rfl⟩
  | some interface =>
      cases hAttached : interface.attached
      · -- a plain interface has handle 0, which the map does not know
        have hHandle : interface.handle = 0 := hTracked.sound.unattached interface
          ((interfaceAt_eq_some hTracked.sound).mp hLive).1 hAttached
        have hUnknown : backend.devices interface.handle = none := by
          rw [hHandle]
          exact hTracked.zero
        have hEntries := entries_remove_plain hTracked.sound hLive hAttached
        have hSound := hTracked.sound.remove address
        rw [deviceRemoved_unknown hLive hUnknown] at hEntries hSound ⊢
        exact ⟨hTracked.of_same hSound rfl hEntries rfl,
          .none rfl (by rw [handles, hEntries, handles])⟩
      · exact hTracked.deviceRemoved_attached hLive hAttached

/-! ## Packets -/

/-- A live driver sends a state. -/
theorem Tracked.sendControllerState (hTracked : backend.Tracked) {address : Nat}
    {interface : Interface} (hLive : backend.interfaceAt address = some interface)
    (hAttached : interface.attached = true) (aData : MFiWInputStatePacket ℚ) :
    (backend.sendControllerState interface aData).Tracked ∧
      Announced backend.sent (backend.sendControllerState interface aData).sent
        backend.handles (backend.sendControllerState interface aData).handles := by
  have hEntry := entry_of_live hTracked.sound hLive hAttached
  obtain ⟨hNodup, hFresh, hUnattached⟩ := hTracked.sound
  exact ⟨hTracked.of_same ⟨hNodup, hFresh, hUnattached⟩ rfl rfl rfl,
    .one rfl (.inputState aData (mem_handles.mpr ⟨address, hEntry⟩))⟩

/-- A live driver sends a press of the pause button. -/
theorem Tracked.sendPausePressed (hTracked : backend.Tracked) {address : Nat}
    {interface : Interface} (hLive : backend.interfaceAt address = some interface)
    (hAttached : interface.attached = true) :
    (backend.sendPausePressed interface).Tracked ∧
      Announced backend.sent (backend.sendPausePressed interface).sent
        backend.handles (backend.sendPausePressed interface).handles := by
  have hEntry := entry_of_live hTracked.sound hLive hAttached
  obtain ⟨hNodup, hFresh, hUnattached⟩ := hTracked.sound
  exact ⟨hTracked.of_same ⟨hNodup, hFresh, hUnattached⟩ rfl rfl rfl,
    .one rfl (.pausePressed (mem_handles.mpr ⟨address, hEntry⟩))⟩

/-- A player index arrives, for an attached interface or for a handle that leads
nowhere; the map may gain a null pointer, but not under the key 0. -/
theorem Tracked.receive (hTracked : backend.Tracked) {handle : UInt32} (hNonzero : handle ≠ 0)
    (value : Int32) :
    ∃ backend', backend.handlePacket (.setPlayerIndex handle value) = some backend' ∧
      backend'.Tracked ∧ backend'.nextHandle = backend.nextHandle ∧
      Announced backend.sent backend'.sent backend.handles backend'.handles := by
  by_cases hMem : handle ∈ backend.handles
  · -- the driver is told, and the registry stays as it is
    obtain ⟨address, hEntry⟩ := mem_handles.mp hMem
    obtain ⟨interface, hInterface, -, -, hAddress⟩ := mem_entries.mp hEntry
    have hStored := hTracked.stored handle address hEntry
    have hKeep : Function.update backend.devices handle (some (some address)) =
        backend.devices := by
      rw [← hStored, Function.update_eq_self]
    obtain ⟨backend', hSet, hSame⟩ := setPlayerIndex_live hTracked.sound
      ((interfaceAt_eq_some hTracked.sound).mpr ⟨hInterface, hAddress⟩) value
    refine ⟨backend', ?_, hTracked.of_same (hSame.sound hTracked.sound) hSame.nextHandle
      hSame.entries hSame.devices, hSame.nextHandle,
      .none hSame.sent (by rw [handles, hSame.entries, handles])⟩
    simp only [handlePacket, hStored, Option.getD_some, hKeep]
    exact hSet
  · -- a controller that was removed meanwhile: `operator[]` leaves a null pointer
    have hNowhere := hTracked.stray handle hMem
    refine ⟨{ backend with devices := Function.update backend.devices handle (some none) },
      by simp only [handlePacket, hNowhere], ?_, rfl, .none rfl rfl⟩
    obtain ⟨hSound, hNodup, hZero, hIssued, hNext, hStored, hStray, hNone⟩ := hTracked
    obtain ⟨hAddresses, hFresh, hUnattached⟩ := hSound
    refine ⟨⟨hAddresses, hFresh, hUnattached⟩, hNodup, hZero, hIssued, hNext, ?_, ?_, ?_⟩
    · intro other address hEntry
      have hNe : other ≠ handle := fun hSame =>
        hMem (hSame ▸ mem_handles.mpr ⟨address, hEntry⟩)
      show Function.update backend.devices handle (some none) other = _
      rw [Function.update_of_ne hNe]
      exact hStored other address hEntry
    · intro other hNotMem
      show (Function.update backend.devices handle (some none) other).getD none = none
      by_cases hSame : other = handle
      · rw [hSame, Function.update_self]
        rfl
      · rw [Function.update_of_ne hSame]
        exact hStray other hNotMem
    · show Function.update backend.devices handle (some none) 0 = none
      rw [Function.update_of_ne hNonzero.symm]
      exact hNone

end Backend
end MFiWrapper
