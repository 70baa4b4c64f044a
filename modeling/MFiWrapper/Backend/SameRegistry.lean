import MFiWrapper.Backend.Attachments
import MFiWrapper.Backend.HIDManager

/-!
# Backends that differ in their drivers

What the backend does about devices, removals and player indices does not depend on the
states of the drivers, nor on the states that were sent.
-/

namespace MFiWrapper
namespace Backend

open Library HIDPad

variable {first second first' second' : Backend}

/-! ## Other numbers in the states -/

/-- The backend with other numbers in the states it has sent. -/
def mapSent (f : UInt32 → MFiWInputStatePacket (ℚ → ℚ)) (backend : Backend) : Backend :=
  { backend with sent := backend.sent.map (MFiWPacket.convert f) }

variable {f : UInt32 → MFiWInputStatePacket (ℚ → ℚ)}

theorem mapSent_construct (driver : Driver) (backend : Backend) :
    (backend.construct driver).mapSent f = (backend.mapSent f).construct driver := by
  cases hAttaches : driver.attaches
  · rw [construct_plain hAttaches, construct_plain hAttaches]
    rfl
  · rw [construct_attached hAttaches, construct_attached hAttaches]
    simp only [mapSent, List.map_append]
    rfl

theorem mapSent_deviceRemoved (address : Nat) (backend : Backend) :
    (backend.deviceRemoved address).mapSent f = (backend.mapSent f).deviceRemoved address := by
  have hAt : (backend.mapSent f).interfaceAt address = backend.interfaceAt address := rfl
  cases hLive : backend.interfaceAt address with
  | none => rw [deviceRemoved_absent hLive, deviceRemoved_absent (hAt.trans hLive)]
  | some interface =>
      cases hKnown : backend.devices interface.handle with
      | none =>
          rw [deviceRemoved_unknown hLive hKnown,
            deviceRemoved_unknown (hAt.trans hLive) (by exact hKnown)]
          rfl
      | some device =>
          have hSome : (backend.devices interface.handle).isSome := by rw [hKnown]; rfl
          rw [deviceRemoved_known hLive hSome,
            deviceRemoved_known (hAt.trans hLive) (by exact hSome)]
          simp only [mapSent, List.map_append]
          rfl

theorem mapSent_receive (handle : UInt32) (value : Int32) (backend : Backend) :
    (backend.mapSent f).handlePacket (.setPlayerIndex handle value) =
      (backend.handlePacket (.setPlayerIndex handle value)).map (mapSent f) := by
  have hDevices : (backend.mapSent f).devices = backend.devices := rfl
  simp only [handlePacket, hDevices]
  cases (backend.devices handle).getD none with
  | none => rfl
  | some address =>
      simp only [Backend.setPlayerIndex, interfaceAt, mapSent]
      cases backend.interfaces.find? fun interface => interface.address == address with
      | none => rfl
      | some interface =>
          simp only [Option.bind_eq_bind, Option.bind_some]
          cases interface.driver.setPlayerIndex value <;> rfl

theorem tracked_mapSent : (first.mapSent f).Tracked ↔ first.Tracked := by
  constructor
  · intro hTracked
    obtain ⟨hNodup, hFresh, hUnattached⟩ := hTracked.sound
    exact hTracked.of_same ⟨hNodup, hFresh, hUnattached⟩ rfl rfl rfl
  · intro hTracked
    obtain ⟨hNodup, hFresh, hUnattached⟩ := hTracked.sound
    exact hTracked.of_same ⟨hNodup, hFresh, hUnattached⟩ rfl rfl rfl

/-! ## Other drivers -/

/-- A player index for an attached interface only changes its driver. -/
theorem handlePacket_same (hTracked : first.Tracked) {handle : UInt32}
    (hMem : handle ∈ first.handles) {value : Int32}
    (hStep : first.handlePacket (.setPlayerIndex handle value) = some first') :
    SameButDrivers first first' := by
  obtain ⟨address, hEntry⟩ := mem_handles.mp hMem
  obtain ⟨interface, hInterface, -, -, hAddress⟩ := mem_entries.mp hEntry
  have hStored := hTracked.stored handle address hEntry
  have hKeep : Function.update first.devices handle (some (some address)) = first.devices := by
    rw [← hStored, Function.update_eq_self]
  obtain ⟨backend', hSet, hSame⟩ := setPlayerIndex_live hTracked.sound
    ((interfaceAt_eq_some hTracked.sound).mpr ⟨hInterface, hAddress⟩) value
  simp only [handlePacket, hStored, Option.getD_some, hKeep] at hStep
  obtain rfl := Option.some.inj (hSet.symm.trans hStep)
  exact hSame

/-- For any other handle a null pointer is left in the map. -/
theorem handlePacket_stray (hTracked : first.Tracked) {handle : UInt32}
    (hMem : handle ∉ first.handles) (value : Int32) :
    first.handlePacket (.setPlayerIndex handle value) = some { first with
      devices := Function.update first.devices handle (some none) } := by
  simp only [handlePacket, hTracked.stray handle hMem]

namespace SameButDrivers

theorem symm (hSame : SameButDrivers first second) : SameButDrivers second first :=
  ⟨hSame.nextHandle.symm, hSame.devices.symm, hSame.sent.symm, hSame.allocated.symm,
    hSame.shapes.symm⟩

theorem trans (hSame : SameButDrivers first second) (hSame' : SameButDrivers second second') :
    SameButDrivers first second' :=
  ⟨hSame'.nextHandle.trans hSame.nextHandle, hSame'.devices.trans hSame.devices,
    hSame'.sent.trans hSame.sent, hSame'.allocated.trans hSame.allocated,
    hSame'.shapes.trans hSame.shapes⟩

theorem tracked (hSame : SameButDrivers first second) (hTracked : first.Tracked) :
    second.Tracked :=
  hTracked.of_same (hSame.sound hTracked.sound) hSame.nextHandle hSame.entries hSame.devices

theorem handles (hSame : SameButDrivers first second) : second.handles = first.handles := by
  rw [Backend.handles, hSame.entries, Backend.handles]

/-- Both have an interface at the address, or none. -/
theorem interfaceAt (hSame : SameButDrivers first second) (address : Nat) :
    (second.interfaceAt address).map shape = (first.interfaceAt address).map shape := by
  have hFind (backend : Backend) : (backend.interfaceAt address).map shape =
      (backend.interfaces.map shape).find? fun other => other.1 == address := by
    rw [List.find?_map]
    rfl
  rw [hFind, hFind, hSame.shapes]

theorem construct (hSame : SameButDrivers first second) (driver : Driver) :
    SameButDrivers (first.construct driver) (second.construct driver) := by
  cases hAttaches : driver.attaches
  · rw [construct_plain hAttaches, construct_plain hAttaches]
    refine ⟨hSame.nextHandle, hSame.devices, hSame.sent, ?_, ?_⟩
    · exact congrArg (· + 1) hSame.allocated
    · simp only [List.map_append, hSame.shapes, hSame.allocated]
  · rw [construct_attached hAttaches, construct_attached hAttaches]
    refine ⟨?_, ?_, ?_, ?_, ?_⟩
    · exact congrArg (· + 1) hSame.nextHandle
    · simp only [hSame.devices, hSame.nextHandle, hSame.allocated]
    · simp only [hSame.sent, hSame.nextHandle]
    · exact congrArg (· + 1) hSame.allocated
    · simp only [List.map_append, hSame.shapes, hSame.allocated, hSame.nextHandle]

theorem deviceRemoved (hSame : SameButDrivers first second) (address : Nat) :
    SameButDrivers (first.deviceRemoved address) (second.deviceRemoved address) := by
  have hShapes : (second.deviceRemoved address).interfaces.map shape =
      (first.deviceRemoved address).interfaces.map shape := by
    have hFilter (backend : Backend) : (backend.deviceRemoved address).interfaces.map shape =
        (backend.interfaces.map shape).filter fun other => other.1 ≠ address := by
      rw [deviceRemoved_interfaces, List.filter_map]
      rfl
    rw [hFilter, hFilter, hSame.shapes]
  have hAt := hSame.interfaceAt address
  cases hFirst : first.interfaceAt address with
  | none =>
      rw [hFirst, Option.map_none, Option.map_eq_none_iff] at hAt
      rw [deviceRemoved_absent hFirst, deviceRemoved_absent hAt]
      exact hSame
  | some interface =>
      rw [hFirst, Option.map_some] at hAt
      obtain ⟨other, hSecond, hShape⟩ := Option.map_eq_some_iff.mp hAt
      have hHandle : other.handle = interface.handle := congrArg (fun s => s.2.1) hShape
      have hDevice : second.devices other.handle = first.devices interface.handle := by
        rw [hSame.devices, hHandle]
      cases hKnown : first.devices interface.handle with
      | none =>
          rw [deviceRemoved_unknown hFirst hKnown,
            deviceRemoved_unknown hSecond (hDevice.trans hKnown)] at hShapes ⊢
          exact ⟨hSame.nextHandle, hSame.devices, hSame.sent, hSame.allocated, hShapes⟩
      | some device =>
          have hSome : (first.devices interface.handle).isSome := by rw [hKnown]; rfl
          rw [deviceRemoved_known hFirst hSome,
            deviceRemoved_known hSecond (by rw [hDevice]; exact hSome)] at hShapes ⊢
          refine ⟨hSame.nextHandle, ?_, ?_, hSame.allocated, hShapes⟩
          · simp only [hSame.devices, hHandle]
          · simp only [hSame.sent, hHandle]

/-- The driver of an interface may move on. -/
theorem setDriver (hSame : SameButDrivers first second) {address : Nat} {interface : Interface}
    {driver : Driver} (hSound : first.Sound)
    (hLive : first.interfaceAt address = some interface)
    (hAttaches : driver.attaches = interface.driver.attaches) :
    SameButDrivers (first.setDriver address driver) second :=
  (setDriver_same hSound hLive hAttaches).symm.trans hSame

/-- Both do the same to the map when a player index arrives. -/
theorem receive (hSame : SameButDrivers first second) (hTracked : first.Tracked)
    {handle : UInt32} {value : Int32}
    (hFirst : first.handlePacket (.setPlayerIndex handle value) = some first')
    (hSecond : second.handlePacket (.setPlayerIndex handle value) = some second') :
    SameButDrivers first' second' := by
  by_cases hMem : handle ∈ first.handles
  · exact (handlePacket_same hTracked hMem hFirst).symm.trans
      (hSame.trans (handlePacket_same (hSame.tracked hTracked) (hSame.handles ▸ hMem) hSecond))
  · rw [handlePacket_stray hTracked hMem] at hFirst
    rw [handlePacket_stray (hSame.tracked hTracked) (hSame.handles ▸ hMem)] at hSecond
    obtain rfl := Option.some.inj hFirst
    obtain rfl := Option.some.inj hSecond
    refine ⟨hSame.nextHandle, ?_, hSame.sent, hSame.allocated, hSame.shapes⟩
    simp only [hSame.devices]

end SameButDrivers

end Backend
end MFiWrapper
