import MFiWrapper.Backend.Registry

/-!
# Player indices on the drivers

`BackendConnection::HandlePacket` once more, with the calls of `SetPlayerIndex` that it
makes, and what the drivers become by them.
-/

namespace MFiWrapper

open Library HIDPad

/-- The driver is what a constructor has made, given these indices since. -/
def HIDPad.Driver.Given (driver : Driver) (indices : List Int32) : Prop :=
  ∃ platform aName made, HIDPad.connect platform aName = some made ∧
    run (fun driver aIndex => Driver.setPlayerIndex aIndex driver) made indices = some driver

theorem HIDPad.Driver.Given.set {driver driver' : Driver} {indices : List Int32}
    {aIndex : Int32} (hGiven : driver.Given indices)
    (hSet : driver.setPlayerIndex aIndex = some driver') :
    driver'.Given (indices ++ [aIndex]) := by
  obtain ⟨platform, aName, made, hConnect, hRun⟩ := hGiven
  refine ⟨platform, aName, made, hConnect, ?_⟩
  rw [run_append, hRun, Option.bind_some, run_singleton]
  exact hSet

namespace Backend

/-- `BackendConnection::HandlePacket`, with the calls `device->SetPlayerIndex` that it
makes: the address of each device and the value. -/
def handlePacketTraced (aPacket : MFiWPacket ℚ) (backend : Backend) :
    Option (List (Nat × Int32) × Backend) :=
  match aPacket with
  | .setPlayerIndex handle value =>
      let device := (backend.devices handle).getD none
      let backend :=
        { backend with devices := Function.update backend.devices handle (some device) }
      match device with
      | some address => do
          let backend ← backend.setPlayerIndex address value
          return ([(address, value)], backend)
      | none => some ([], backend)
  -- unknown packet
  | _ => some ([], backend)

variable {backend backend' : Backend} {aPacket : MFiWPacket ℚ} {calls : List (Nat × Int32)}

/-- Without the calls it is the function itself. -/
theorem handlePacketTraced_snd (aPacket : MFiWPacket ℚ) (backend : Backend) :
    (backend.handlePacketTraced aPacket).map Prod.snd = backend.handlePacket aPacket := by
  cases aPacket with
  | setPlayerIndex handle value =>
      simp only [handlePacketTraced, handlePacket]
      cases (backend.devices handle).getD none with
      | none => rfl
      | some address =>
          dsimp only
          cases setPlayerIndex address value _ <;> rfl
  | connect _ _ | disconnect _ | inputState _ _ | pausePressed _ => rfl

theorem handlePacket_of_traced
    (hTraced : backend.handlePacketTraced aPacket = some (calls, backend')) :
    backend.handlePacket aPacket = some backend' := by
  rw [← handlePacketTraced_snd, hTraced]
  rfl

/-- A packet makes one call at most, on the device under its handle. -/
theorem calls_of_traced {handle : UInt32} {value : Int32}
    (hTraced : backend.handlePacketTraced (.setPlayerIndex handle value) = some (calls, backend')) :
    calls = (((backend.devices handle).getD none).map (·, value)).toList := by
  simp only [handlePacketTraced] at hTraced
  cases hDevice : (backend.devices handle).getD none with
  | none =>
      simp only [hDevice] at hTraced
      exact (congrArg Prod.fst (Option.some.inj hTraced)).symm
  | some address =>
      simp only [hDevice] at hTraced
      obtain ⟨reached, -, hReturn⟩ := Option.bind_eq_some_iff.mp hTraced
      exact (congrArg Prod.fst (Option.some.inj hReturn)).symm

/-- The indices among some calls for the device at an address. -/
def indicesFor (address : Nat) (calls : List (Nat × Int32)) : List Int32 :=
  (calls.filter fun call => call.1 = address).map Prod.snd

/-- A call is made on the driver at the address, and on no other. -/
theorem setPlayerIndex_given {address : Nat} {value : Int32} (hSound : backend.Sound)
    (hSet : backend.setPlayerIndex address value = some backend') {received : Nat → List Int32}
    (hGiven : ∀ interface ∈ backend.interfaces,
      interface.driver.Given (received interface.address)) :
    ∀ interface ∈ backend'.interfaces, interface.driver.Given
      (received interface.address ++ indicesFor interface.address [(address, value)]) := by
  obtain ⟨live, hLive, hRest⟩ := Option.bind_eq_some_iff.mp hSet
  obtain ⟨driver, hDriver, hReturn⟩ := Option.bind_eq_some_iff.mp hRest
  obtain rfl := Option.some.inj hReturn
  intro interface hMem
  obtain ⟨old, hOld, rfl⟩ := List.mem_map.mp hMem
  by_cases hSame : old.address = address
  · obtain rfl : old = live :=
      Option.some.inj (((interfaceAt_eq_some hSound).mpr ⟨hOld, hSame⟩).symm.trans hLive)
    rw [if_pos hSame]
    have hOne : indicesFor old.address [(address, value)] = [value] := by
      simp [indicesFor, hSame]
    rw [hOne]
    exact (hGiven old hOld).set hDriver
  · rw [if_neg hSame]
    have hNone : indicesFor old.address [(address, value)] = [] := by
      simp [indicesFor, Ne.symm hSame]
    rw [hNone, List.append_nil]
    exact hGiven old hOld

/-- The drivers are given the indices of the calls that are traced. -/
theorem given_of_traced (hSound : backend.Sound)
    (hTraced : backend.handlePacketTraced aPacket = some (calls, backend'))
    {received : Nat → List Int32}
    (hGiven : ∀ interface ∈ backend.interfaces,
      interface.driver.Given (received interface.address)) :
    ∀ interface ∈ backend'.interfaces, interface.driver.Given
      (received interface.address ++ indicesFor interface.address calls) := by
  have hUnchanged (hCalls : calls = []) (hSame : backend'.interfaces = backend.interfaces) :
      ∀ interface ∈ backend'.interfaces, interface.driver.Given
        (received interface.address ++ indicesFor interface.address calls) := by
    intro interface hMem
    rw [hCalls]
    exact (List.append_nil (received interface.address)).symm ▸ hGiven interface (hSame ▸ hMem)
  cases aPacket with
  | setPlayerIndex handle value =>
      simp only [handlePacketTraced] at hTraced
      cases hDevice : (backend.devices handle).getD none with
      | none =>
          simp only [hDevice] at hTraced
          obtain ⟨rfl, rfl⟩ := Prod.mk.inj (Option.some.inj hTraced)
          exact hUnchanged rfl rfl
      | some address =>
          simp only [hDevice] at hTraced
          obtain ⟨reached, hSet, hReturn⟩ := Option.bind_eq_some_iff.mp hTraced
          obtain ⟨rfl, rfl⟩ := Prod.mk.inj (Option.some.inj hReturn)
          -- the null pointers that `operator[]` leaves are in the map only
          let stored : Backend := { backend with
            devices := Function.update backend.devices handle (some (some address)) }
          have hStored : stored.Sound := ⟨hSound.nodup, hSound.fresh, hSound.unattached⟩
          exact setPlayerIndex_given hStored hSet hGiven
  | connect _ _ | disconnect _ | inputState _ _ | pausePressed _ =>
      obtain ⟨rfl, rfl⟩ := Prod.mk.inj (Option.some.inj hTraced)
      exact hUnchanged rfl rfl

end Backend
end MFiWrapper
