import MFiWrapper.Backend.SharedLights
import MFiWrapper.Session.PlayerIndexRuns
import MFiWrapper.Session.WholeRuns

/-!
# Player lights from end to end

The application assigns a player index to a controller; the index goes through a socket
to the driver of the pad, and the driver lights up the pad.  A run of the program is
watched through its shadow, which counts the same indices for every device, and once
nothing is on its way the lights of a pad are those of its controller's index.
-/

namespace MFiWrapper

open Library HIDPad Frontend

/-! ## Indices in the history -/

namespace HIDManager

variable {manager manager' : HIDManager} {address : Nat}

/-- The indices that the driver at an address was given. -/
def indices (manager : HIDManager) (address : Nat) : List Int32 :=
  (manager.callsAt address).filterMap PadCall.index

theorem indices_of_history (hHistory : manager'.history = manager.history) (address : Nat) :
    manager'.indices address = manager.indices address := by
  rw [indices, callsAt, hHistory]
  rfl

/-- One more call in the history. -/
theorem indices_append {statics : Statics} {c : PadCall}
    (hHistory : manager'.history = manager.history ++ [(address, statics, c)]) (other : Nat) :
    manager'.indices other =
      manager.indices other ++ if other = address then c.index.toList else [] := by
  rw [indices, callsAt, hHistory, own_append, List.map_append, List.filterMap_append]
  congr 1
  by_cases hSame : other = address
  · subst hSame
    cases c <;> simp [own, PadCall.index]
  · simp [own, hSame, Ne.symm hSame]

theorem call_history {c : PadCall} (hCall : manager.call address c = some manager') :
    manager'.history = manager.history ++ [(address, manager.statics, c)] := by
  obtain ⟨interface, -, hRest⟩ := Option.bind_eq_some_iff.mp hCall
  obtain ⟨made, -, hReturn⟩ := Option.bind_eq_some_iff.mp hRest
  obtain rfl := Option.some.inj hReturn
  rfl

/-- A report gives no index. -/
theorem deviceReport_indices {report : List UInt8}
    (hReport : manager.deviceReport address report = some manager') (other : Nat) :
    manager'.indices other = manager.indices other := by
  unfold deviceReport at hReport
  split at hReport
  · obtain rfl := Option.some.inj hReport
    rfl
  · obtain ⟨interface, -, hRest⟩ := Option.bind_eq_some_iff.mp hReport
    obtain ⟨called, hCall, hReturn⟩ := Option.bind_eq_some_iff.mp hRest
    obtain rfl := Option.some.inj hReturn
    show called.indices other = _
    rw [indices_append (call_history hCall)]
    exact (congrArg _ (ite_self _)).trans (List.append_nil _)

theorem deviceAttached_history {platform : Platform} {device : HIDDevice}
    (hAttached : manager.deviceAttached platform device = some manager') :
    manager'.history = manager.history := by
  obtain ⟨made, -, hReturn⟩ := Option.bind_eq_some_iff.mp hAttached
  obtain rfl := Option.some.inj hReturn
  rfl

/-- An index that is received is given to the driver that the handle leads to. -/
theorem playerIndexReceived_indices {handle : UInt32} {value : Int32}
    (hReceived : manager.playerIndexReceived handle value = some manager') (other : Nat) :
    manager'.indices other = manager.indices other ++
      if (manager.backend.devices handle).getD none = some other then [value] else [] := by
  unfold playerIndexReceived at hReceived
  cases hDevice : (manager.backend.devices handle).getD none with
  | none =>
      simp only [hDevice] at hReceived
      obtain rfl := Option.some.inj hReceived
      rw [if_neg (by simp), List.append_nil]
      rfl
  | some address =>
      simp only [hDevice] at hReceived
      rw [indices_append (call_history hReceived)]
      show manager.indices other ++ (if other = address then [value] else []) = _
      simp only [Option.some.injEq, eq_comm]

/-- An index that is received sends nothing. -/
theorem playerIndexReceived_sent {handle : UInt32} {value : Int32}
    (hReceived : manager.playerIndexReceived handle value = some manager') :
    manager'.backend.sent = manager.backend.sent := by
  unfold playerIndexReceived at hReceived
  dsimp only at hReceived
  split at hReceived
  · obtain ⟨interface, -, hRest⟩ := Option.bind_eq_some_iff.mp hReceived
    obtain ⟨⟨statics, driver, calls⟩, hCall, hReturn⟩ := Option.bind_eq_some_iff.mp hRest
    obtain rfl := Option.some.inj hReturn
    show (calls.foldl (Backend.perform interface) _).sent = _
    rw [Backend.foldl_perform, (Driver.call_setPlayerIndex hCall).2]
    exact List.append_nil _
  · obtain rfl := Option.some.inj hReceived
    rfl

theorem handleDataPacket_sent {aPacket : MFiWDataPacket}
    (hHandle : manager.handleDataPacket aPacket = some manager') :
    manager'.backend.sent = manager.backend.sent := by
  unfold handleDataPacket at hHandle
  split at hHandle
  · exact playerIndexReceived_sent hHandle
  · obtain rfl := Option.some.inj hHandle
    rfl

end HIDManager

/-! ## Watched runs -/

namespace Watched

/-- Only the backend calls drivers. -/
theorem run_calls {watched watched' : Watched} {events : List System.Event}
    (hEvents : ∀ event ∈ events, event ≠ .backendProcesses)
    (hRun : run Watched.step watched events = some watched') : watched'.calls = watched.calls := by
  induction events generalizing watched with
  | nil =>
      obtain rfl := Option.some.inj hRun
      rfl
  | cons event events ih =>
      obtain ⟨hEvent, hEvents⟩ := List.forall_mem_cons.mp hEvents
      rw [run_cons] at hRun
      obtain ⟨next, hStep, hRest⟩ := Option.bind_eq_some_iff.mp hRun
      rw [step_other hEvent] at hStep
      obtain ⟨system, -, rfl⟩ := Option.map_eq_some_iff.mp hStep
      exact (ih hEvents hRest :)

end Watched

namespace Process

variable {format : FloatFormat} {process : Process} {watched : Watched}

/-- The application sets 32-bit indices. -/
def Event.SetsInt32 : Event → Prop
  | .appSetsPlayerIndex _ index => ∃ value : Int32, index = value.toInt64
  | _ => True

theorem driverSends_cases {address : Nat} {packet : MFiWPacket ℚ} {event : System.Event}
    (hSends : driverSends format address packet = some event) :
    event.attaches = 0 ∧ Watched.SetsInt32 event ∧ event ≠ .backendProcesses := by
  cases packet <;> cases hSends <;> exact ⟨rfl, trivial, by simp⟩

/-- The shadow of a report is what the driver sends. -/
theorem shadow_deviceReport {address : Nat} {report : List UInt8} {event : System.Event}
    (hMem : event ∈ shadow format process (.deviceReport address report)) :
    ∃ packet, driverSends format address packet = some event := by
  simp only [shadow] at hMem
  split at hMem
  · cases hMem
  · obtain ⟨packet, -, hSends⟩ := List.mem_filterMap.mp hMem
    exact ⟨packet, hSends⟩

theorem shadow_attaches (format : FloatFormat) (process : Process) (event : Event) :
    ((shadow format process event).map System.Event.attaches).sum = event.attaches := by
  cases event with
  | deviceReport address report =>
      rw [List.sum_eq_zero]
      · rfl
      · intro count hMem
        obtain ⟨event, hEvent, rfl⟩ := List.mem_map.mp hMem
        obtain ⟨packet, hSends⟩ := shadow_deviceReport hEvent
        exact (driverSends_cases hSends).1
  | backendReads count | frontendReads count =>
      simp only [shadow]
      split_ifs <;> rfl
  | _ => rfl

theorem shadow_setsInt32 {event : Event} (hInt32 : event.SetsInt32) :
    ∀ shadowed ∈ shadow format process event, Watched.SetsInt32 shadowed := by
  intro shadowed hMem
  cases event with
  | deviceReport address report =>
      obtain ⟨packet, hSends⟩ := shadow_deviceReport hMem
      exact (driverSends_cases hSends).2.1
  | backendReads count | frontendReads count =>
      simp only [shadow] at hMem
      split_ifs at hMem
      · obtain rfl := List.mem_singleton.mp hMem
        trivial
      · cases hMem
  | appSetsPlayerIndex tweak index =>
      obtain rfl := List.mem_singleton.mp hMem
      exact hInt32
  | deviceAttached platform device | deviceRemoved address =>
      obtain rfl := List.mem_singleton.mp hMem
      trivial
  | appSetsHandler _ _ _ _ | appSetsPausedHandler _ _ => cases hMem

/-- The run is watched: the indices counted are those that the drivers were given. -/
structure WatchedBy (format : FloatFormat) (process : Process) (watched : Watched) : Prop where
  refines : Refines format process watched.system
  inv : watched.Inv
  indices : ∀ address, watched.received address = process.manager.indices address

/-- A read that completes a packet gives the driver the index that is counted. -/
theorem WatchedBy.backendReads_indices (hWatched : WatchedBy format process watched)
    {count : Nat} {process' : Process} {watched' : Watched}
    (hStep : process.step format (.backendReads count) = some process')
    (hRun : run Watched.step watched (shadow format process (.backendReads count)) =
      some watched') (address : Nat) :
    watched'.received address = process'.manager.indices address := by
  have hRefines := hWatched.refines
  obtain ⟨handed, connection, result, hReceive, hHanded⟩ := hRefines.toBackend.receive count
  rcases hHanded with ⟨rfl, -⟩ | ⟨encodedPacket, rest, hPackets, rfl, -⟩
  · simp only [step, hReceive, Option.some.injEq] at hStep
    simp only [shadow, completes, hReceive, Bool.false_eq_true, if_false, run_nil,
      Option.some.injEq] at hRun
    rw [← hStep, ← hRun]
    exact hWatched.indices address
  · obtain ⟨packet, packets, hDrop, rfl, rfl⟩ := List.map_eq_cons_iff.mp hPackets
    have hSentSame : watched.system.frontend.sent = process.frontend.sent := by
      rw [hRefines.frontend]
      rfl
    have hNext : watched.system.toBackend = packet :: packets := by
      rw [System.toBackend, hSentSame, hDrop]
    have hDevices : watched.system.backend.devices = process.manager.backend.devices :=
      hRefines.backend.devices
    simp only [step, hReceive, handleDataPacket_image] at hStep
    simp only [shadow, completes, hReceive, if_true, run_singleton] at hRun
    rw [Watched.step_backendProcesses hNext] at hRun
    obtain ⟨⟨calls, backend⟩, hTraced, rfl⟩ := Option.map_eq_some_iff.mp hRun
    obtain ⟨manager, hManager, hReturn⟩ := Option.bind_eq_some_iff.mp hStep
    obtain rfl := Option.some.inj hReturn
    refine (Watched.received_withCalls watched calls backend address).trans ?_
    rw [hWatched.indices]
    show process.manager.indices address ++ _ = manager.indices address
    cases packet with
    | setPlayerIndex handle value =>
        rw [HIDManager.playerIndexReceived_indices hManager, Backend.calls_of_traced hTraced,
          Watched.indicesFor_reached, hDevices]
    | connect _ _ | disconnect _ | inputState _ _ | pausePressed _ =>
        obtain rfl := Option.some.inj hManager
        obtain ⟨rfl, -⟩ := Prod.mk.inj (Option.some.inj hTraced)
        exact List.append_nil _

theorem WatchedBy.step (hWatched : WatchedBy format process watched) {event : Event}
    (hInt32 : event.SetsInt32)
    (hRoom : watched.system.backend.nextHandle.toNat + event.attaches ≤ 2 ^ 32 - 2) :
    ∃ process' watched', process.step format event = some process' ∧
      run Watched.step watched (shadow format process event) = some watched' ∧
      WatchedBy format process' watched' ∧
      watched'.system.backend.nextHandle.toNat =
        watched.system.backend.nextHandle.toNat + event.attaches := by
  obtain ⟨process', system', hStep, hShadow, hRefines', hNext⟩ :=
    hWatched.refines.step event hRoom
  obtain ⟨watched', hRun, hInv⟩ := run_invariant_within_of
    (fun watched => watched.system.backend.nextHandle.toNat) System.Event.attaches (2 ^ 32 - 2)
    Watched.SetsInt32 (fun watched event hInv hSets hRoom => hInv.step hSets hRoom) hWatched.inv
    (shadow_setsInt32 hInt32)
    ((congrArg _ (shadow_attaches format process event)).trans_le hRoom)
  obtain rfl : watched'.system = system' := by
    have hSystem := watched.run_system (shadow format process event)
    rw [hRun, hShadow] at hSystem
    exact Option.some.inj hSystem
  refine ⟨process', watched', hStep, hRun, ⟨hRefines', hInv, fun address => ?_⟩, hNext⟩
  -- only the backend gives indices to drivers
  have hOthers (hEvents : ∀ shadowed ∈ shadow format process event, shadowed ≠ .backendProcesses)
      (hIndices : process'.manager.indices address = process.manager.indices address) :
      watched'.received address = process'.manager.indices address := by
    rw [hIndices, ← hWatched.indices, Watched.received, Watched.run_calls hEvents hRun]
    rfl
  cases event with
  | deviceAttached platform device =>
      refine hOthers (by simp [shadow]) ?_
      obtain ⟨manager, hAttached, hReturn⟩ := Option.bind_eq_some_iff.mp hStep
      obtain rfl := Option.some.inj hReturn
      exact HIDManager.indices_of_history (HIDManager.deviceAttached_history hAttached) address
  | deviceRemoved other =>
      refine hOthers (by simp [shadow]) ?_
      obtain rfl := Option.some.inj hStep
      rfl
  | deviceReport other report =>
      refine hOthers (fun shadowed hMem => ?_) ?_
      · obtain ⟨packet, hSends⟩ := shadow_deviceReport hMem
        exact (driverSends_cases hSends).2.2
      · obtain ⟨manager, hReport, hReturn⟩ := Option.bind_eq_some_iff.mp hStep
        obtain rfl := Option.some.inj hReturn
        exact HIDManager.deviceReport_indices hReport address
  | backendReads count => exact hWatched.backendReads_indices hStep hRun address
  | frontendReads count =>
      refine hOthers ?_ ?_
      · simp only [shadow]
        split_ifs <;> simp
      · simp only [Process.step] at hStep
        split at hStep
        · cases hStep
        · split at hStep
          · obtain rfl := Option.some.inj hStep
            rfl
          · obtain ⟨frontend, -, hReturn⟩ := Option.bind_eq_some_iff.mp hStep
            obtain rfl := Option.some.inj hReturn
            rfl
  | appSetsPlayerIndex _ _ | appSetsHandler _ _ _ _ | appSetsPausedHandler _ _ =>
      refine hOthers (by simp [shadow]) ?_
      obtain rfl := Option.some.inj hStep
      rfl

end Process
end MFiWrapper
