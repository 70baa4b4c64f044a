import MFiWrapper.Backend.HIDManager
import MFiWrapper.Backend.PadReports
import MFiWrapper.Backend.StateRanges

/-!
# The pads of the HID manager

Pads come and go, and their calls interleave.  Every attached interface is what a pad of
its class has become that was connected and then got the calls on this interface, each with
the static buffers as it found them; what the manager has asked of the device, and what the
frontend was sent under its handle, is what that pad calls.
-/

namespace MFiWrapper
namespace HIDManager

open Library HIDPad

/-- The packet was sent by a driver, under the handle. -/
def ofPad (handle : UInt32) : MFiWPacket ℚ → Bool
  | .inputState other _ | .pausePressed other => other == handle
  | .connect _ _ | .disconnect _ | .setPlayerIndex _ _ => false

/-- The calls made on the interface at an address. -/
def callsAt (manager : HIDManager) (address : Nat) : List PadCall :=
  (own address manager.history).map Prod.snd

/-- An interface and the pad that it is: connected, and then given the calls on this
interface, each with the static buffers as they were at the time. -/
structure Served (manager : HIDManager) (interface : Interface) (platform : Platform) (kind : Kind)
    (pad : Pad) : Prop where
  calls : run Pad.receive (kind.connected platform) (own interface.address manager.history) =
    some pad
  driver : pad.driver = interface.driver
  requests : own interface.address manager.requests = pad.calls.filterMap DriverCall.request
  packets : manager.backend.sent.filter (ofPad interface.handle) =
    pad.calls.filterMap (DriverCall.packet interface.handle)

/-- What every run of the manager keeps. -/
structure Serves (manager : HIDManager) : Prop where
  statics : manager.statics.Inv
  drivers : ∀ interface ∈ manager.backend.interfaces, interface.driver.Sound
  ranged : ∀ interface ∈ manager.backend.interfaces, interface.driver.Ranged
  connections : manager.connections.map HIDConnection.hidpad =
    manager.backend.interfaces.map Interface.address
  /-- Nothing is known of an address or a handle before it is given out. -/
  history : ∀ entry ∈ manager.history, entry.1 < manager.backend.allocated
  requests : ∀ entry ∈ manager.requests, entry.1 < manager.backend.allocated
  sent : ∀ packet ∈ manager.backend.sent,
    packet.handle.toNat < manager.backend.nextHandle.toNat
  states : ∀ packet ∈ manager.backend.sent, packet.InRange
  served : ∀ interface ∈ manager.backend.interfaces, interface.attached = true →
    ∃ platform kind pad, manager.Served interface platform kind pad
  /-- The static buffers kept their form at every call. -/
  found : ∀ entry ∈ manager.history, entry.2.1.Inv

variable {manager manager' : HIDManager} {interface : Interface} {platform : Platform}
  {kind : Kind} {pad : Pad} {address : Nat}

theorem serves_initial : initial.Serves := by
  constructor
  · exact Statics.inv_initial
  all_goals simp [initial, Backend.initial]

/-- The static buffers kept their form at every call on an interface. -/
theorem Serves.own_found (hServes : manager.Serves) (address : Nat) :
    ∀ c ∈ own address manager.history, c.1.Inv := by
  intro c hMem
  obtain ⟨entry, hEntry, rfl⟩ := List.mem_map.mp hMem
  exact hServes.found entry (List.mem_of_mem_filter hEntry)

/-- Nothing that concerns an interface has changed. -/
theorem Served.of_same (hServed : manager.Served interface platform kind pad)
    (hHistory : own interface.address manager'.history = own interface.address manager.history)
    (hRequests : own interface.address manager'.requests =
      own interface.address manager.requests)
    (hSent : manager'.backend.sent.filter (ofPad interface.handle) =
      manager.backend.sent.filter (ofPad interface.handle)) :
    manager'.Served interface platform kind pad := by
  constructor
  · rw [hHistory]
    exact hServed.calls
  · exact hServed.driver
  · rw [hRequests]
    exact hServed.requests
  · rw [hSent]
    exact hServed.packets

theorem handle_of_ofPad {handle : UInt32} {packet : MFiWPacket ℚ}
    (hOfPad : ofPad handle packet = true) : packet.handle = handle := by
  cases packet with
  | inputState other _ | pausePressed other => exact beq_iff_eq.mp hOfPad
  | connect _ _ | disconnect _ | setPlayerIndex _ _ => cases hOfPad

/-! ## One call -/

theorem own_requestsOf (address : Nat) (calls : List DriverCall) :
    own address (requestsOf address calls) = calls.filterMap DriverCall.request := by
  simp [own, requestsOf, List.filter_map, Function.comp_def]

theorem own_requestsOf_other {other : Nat} (hOther : other ≠ address) (calls : List DriverCall) :
    own other (requestsOf address calls) = [] := by
  simp [own, requestsOf, List.filter_map, Function.comp_def, hOther.symm]

theorem own_append {κ β : Type} [DecidableEq κ] (k : κ) (first second : List (κ × β)) :
    own k (first ++ second) = own k first ++ own k second := by
  rw [own, List.filter_append, List.map_append]
  rfl

/-- The packets of a driver's calls carry its handle, and no other. -/
theorem filter_packets (handle other : UInt32) (calls : List DriverCall) :
    (calls.filterMap (DriverCall.packet handle)).filter (ofPad other) =
      if handle = other then calls.filterMap (DriverCall.packet handle) else [] := by
  have hPacket : ∀ packet ∈ calls.filterMap (DriverCall.packet handle),
      ofPad other packet = (handle == other) := by
    intro packet hMem
    obtain ⟨c, -, hPacket⟩ := List.mem_filterMap.mp hMem
    cases c <;> cases hPacket <;> rfl
  split_ifs with hSame
  · exact List.filter_eq_self.mpr fun packet hMem => by simp [hPacket packet hMem, hSame]
  · exact List.filter_eq_nil_iff.mpr fun packet hMem => by simp [hPacket packet hMem, hSame]

/-- The manager after a call on a live interface. -/
def called (manager : HIDManager) (interface : Interface) (c : PadCall) (statics : Statics)
    (driver : Driver) (calls : List DriverCall) : HIDManager where
  backend := { manager.backend.setDriver interface.address driver with
    sent := manager.backend.sent ++ calls.filterMap (DriverCall.packet interface.handle) }
  statics := statics
  connections := manager.connections
  requests := manager.requests ++ requestsOf interface.address calls
  history := manager.history ++ [(interface.address, manager.statics, c)]

theorem call_eq {c : PadCall} {statics : Statics} {driver : Driver} {calls : List DriverCall}
    (hLive : manager.backend.interfaceAt interface.address = some interface)
    (hCall : interface.driver.call manager.statics c = some (statics, driver, calls)) :
    manager.call interface.address c = some (manager.called interface c statics driver calls) := by
  simp only [call, hLive, Option.bind_eq_bind, Option.bind_some, hCall, Backend.foldl_perform]
  rfl

/-- The handle of an interface is none of those of the other attached interfaces. -/
theorem handle_ne {backend : Backend} (hTracked : backend.Tracked) {other : Interface}
    (hMem : interface ∈ backend.interfaces) (hOther : other ∈ backend.interfaces)
    (hAttached : other.attached = true) (hNe : other.address ≠ interface.address) :
    interface.handle ≠ other.handle := by
  have hEntry : (other.handle, other.address) ∈ backend.entries :=
    Backend.mem_entries.mpr ⟨other, hOther, hAttached, rfl, rfl⟩
  intro hSame
  cases hPlain : interface.attached
  · -- an interface that was never attached has handle 0
    rw [hTracked.sound.unattached interface hMem hPlain] at hSame
    exact hTracked.nonzero (hSame ▸ Backend.mem_handles.mpr ⟨_, hEntry⟩)
  · have hEntry' : (interface.handle, interface.address) ∈ backend.entries :=
      Backend.mem_entries.mpr ⟨interface, hMem, hPlain, rfl, rfl⟩
    have hEqual := List.inj_on_of_nodup_map hTracked.nodup hEntry hEntry' hSame.symm
    exact hNe (congrArg Prod.snd hEqual)

/-- The handle of every interface has been given out. -/
theorem handle_lt {backend : Backend} (hTracked : backend.Tracked)
    (hMem : interface ∈ backend.interfaces) :
    interface.handle.toNat < backend.nextHandle.toNat := by
  cases hPlain : interface.attached
  · rw [hTracked.sound.unattached interface hMem hPlain]
    exact Nat.pos_of_ne_zero fun hZero => hTracked.next (UInt32.toNat_inj.mp hZero)
  · exact hTracked.issued _ (Backend.mem_handles.mpr
      ⟨_, Backend.mem_entries.mpr ⟨interface, hMem, hPlain, rfl, rfl⟩⟩)

theorem setDriver_addresses (address : Nat) (driver : Driver) (backend : Backend) :
    (backend.setDriver address driver).interfaces.map Interface.address =
      backend.interfaces.map Interface.address := by
  rw [Backend.setDriver, List.map_map]
  refine List.map_congr_left fun other _ => ?_
  rw [Function.comp_apply]
  split_ifs <;> rfl

/-- The pad that an interface is, after one more call on it. -/
theorem Served.called (hServed : manager.Served interface platform kind pad) {c : PadCall}
    {statics : Statics} {driver : Driver} {calls : List DriverCall}
    (hCall : interface.driver.call manager.statics c = some (statics, driver, calls)) :
    (manager.called interface c statics driver calls).Served { interface with driver := driver }
      platform kind ⟨driver, pad.calls ++ calls⟩ := by
  have hTurn : pad.receive (manager.statics, c) = some ⟨driver, pad.calls ++ calls⟩ := by
    rw [Pad.receive, Pad.turn, hServed.driver, hCall]
    rfl
  constructor
  · show run Pad.receive _ (own interface.address (manager.history ++
      [(interface.address, manager.statics, c)])) = _
    rw [own_append_self, run_append, hServed.calls, Option.bind_some, run_singleton, hTurn]
  · rfl
  · show own interface.address (manager.requests ++ requestsOf interface.address calls) = _
    rw [own_append, own_requestsOf, hServed.requests, List.filterMap_append]
  · show (manager.backend.sent ++ _).filter _ = _
    rw [List.filter_append, filter_packets, if_pos rfl, hServed.packets, List.filterMap_append]

/-- A call leaves the other interfaces alone, and the interface it is made on is again
what its own calls have made of it. -/
theorem Serves.called (hServes : manager.Serves) (hTracked : manager.backend.Tracked)
    (hMem : interface ∈ manager.backend.interfaces) {c : PadCall}
    {statics : Statics} {driver : Driver} {calls : List DriverCall}
    (hCall : interface.driver.call manager.statics c = some (statics, driver, calls))
    (hInv : statics.Inv) (hSound : driver.Sound) :
    (manager.called interface c statics driver calls).Serves := by
  have hFresh := hTracked.sound.fresh interface hMem
  obtain ⟨hRanged, hStates⟩ :=
    (hServes.ranged interface hMem).call (hServes.drivers interface hMem) hCall
  constructor
  · exact hInv
  · intro other hOther
    rcases Backend.mem_setDriver hOther with ⟨hOld, -⟩ | ⟨old, -, -, rfl⟩
    · exact hServes.drivers other hOld
    · exact hSound
  · intro other hOther
    rcases Backend.mem_setDriver hOther with ⟨hOld, -⟩ | ⟨old, -, -, rfl⟩
    · exact hServes.ranged other hOld
    · exact hRanged
  · exact hServes.connections.trans (setDriver_addresses ..).symm
  · refine List.forall_mem_append.mpr ⟨hServes.history, ?_⟩
    exact List.forall_mem_singleton.mpr hFresh
  · refine List.forall_mem_append.mpr ⟨hServes.requests, fun entry hEntry => ?_⟩
    obtain ⟨request, -, rfl⟩ := List.mem_map.mp hEntry
    exact hFresh
  · refine List.forall_mem_append.mpr ⟨hServes.sent, fun packet hPacket => ?_⟩
    obtain ⟨made, -, hMade⟩ := List.mem_filterMap.mp hPacket
    have hHandle : packet.handle = interface.handle := by
      cases made <;> cases hMade <;> rfl
    rw [hHandle]
    show interface.handle.toNat < manager.backend.nextHandle.toNat
    exact handle_lt hTracked hMem
  · exact List.forall_mem_append.mpr ⟨hServes.states, hStates.packets interface.handle⟩
  · intro other hOther hAttached
    rcases Backend.mem_setDriver hOther with ⟨hOld, hNe⟩ | ⟨old, hOld, hSame, rfl⟩
    · obtain ⟨platform, kind, pad, hServed⟩ := hServes.served other hOld hAttached
      refine ⟨platform, kind, pad, hServed.of_same ?_ ?_ ?_⟩
      · exact own_append_other hNe.symm _ _
      · show own other.address (manager.requests ++ requestsOf interface.address calls) = _
        rw [own_append, own_requestsOf_other hNe, List.append_nil]
      · show (manager.backend.sent ++ _).filter _ = _
        rw [List.filter_append, filter_packets,
          if_neg (handle_ne hTracked hMem hOld hAttached hNe), List.append_nil]
    · obtain rfl : old = interface :=
        List.inj_on_of_nodup_map hTracked.sound.nodup hOld hMem hSame
      have hAttaches : old.attached = true := (Driver.call_attaches hCall).symm.trans hAttached
      obtain ⟨platform, kind, pad, hServed⟩ := hServes.served old hMem hAttaches
      exact ⟨platform, kind, _, hServed.called hCall⟩
  · exact List.forall_mem_append.mpr
      ⟨hServes.found, List.forall_mem_singleton.mpr hServes.statics⟩

/-! ## The operations -/

/-- Every call on a live interface completes. -/
theorem Serves.call (hServes : manager.Serves) (hTracked : manager.backend.Tracked)
    (hLive : manager.backend.interfaceAt address = some interface) (c : PadCall) :
    ∃ statics driver calls,
      interface.driver.call manager.statics c = some (statics, driver, calls) ∧
      manager.call address c = some (manager.called interface c statics driver calls) ∧
      (manager.called interface c statics driver calls).Serves := by
  obtain ⟨hMem, rfl⟩ := (Backend.interfaceAt_eq_some hTracked.sound).mp hLive
  obtain ⟨statics, driver, calls, hCall, hInv, hSound⟩ :=
    (hServes.drivers interface hMem).call hServes.statics c
  exact ⟨statics, driver, calls, hCall, call_eq hLive hCall,
    hServes.called hTracked hMem hCall hInv hSound⟩

/-- Nothing but the data of the connections has changed. -/
theorem Serves.of_data (hServes : manager.Serves) {connections : List HIDConnection}
    (hSame : connections.map HIDConnection.hidpad =
      manager.connections.map HIDConnection.hidpad) :
    ({ manager with connections := connections } : HIDManager).Serves := by
  obtain ⟨hStatics, hDrivers, hRanged, hConnections, hHistory, hRequests, hSent, hStates,
    hServed, hFound⟩ := hServes
  refine ⟨hStatics, hDrivers, hRanged, hSame.trans hConnections, hHistory, hRequests, hSent,
    hStates, ?_, hFound⟩
  intro interface hMem hAttached
  obtain ⟨platform, kind, pad, hServed'⟩ := hServed interface hMem hAttached
  exact ⟨platform, kind, pad, hServed'.of_same rfl rfl rfl⟩

/-- Nothing but the map of devices has changed. -/
theorem Serves.of_devices (hServes : manager.Serves) (devices : UInt32 → Option (Option Nat)) :
    ({ manager with backend := { manager.backend with devices := devices } } :
      HIDManager).Serves := by
  obtain ⟨hStatics, hDrivers, hRanged, hConnections, hHistory, hRequests, hSent, hStates,
    hServed, hFound⟩ := hServes
  refine ⟨hStatics, hDrivers, hRanged, hConnections, hHistory, hRequests, hSent, hStates, ?_,
    hFound⟩
  intro interface hMem hAttached
  obtain ⟨platform, kind, pad, hServed'⟩ := hServed interface hMem hAttached
  exact ⟨platform, kind, pad, hServed'.of_same rfl rfl rfl⟩

theorem Serves.deviceRemoved (hServes : manager.Serves) (hTracked : manager.backend.Tracked)
    (address : Nat) : (manager.deviceRemoved address).Serves := by
  have hInterfaces := Backend.deviceRemoved_interfaces address manager.backend
  have hAllocated := Backend.deviceRemoved_allocated address manager.backend
  have hNext := Backend.deviceRemoved_nextHandle address manager.backend
  -- at most the end of the interface is announced
  obtain ⟨packets, hSent, hPackets⟩ : ∃ packets,
      (manager.backend.deviceRemoved address).sent = manager.backend.sent ++ packets ∧
        ∀ packet ∈ packets, (∃ interface ∈ manager.backend.interfaces,
          packet = .disconnect interface.handle) := by
    cases hLive : manager.backend.interfaceAt address with
    | none =>
        rw [Backend.deviceRemoved_absent hLive]
        exact ⟨[], (List.append_nil _).symm, by simp⟩
    | some interface =>
        obtain ⟨hMem, -⟩ := (Backend.interfaceAt_eq_some hTracked.sound).mp hLive
        cases hKnown : manager.backend.devices interface.handle with
        | none =>
            rw [Backend.deviceRemoved_unknown hLive hKnown]
            exact ⟨[], (List.append_nil _).symm, by simp⟩
        | some device =>
            rw [Backend.deviceRemoved_known hLive (by rw [hKnown]; rfl)]
            exact ⟨[.disconnect interface.handle], rfl,
              List.forall_mem_singleton.mpr ⟨interface, hMem, rfl⟩⟩
  constructor
  · exact hServes.statics
  · intro other hOther
    replace hOther := hInterfaces ▸ hOther
    exact hServes.drivers other (List.mem_of_mem_filter hOther)
  · intro other hOther
    replace hOther := hInterfaces ▸ hOther
    exact hServes.ranged other (List.mem_of_mem_filter hOther)
  · calc (manager.connections.filter fun connection => connection.hidpad ≠ address).map
          HIDConnection.hidpad
        = (manager.connections.map HIDConnection.hidpad).filter (· ≠ address) := by
          rw [List.filter_map]
          rfl
      _ = (manager.backend.interfaces.map Interface.address).filter (· ≠ address) := by
          rw [hServes.connections]
      _ = (manager.backend.deviceRemoved address).interfaces.map Interface.address := by
          rw [hInterfaces, List.filter_map]
          rfl
  · show ∀ entry ∈ manager.history, entry.1 < (manager.backend.deviceRemoved address).allocated
    rw [hAllocated]
    exact hServes.history
  · show ∀ entry ∈ manager.requests, entry.1 < (manager.backend.deviceRemoved address).allocated
    rw [hAllocated]
    exact hServes.requests
  · show ∀ packet ∈ (manager.backend.deviceRemoved address).sent, packet.handle.toNat <
      (manager.backend.deviceRemoved address).nextHandle.toNat
    rw [hSent, hNext]
    refine List.forall_mem_append.mpr ⟨hServes.sent, fun packet hPacket => ?_⟩
    obtain ⟨interface, hMem, rfl⟩ := hPackets packet hPacket
    exact handle_lt hTracked hMem
  · show ∀ packet ∈ (manager.backend.deviceRemoved address).sent, packet.InRange
    rw [hSent]
    refine List.forall_mem_append.mpr ⟨hServes.states, fun packet hPacket => ?_⟩
    obtain ⟨interface, -, rfl⟩ := hPackets packet hPacket
    trivial
  · intro other hOther hAttached
    replace hOther := hInterfaces ▸ hOther
    obtain ⟨platform, kind, pad, hServed⟩ :=
      hServes.served other (List.mem_of_mem_filter hOther) hAttached
    refine ⟨platform, kind, pad, hServed.of_same rfl rfl ?_⟩
    have hNone : packets.filter (ofPad other.handle) = [] := by
      refine List.filter_eq_nil_iff.mpr fun packet hPacket => ?_
      obtain ⟨interface, -, rfl⟩ := hPackets packet hPacket
      simp [ofPad]
    show (manager.backend.deviceRemoved address).sent.filter _ = _
    rw [hSent, List.filter_append, hNone, List.append_nil]
  · exact hServes.found

/-- What is not logged for an address is not among its own. -/
theorem own_fresh {β : Type} {log : List (Nat × β)} {bound : Nat}
    (hLog : ∀ entry ∈ log, entry.1 < bound) : own bound log = [] := by
  rw [own, List.map_eq_nil_iff, List.filter_eq_nil_iff]
  intro entry hMem hSame
  exact (hLog entry hMem).ne (of_decide_eq_true hSame)

/-- A connection and its interface are added; an interface that is attached is a pad that
was just connected. -/
theorem Serves.added (hServes : manager.Serves) (hBackend : manager.backend.Sound)
    {backend : Backend} {driver : Driver} {calls : List DriverCall} (handle : UInt32)
    (packets : List (MFiWPacket ℚ))
    (hInterfaces : backend.interfaces =
      manager.backend.interfaces ++ [⟨manager.backend.allocated, handle, driver⟩])
    (hAllocated : backend.allocated = manager.backend.allocated + 1)
    (hSent : backend.sent = manager.backend.sent ++ packets)
    (hPackets : ∀ packet ∈ packets, packet.handle.toNat < backend.nextHandle.toNat ∧
      packet.InRange ∧ ∀ other, ofPad other packet = false)
    (hNext : manager.backend.nextHandle.toNat ≤ backend.nextHandle.toNat)
    (hSound : driver.Sound) (hRanged : driver.Ranged)
    (hConnected : driver.attaches = true → handle = manager.backend.nextHandle ∧
      (∃ (platform : Platform) (kind : Kind), kind.connected platform = ⟨driver, calls⟩) ∧
      calls.filterMap (DriverCall.packet handle) = []) :
    ({ manager with
      backend := backend
      connections := manager.connections ++ [⟨manager.backend.allocated, fun _ => 0⟩]
      requests := manager.requests ++ requestsOf manager.backend.allocated calls } :
        HIDManager).Serves := by
  have hFilter (other : UInt32) : backend.sent.filter (ofPad other) =
      manager.backend.sent.filter (ofPad other) := by
    have hNone : packets.filter (ofPad other) = [] :=
      List.filter_eq_nil_iff.mpr fun packet hMem => by simp [(hPackets packet hMem).2.2 other]
    rw [hSent, List.filter_append, hNone, List.append_nil]
  constructor
  · exact hServes.statics
  · rw [hInterfaces]
    exact List.forall_mem_append.mpr ⟨hServes.drivers, List.forall_mem_singleton.mpr hSound⟩
  · rw [hInterfaces]
    exact List.forall_mem_append.mpr ⟨hServes.ranged, List.forall_mem_singleton.mpr hRanged⟩
  · rw [hInterfaces, List.map_append, List.map_append, hServes.connections]
    rfl
  · rw [hAllocated]
    exact fun entry hMem => Nat.lt_succ_of_lt (hServes.history entry hMem)
  · rw [hAllocated]
    refine List.forall_mem_append.mpr
      ⟨fun entry hMem => Nat.lt_succ_of_lt (hServes.requests entry hMem), fun entry hMem => ?_⟩
    obtain ⟨request, -, rfl⟩ := List.mem_map.mp hMem
    exact Nat.lt_succ_self _
  · rw [hSent]
    exact List.forall_mem_append.mpr
      ⟨fun packet hMem => (hServes.sent packet hMem).trans_le hNext,
        fun packet hMem => (hPackets packet hMem).1⟩
  · rw [hSent]
    exact List.forall_mem_append.mpr
      ⟨hServes.states, fun packet hMem => (hPackets packet hMem).2.1⟩
  · rw [hInterfaces]
    refine List.forall_mem_append.mpr ⟨fun interface hMem hAttached => ?_, ?_⟩
    · obtain ⟨platform, kind, pad, hServed⟩ := hServes.served interface hMem hAttached
      -- its address was given out before
      have hOther := (hBackend.fresh interface hMem).ne
      refine ⟨platform, kind, pad, hServed.of_same rfl ?_ (hFilter _)⟩
      rw [own_append, own_requestsOf_other hOther, List.append_nil]
    · refine List.forall_mem_singleton.mpr fun hAttached => ?_
      obtain ⟨rfl, ⟨platform, kind, hPad⟩, hQuiet⟩ := hConnected hAttached
      refine ⟨platform, kind, ⟨driver, calls⟩, ?_, rfl, ?_, ?_⟩
      · rw [own_fresh hServes.history, hPad]
        rfl
      · rw [own_append, own_requestsOf, own_fresh hServes.requests, List.nil_append]
      · rw [hFilter, hQuiet, List.filter_eq_nil_iff]
        intro packet hMem hSame
        exact (hServes.sent packet hMem).ne (congrArg UInt32.toNat (handle_of_ofPad hSame))
  · exact hServes.found

theorem Kind.connected_eq {driver : Driver} {calls : List DriverCall}
    (hConstruct : kind.construct platform = some (driver, calls)) :
    kind.connected platform = ⟨driver, calls⟩ := by
  simp only [Kind.connected, hConstruct, Option.get_some]

/-- What `HIDPad::Connect` returns, and its constructor calls. -/
theorem connectCalls_spec (platform : Platform) (aName : String) :
    ∃ driver calls, connectCalls platform aName = some (driver, calls) ∧ driver.Sound ∧
      driver.Ranged ∧ connect platform aName = some driver ∧
      (driver.attaches = true → (∃ (platform : Platform) (kind : Kind),
        kind.connected platform = ⟨driver, calls⟩) ∧
        ∀ handle, calls.filterMap (DriverCall.packet handle) = []) := by
  have hFst := connectCalls_fst platform aName
  cases hKind : kindOf aName with
  | none =>
      have hCalls : connectCalls platform aName = some (.dummy, []) := by
        simp only [connectCalls, hKind]
      rw [hCalls] at hFst
      exact ⟨.dummy, [], hCalls, trivial, trivial, hFst.symm, fun hAttaches => by cases hAttaches⟩
  | some kind =>
      obtain ⟨driver, calls, hConstruct, hSound⟩ := kind.construct_sound platform
      have hCalls : connectCalls platform aName = some (driver, calls) := by
        simp only [connectCalls, hKind, hConstruct]
      rw [hCalls] at hFst
      exact ⟨driver, calls, hCalls, hSound, Kind.construct_ranged hConstruct, hFst.symm, fun _ =>
        ⟨⟨platform, kind, Kind.connected_eq hConstruct⟩,
          fun handle => (Kind.construct_quiet hConstruct handle).2⟩⟩

/-- A device is attached, as long as there is a handle for it. -/
theorem Serves.deviceAttached (hServes : manager.Serves) (hTracked : manager.backend.Tracked)
    (platform : Platform) (device : HIDDevice)
    (hRoom : Backend.recognised (device.name platform) = true →
      manager.backend.nextHandle.toNat + 1 < 2 ^ 32) :
    ∃ driver manager', connect platform (device.name platform) = some driver ∧
      manager.deviceAttached platform device = some manager' ∧
      manager'.backend = manager.backend.construct driver ∧ manager'.Serves := by
  obtain ⟨driver, calls, hCalls, hSound, hRanged, hConnect, hQuiet⟩ :=
    connectCalls_spec platform (device.name platform)
  refine ⟨driver, { manager with
    backend := manager.backend.construct driver
    connections := manager.connections ++ [⟨manager.backend.allocated, fun _ => 0⟩]
    requests := manager.requests ++ requestsOf manager.backend.allocated calls },
    hConnect, ?_, rfl, ?_⟩
  · simp only [HIDManager.deviceAttached, hCalls, Option.bind_eq_bind, Option.bind_some]
    rfl
  · have hAttaches := Backend.connect_attaches hConnect
    cases hKnown : driver.attaches with
    | true =>
        have hSucc := Backend.nextHandle_succ (hRoom (hAttaches.symm.trans hKnown))
        have hConstruct := Backend.construct_attached hKnown manager.backend
        have hNext : (manager.backend.construct driver).nextHandle.toNat =
            manager.backend.nextHandle.toNat + 1 := by rw [hConstruct, ← hSucc]
        refine hServes.added hTracked.sound manager.backend.nextHandle
          [.connect manager.backend.nextHandle (Backend.connectPacket driver)]
          (by rw [hConstruct]) (by rw [hConstruct]) (by rw [hConstruct])
          (List.forall_mem_singleton.mpr ⟨hNext.symm ▸ Nat.lt_succ_self _, trivial, fun _ => rfl⟩)
          (hNext.symm ▸ Nat.le_succ _) hSound hRanged
          fun _ => ⟨rfl, (hQuiet hKnown).1, (hQuiet hKnown).2 _⟩
    | false =>
        have hConstruct := Backend.construct_plain hKnown manager.backend
        refine hServes.added hTracked.sound 0 [] (by rw [hConstruct]) (by rw [hConstruct])
          (by rw [hConstruct, List.append_nil]) (by simp) (by rw [hConstruct]) hSound hRanged
          fun hAttached => ?_
        rw [hKnown] at hAttached
        cases hAttached

/-- A report for an address with a connection is a call on the interface there, and
without a connection there is none. -/
theorem Serves.deviceReport (hServes : manager.Serves) (hTracked : manager.backend.Tracked)
    (address : Nat) (report : List UInt8) :
    (manager.backend.interfaceAt address = none ∧
      manager.deviceReport address report = some manager) ∨
    ∃ interface statics driver calls manager',
      manager.backend.interfaceAt address = some interface ∧
      driver.attaches = interface.driver.attaches ∧
      manager.deviceReport address report = some manager' ∧ manager'.Serves ∧
      manager'.backend = calls.foldl (Backend.perform interface)
        (manager.backend.setDriver address driver) ∧
      (∃ c, interface.driver.call manager.statics c = some (statics, driver, calls)) := by
  cases hFind : manager.connections.find? fun connection => connection.hidpad == address with
  | none =>
      left
      refine ⟨?_, by simp only [HIDManager.deviceReport, hFind]⟩
      -- what has no connection is not alive
      cases hLive : manager.backend.interfaceAt address with
      | none => rfl
      | some interface =>
          obtain ⟨hMem, hAddress⟩ := (Backend.interfaceAt_eq_some hTracked.sound).mp hLive
          have hMapped : interface.address ∈ manager.connections.map HIDConnection.hidpad := by
            rw [hServes.connections]
            exact List.mem_map_of_mem hMem
          obtain ⟨connection, hConnection, hHidpad⟩ := List.mem_map.mp hMapped
          have hNot := List.find?_eq_none.mp hFind connection hConnection
          exact absurd (beq_iff_eq.mpr (hHidpad.trans hAddress)) hNot
  | some connection =>
      right
      have hHidpad : connection.hidpad = address := by simpa using List.find?_some hFind
      have hMapped : address ∈ manager.backend.interfaces.map Interface.address := by
        rw [← hServes.connections, ← hHidpad]
        exact List.mem_map_of_mem (List.mem_of_find?_eq_some hFind)
      obtain ⟨interface, hMem, hAddress⟩ := List.mem_map.mp hMapped
      have hLive := (Backend.interfaceAt_eq_some hTracked.sound).mpr ⟨hMem, hAddress⟩
      obtain ⟨statics, driver, calls, hCall, hCalled, hServes'⟩ :=
        hServes.call hTracked hLive (HIDPad.deviceReport (report.take 2047) connection.data)
      obtain ⟨connections, hReport, hSame⟩ : ∃ connections,
          manager.deviceReport address report = some { manager.called interface
            (HIDPad.deviceReport (report.take 2047) connection.data) statics driver calls with
            connections := connections } ∧
          connections.map HIDConnection.hidpad =
            manager.connections.map HIDConnection.hidpad := by
        refine ⟨_, by
          simp only [HIDManager.deviceReport, hFind, hLive, hCalled, Option.bind_eq_bind,
            Option.bind_some]
          rfl, ?_⟩
        rw [List.map_map]
        refine List.map_congr_left fun other _ => ?_
        rw [Function.comp_apply]
        split_ifs <;> rfl
      refine ⟨interface, statics, driver, calls, _, hLive, Driver.call_attaches hCall, hReport,
        hServes'.of_data hSame, ?_, _, hCall⟩
      rw [Backend.foldl_perform, ← hAddress]
      rfl

/-- A player index is a call on the interface that has the handle, if there is one. -/
theorem Serves.playerIndexReceived (hServes : manager.Serves)
    (hTracked : manager.backend.Tracked) (handle : UInt32) (value : Int32) :
    ∃ manager', manager.playerIndexReceived handle value = some manager' ∧ manager'.Serves ∧
      manager.backend.handlePacket (.setPlayerIndex handle value) = some manager'.backend := by
  by_cases hMem : handle ∈ manager.backend.handles
  · obtain ⟨address, hEntry⟩ := Backend.mem_handles.mp hMem
    obtain ⟨interface, hInterface, -, -, hAddress⟩ := Backend.mem_entries.mp hEntry
    have hStored := hTracked.stored handle address hEntry
    have hKeep : Function.update manager.backend.devices handle (some (some address)) =
        manager.backend.devices := by
      rw [← hStored, Function.update_eq_self]
    have hLive := (Backend.interfaceAt_eq_some hTracked.sound).mpr ⟨hInterface, hAddress⟩
    obtain ⟨statics, driver, calls, hCall, hCalled, hServes'⟩ :=
      hServes.call hTracked hLive (.setPlayerIndex value)
    obtain ⟨hSet, hQuiet⟩ := Driver.call_setPlayerIndex hCall
    refine ⟨manager.called interface (.setPlayerIndex value) statics driver calls, ?_, hServes', ?_⟩
    · simp only [HIDManager.playerIndexReceived, hStored, Option.getD_some, hKeep]
      exact hCalled
    · simp only [Backend.handlePacket, hStored, Option.getD_some, hKeep, Backend.setPlayerIndex,
        hLive, hSet, Option.bind_eq_bind, Option.bind_some, HIDManager.called, hQuiet,
        List.append_nil, hAddress]
      rfl
  · -- a null pointer is left in the map
    have hNowhere := hTracked.stray handle hMem
    refine ⟨_, ?_, hServes.of_devices (Function.update manager.backend.devices handle (some none)),
      ?_⟩
    · simp only [HIDManager.playerIndexReceived, hNowhere]
    · simp only [Backend.handlePacket, hNowhere]

end HIDManager
end MFiWrapper
