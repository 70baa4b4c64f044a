import MFiWrapper.Backend.SameRegistry
import MFiWrapper.Library.Simulation
import MFiWrapper.Session.Agreement
import MFiWrapper.Session.Process
import MFiWrapper.Session.ShownStates

/-!
# The program refines the joined queues

To the two sides the sockets are queues of packets, whatever the reads return: every run
of the program is, seen from afar, a run of the two sides joined by queues.  A report
becomes what the driver sends for it, a read that completes a packet becomes the handling
of the packet, and any other read nothing; drivers and handlers are out of sight.
-/

namespace MFiWrapper
namespace Process

open Library HIDPad Frontend

variable (format : FloatFormat)

/-- What the driver at the address does when it sends a packet. -/
def driverSends (address : Nat) : MFiWPacket ℚ → Option System.Event
  | .inputState handle aData =>
      some (.driverSendsState address ((format.round handle).convert aData))
  | .pausePressed _ => some (.driverSendsPause address)
  | .connect _ _ | .disconnect _ | .setPlayerIndex _ _ => none

/-- The read completes a packet. -/
def completes (connection : Connection) (waiting : List UInt8) (count : Nat) : Bool :=
  match connection.receive waiting count with
  | .ok (some _, _, _) => true
  | _ => false

/-- An event as it looks where packets travel in queues. -/
def shadow (process : Process) : Event → List System.Event
  | .deviceAttached platform device => [.deviceAttached platform (device.name platform)]
  | .deviceRemoved address => [.deviceRemoved address]
  | .deviceReport address report =>
      match process.manager.deviceReport address report with
      | none => []
      | some manager =>
          (manager.backend.sent.drop process.manager.backend.sent.length).filterMap
            (driverSends format address)
  | .backendReads count =>
      if completes process.backendConnection process.toBackend count then [.backendProcesses]
      else []
  | .frontendReads count =>
      if completes process.frontendConnection process.toFrontend count then [.frontendProcesses]
      else []
  | .appSetsPlayerIndex tweak index => [.appSetsPlayerIndex tweak index]
  | .appSetsHandler _ _ _ _ | .appSetsPausedHandler _ _ => []

/-- The packets of a log as they are written. -/
def encoded (packets : List (MFiWPacket ℚ)) : List (MFiWPacket UInt32) :=
  packets.map (MFiWPacket.convert format.toBits)

/-- The program, and the two sides joined by queues. -/
structure Refines (process : Process) (system : System) : Prop where
  inv : system.Inv
  current : system.Current
  serves : process.manager.Serves
  backend : Backend.SameButDrivers (process.manager.backend.mapSent format.round) system.backend
  frontend : system.frontend = process.frontend.quiet
  names : ∀ packet ∈ process.manager.backend.sent, packet.NameEnds
  toFrontend : process.frontendConnection.Expects process.toFrontend
    (encoded format (process.manager.backend.sent.drop system.frontendProcessed))
  toBackend : process.backendConnection.Expects process.toBackend
    (encoded format (process.frontend.sent.drop system.backendProcessed))

variable {format} {process : Process} {system : System}

theorem refines_initial : Refines format initial System.initial where
  inv := System.inv_initial
  current := System.current_initial
  serves := HIDManager.serves_initial
  backend := ⟨rfl, rfl, rfl, rfl, rfl⟩
  frontend := rfl
  names _ hMem := nomatch hMem
  toFrontend := Connection.expects_initial
  toBackend := Connection.expects_initial

namespace Refines

theorem tracked (hRefines : Refines format process system) :
    process.manager.backend.Tracked :=
  Backend.tracked_mapSent.mp (hRefines.backend.symm.tracked hRefines.inv.backend)

theorem sent_length (hRefines : Refines format process system) :
    system.backend.sent.length = process.manager.backend.sent.length := by
  rw [hRefines.backend.sent]
  exact List.length_map _

theorem handles (hRefines : Refines format process system) :
    process.manager.backend.handles = system.backend.handles ∧
      process.frontend.handles = system.frontend.handles := by
  rw [hRefines.frontend, State.handles_quiet, hRefines.backend.handles]
  exact ⟨rfl, rfl⟩

end Refines

/-! ## Writing -/

theorem written_append (before packets : List (MFiWPacket ℚ)) :
    written format before (before ++ packets) =
      (encoded format packets).flatMap MFiWPacket.send := by
  rw [written, List.drop_left, encoded, List.flatMap_map]

/-- The backend has sent packets. -/
theorem Refines.withManager (hRefines : Refines format process system) {manager : HIDManager}
    {backend : Backend} {packets : List (MFiWPacket ℚ)} (hServes : manager.Serves)
    (hInv : ({ system with backend := backend } : System).Inv)
    (hCurrent : ({ system with backend := backend } : System).Current)
    (hBackend : Backend.SameButDrivers (manager.backend.mapSent format.round) backend)
    (hSent : manager.backend.sent = process.manager.backend.sent ++ packets)
    (hNames : ∀ packet ∈ packets, packet.NameEnds) :
    Refines format (process.withManager format manager) { system with backend := backend } := by
  have hProcessed : system.frontendProcessed ≤ process.manager.backend.sent.length := by
    rw [← hRefines.sent_length]
    exact hRefines.inv.frontendProcessed
  constructor
  · exact hInv
  · exact hCurrent
  · exact hServes
  · exact hBackend
  · exact hRefines.frontend
  · show ∀ packet ∈ manager.backend.sent, _
    rw [hSent]
    exact List.forall_mem_append.mpr ⟨hRefines.names, hNames⟩
  · show process.frontendConnection.Expects (process.toFrontend ++ written format _ _) _
    have hWrite := hRefines.toFrontend.write (encoded format packets)
    rw [← written_append process.manager.backend.sent, encoded, encoded, ← List.map_append,
      ← List.drop_append_of_le_length hProcessed, ← hSent] at hWrite
    exact hWrite
  · exact hRefines.toBackend

/-- The frontend has sent packets. -/
theorem Refines.write_toBackend (hRefines : Refines format process system) {frontend : State}
    (hSent : process.frontend.sent <+: frontend.sent) :
    process.backendConnection.Expects
      (process.toBackend ++ written format process.frontend.sent frontend.sent)
      (encoded format (frontend.sent.drop system.backendProcessed)) := by
  obtain ⟨packets, hPackets⟩ := hSent
  have hProcessed : system.backendProcessed ≤ process.frontend.sent.length := by
    have hOld := hRefines.inv.backendProcessed
    rwa [hRefines.frontend] at hOld
  have hWrite := hRefines.toBackend.write (encoded format packets)
  rwa [← written_append process.frontend.sent, encoded, encoded, ← List.map_append,
    ← List.drop_append_of_le_length hProcessed, hPackets] at hWrite

/-! ## Devices -/

/-- A name that was copied has its NUL. -/
theorem nameEnds_connectPacket (handle : UInt32) (driver : Driver) :
    (MFiWPacket.connect handle (Backend.connectPacket driver) : MFiWPacket ℚ).NameEnds := by
  show 0 ∈ (strlcpy driver.getVendorName).toList
  rw [strlcpy, Vector.toList_ofFn, List.mem_ofFn]
  refine ⟨⟨255, by decide⟩, ?_⟩
  rw [List.getD_eq_getElem?_getD, List.getElem?_eq_none]
  · rfl
  · rw [List.length_take]
    exact Nat.min_le_left _ _

theorem construct_sent (driver : Driver) (backend : Backend) :
    ∃ packets, (backend.construct driver).sent = backend.sent ++ packets ∧
      ∀ packet ∈ packets, packet.NameEnds := by
  cases hAttaches : driver.attaches
  · rw [Backend.construct_plain hAttaches]
    exact ⟨[], (List.append_nil _).symm, by simp⟩
  · rw [Backend.construct_attached hAttaches]
    exact ⟨_, rfl, List.forall_mem_singleton.mpr (nameEnds_connectPacket _ _)⟩

theorem deviceRemoved_sent (address : Nat) (backend : Backend) :
    ∃ packets, (backend.deviceRemoved address).sent = backend.sent ++ packets ∧
      ∀ packet ∈ packets, packet.NameEnds := by
  unfold Backend.deviceRemoved Backend.detachController
  split
  · exact ⟨[], (List.append_nil _).symm, by simp⟩
  · dsimp only
    split_ifs
    · exact ⟨_, rfl, List.forall_mem_singleton.mpr trivial⟩
    · exact ⟨[], (List.append_nil _).symm, by simp⟩

theorem Refines.deviceAttached (hRefines : Refines format process system) (platform : Platform)
    (device : HIDDevice)
    (hRoom : Backend.recognised (device.name platform) = true →
      system.backend.nextHandle.toNat + 1 < 2 ^ 32) :
    ∃ process' system', process.step format (.deviceAttached platform device) = some process' ∧
      system.step (.deviceAttached platform (device.name platform)) = some system' ∧
      Refines format process' system' ∧
      system'.backend.nextHandle.toNat = system.backend.nextHandle.toNat +
        if Backend.recognised (device.name platform) then 1 else 0 := by
  obtain ⟨system', hSystem, hInv, hNext⟩ :=
    hRefines.inv.deviceAttached platform (device.name platform) hRoom
  obtain ⟨driver, manager, hConnect, hManager, hBackend, hServes⟩ :=
    hRefines.serves.deviceAttached hRefines.tracked platform device fun hRecognised => by
      rw [← show system.backend.nextHandle = process.manager.backend.nextHandle from
        hRefines.backend.nextHandle]
      exact hRoom hRecognised
  -- both construct the interface
  have hSystem' : system' = { system with backend := system.backend.construct driver } := by
    simp only [System.step, Backend.deviceAttached, hConnect, Option.bind_eq_bind,
      Option.bind_some, Option.pure_def, Option.some.injEq] at hSystem
    exact hSystem.symm
  subst hSystem'
  obtain ⟨packets, hSent, hNames⟩ := construct_sent driver process.manager.backend
  have hCurrent := hRefines.current.deviceAttached hRefines.inv hRoom hSystem
  refine ⟨process.withManager format manager, _, ?_, hSystem,
    hRefines.withManager hServes hInv hCurrent ?_ (hBackend ▸ hSent) hNames, hNext⟩
  · simp only [step, hManager, Option.bind_eq_bind, Option.bind_some]
    rfl
  · rw [hBackend, Backend.mapSent_construct]
    exact hRefines.backend.construct driver

theorem Refines.deviceRemoved (hRefines : Refines format process system) (address : Nat) :
    Refines format (process.withManager format (process.manager.deviceRemoved address))
      { system with backend := system.backend.deviceRemoved address } := by
  obtain ⟨packets, hSent, hNames⟩ := deviceRemoved_sent address process.manager.backend
  obtain ⟨hTracked, hAnnounced⟩ := hRefines.inv.backend.deviceRemoved address
  refine hRefines.withManager (hRefines.serves.deviceRemoved hRefines.tracked address)
    (hRefines.inv.backend_step hTracked hAnnounced)
    (hRefines.current.deviceRemoved hRefines.inv address) ?_ hSent hNames
  show Backend.SameButDrivers
    ((process.manager.backend.deviceRemoved address).mapSent format.round) _
  rw [Backend.mapSent_deviceRemoved]
  exact hRefines.backend.deviceRemoved address

/-! ## Reports -/

/-- The packets of a live driver are sent one after the other. -/
theorem run_driverSends {address : Nat} {interface : Interface} {packets : List (MFiWPacket ℚ)}
    (hPackets : ∀ packet ∈ packets, HIDManager.ofPad interface.handle packet = true)
    (hAttached : interface.attached = true) {system : System} (hInv : system.Inv)
    (hLive : system.backend.interfaceAt address = some interface) :
    ∃ backend, backend = { system.backend with
        sent := system.backend.sent ++ packets.map (MFiWPacket.convert format.round) } ∧
      run System.step system (packets.filterMap (driverSends format address)) =
        some { system with backend := backend } ∧
      ({ system with backend := backend } : System).Inv := by
  induction packets generalizing system with
  | nil =>
      refine ⟨system.backend, ?_, rfl, hInv⟩
      rw [List.map_nil, List.append_nil]
  | cons packet packets ih =>
      obtain ⟨hPacket, hPackets⟩ := List.forall_mem_cons.mp hPackets
      have hDriver : system.liveDriver address = some interface :=
        System.liveDriver_eq_some.mpr ⟨hLive, hAttached⟩
      -- one packet
      obtain ⟨event, hEvent, hStep, hInv'⟩ : ∃ event,
          driverSends format address packet = some event ∧
          system.step event = some { system with backend := { system.backend with
            sent := system.backend.sent ++ [packet.convert format.round] } } ∧
          ({ system with backend := { system.backend with
            sent := system.backend.sent ++ [packet.convert format.round] } } : System).Inv := by
        have hHandle := HIDManager.handle_of_ofPad hPacket
        cases packet with
        | inputState handle aData =>
            obtain rfl : handle = interface.handle := hHandle
            obtain ⟨hTracked, hAnnounced⟩ := hInv.backend.sendControllerState hLive hAttached
              ((format.round interface.handle).convert aData)
            exact ⟨_, rfl, by simp only [System.step, hDriver]; rfl,
              hInv.backend_step hTracked hAnnounced⟩
        | pausePressed handle =>
            obtain rfl : handle = interface.handle := hHandle
            obtain ⟨hTracked, hAnnounced⟩ := hInv.backend.sendPausePressed hLive hAttached
            exact ⟨_, rfl, by simp only [System.step, hDriver]; rfl,
              hInv.backend_step hTracked hAnnounced⟩
        | connect _ _ | disconnect _ | setPlayerIndex _ _ => cases hPacket
      obtain ⟨backend, rfl, hRun, hInv''⟩ := ih hPackets hInv' hLive
      refine ⟨_, ?_, ?_, hInv''⟩
      · rw [List.map_cons]
        simp only [List.append_assoc, List.cons_append, List.nil_append]
      · rw [List.filterMap_cons, hEvent, run_cons, hStep]
        exact hRun

/-- A report: its driver moves on and sends what it sends. -/
theorem Refines.deviceReport (hRefines : Refines format process system) (address : Nat)
    (report : List UInt8) :
    ∃ process' system', process.step format (.deviceReport address report) = some process' ∧
      run System.step system (shadow format process (.deviceReport address report)) =
        some system' ∧
      Refines format process' system' ∧
      system'.backend.nextHandle = system.backend.nextHandle := by
  have hTracked := hRefines.tracked
  rcases hRefines.serves.deviceReport hTracked address report with
    ⟨-, hNone⟩ | ⟨interface, statics, driver, calls, manager, hLive, hAttaches, hReport, hServes,
      hBackend, c, hCall⟩
  · refine ⟨process.withManager format process.manager, system, ?_, ?_, ?_, rfl⟩
    · simp only [step, hNone, Option.bind_eq_bind, Option.bind_some]
      rfl
    · simp only [shadow, hNone, List.drop_length]
      rfl
    · exact hRefines.withManager hRefines.serves hRefines.inv hRefines.current hRefines.backend
        (List.append_nil _).symm (by simp)
  · rw [Backend.foldl_perform] at hBackend
    have hSent : manager.backend.sent = process.manager.backend.sent ++
        calls.filterMap (DriverCall.packet interface.handle) := by rw [hBackend]; rfl
    have hPackets : ∀ packet ∈ calls.filterMap (DriverCall.packet interface.handle),
        HIDManager.ofPad interface.handle packet = true := by
      intro packet hMem
      obtain ⟨made, -, hMade⟩ := List.mem_filterMap.mp hMem
      cases made <;> cases hMade <;> exact beq_self_eq_true _
    have hNames : ∀ packet ∈ calls.filterMap (DriverCall.packet interface.handle),
        packet.NameEnds := by
      intro packet hMem
      obtain ⟨made, -, hMade⟩ := List.mem_filterMap.mp hMem
      cases made <;> cases hMade <;> trivial
    -- the same interface on the other side
    have hAt := hRefines.backend.interfaceAt address
    rw [show (process.manager.backend.mapSent format.round).interfaceAt address =
      some interface from hLive, Option.map_some] at hAt
    obtain ⟨other, hOther, hShape⟩ := Option.map_eq_some_iff.mp hAt
    have hHandle : other.handle = interface.handle := congrArg (fun s => s.2.1) hShape
    have hShadow : shadow format process (.deviceReport address report) =
        (calls.filterMap (DriverCall.packet interface.handle)).filterMap
          (driverSends format address) := by
      simp only [shadow, hReport, hSent, List.drop_left]
    obtain ⟨backend, hBackend', hRun, hInv⟩ : ∃ backend, backend = { system.backend with
        sent := system.backend.sent ++ (calls.filterMap
          (DriverCall.packet interface.handle)).map (MFiWPacket.convert format.round) } ∧
        run System.step system (shadow format process (.deviceReport address report)) =
          some { system with backend := backend } ∧
        ({ system with backend := backend } : System).Inv := by
      rw [hShadow]
      cases hAttached : interface.attached with
      | true =>
          have hOtherAttached : other.attached = true :=
            (congrArg (fun s => s.2.2) hShape).trans hAttached
          exact run_driverSends (by rw [hHandle]; exact hPackets) hOtherAttached hRefines.inv
            hOther
      | false =>
          -- a plain interface calls nothing
          have hPlain : interface.driver = .dummy := by
            cases hDriver : interface.driver with
            | dummy => rfl
            | playstation3 _ | dualShock4 _ | wiiMote _ | wiiUPro _ =>
                rw [Interface.attached, hDriver] at hAttached
                cases hAttached
          obtain rfl : calls = [] := by
            rw [hPlain] at hCall
            cases hCall
            rfl
          refine ⟨system.backend, ?_, rfl, hRefines.inv⟩
          rw [List.filterMap_nil, List.map_nil, List.append_nil]
    have hNone : ((calls.filterMap (DriverCall.packet interface.handle)).map
        (MFiWPacket.convert format.round)).filterMap Backend.connectHandle = [] := by
      rw [List.filterMap_eq_nil_iff]
      intro packet hMem
      obtain ⟨sent, hOfPad, rfl⟩ := List.mem_map.mp hMem
      have hPad := hPackets sent hOfPad
      cases sent <;> first | rfl | cases hPad
    have hCurrent : ({ system with backend := backend } : System).Current :=
      hRefines.current.backend_quiet hRefines.inv.frontendProcessed (by rw [hBackend']) hNone
        (by rw [hBackend'])
    refine ⟨process.withManager format manager, _, ?_, hRun,
      hRefines.withManager hServes hInv hCurrent ?_ hSent hNames, ?_⟩
    · simp only [step, hReport, Option.bind_eq_bind, Option.bind_some]
      rfl
    · have hSame := hRefines.backend.setDriver (Backend.tracked_mapSent.mpr hTracked).sound hLive
        hAttaches
      rw [hBackend, hBackend']
      refine ⟨hSame.nextHandle, hSame.devices, ?_, hSame.allocated, hSame.shapes⟩
      show system.backend.sent ++ _ = (process.manager.backend.sent ++ _).map _
      rw [List.map_append]
      exact congrArg (· ++ _) hRefines.backend.sent
    · show backend.nextHandle = _
      rw [hBackend']

/-! ## Reads -/

/-- The packet that was sent is found in the memory of the received one. -/
theorem handleDataPacket_image (packet : MFiWPacket ℚ) (manager : HIDManager) :
    manager.handleDataPacket (Connection.image (packet.convert format.toBits).send) =
      match packet with
      | .setPlayerIndex handle value => manager.playerIndexReceived handle value
      | _ => some manager := by
  have hContents := Connection.contents_image_send (packet.convert format.toBits)
  simp only [MFiWDataPacket.contents, MFiWPacket.contents, Prod.mk.injEq] at hContents
  obtain ⟨hType, hHandle, hPayload⟩ := hContents
  rw [HIDManager.handleDataPacket, MFiWDataPacket.knownType_eq hType]
  cases packet with
  | setPlayerIndex handle value =>
      have hWord : (Connection.image
          ((MFiWPacket.setPlayerIndex handle value).convert format.toBits).send).word 12 =
            value.toUInt32 := by
        have hLength : (le32 value.toUInt32).length = 4 := le32_length _
        rw [← Nat.add_zero 12, MFiWDataPacket.word_payload _ (by rw [hPayload]; exact hLength.ge),
          hPayload, List.drop_zero]
        show UInt32.ofNat (readLE ((le32 value.toUInt32).take 4)) = _
        rw [List.take_of_length_le hLength.le, ofNat_readLE_le32]
      have hHandle' : (Connection.image
          ((MFiWPacket.setPlayerIndex handle value).convert format.toBits).send).aHandle = handle := by
        rw [MFiWDataPacket.aHandle, hHandle]
        exact UInt32.ofNat_toNat
      show manager.playerIndexReceived _ _ = _
      rw [hWord, hHandle']
      rfl
  | connect _ _ | disconnect _ | inputState _ _ | pausePressed _ => rfl

theorem Refines.backendReads (hRefines : Refines format process system) (count : Nat) :
    ∃ process' system', process.step format (.backendReads count) = some process' ∧
      run System.step system (shadow format process (.backendReads count)) = some system' ∧
      Refines format process' system' ∧
      system'.backend.nextHandle = system.backend.nextHandle := by
  obtain ⟨handed, connection, result, hReceive, hHanded⟩ := hRefines.toBackend.receive count
  rcases hHanded with ⟨rfl, hExpects⟩ | ⟨encodedPacket, rest, hPackets, rfl, hExpects⟩
  · refine ⟨_, system, by simp only [step, hReceive]; rfl, ?_, ?_, rfl⟩
    · simp only [shadow, completes, hReceive]
      rfl
    · exact ⟨hRefines.inv, hRefines.current, hRefines.serves, hRefines.backend,
        hRefines.frontend, hRefines.names, hRefines.toFrontend, hExpects⟩
  · obtain ⟨packet, packets, hDrop, rfl, rfl⟩ := List.map_eq_cons_iff.mp hPackets
    have hSentSame : system.frontend.sent = process.frontend.sent := by rw [hRefines.frontend]; rfl
    have hNext : system.toBackend = packet :: packets := by
      rw [System.toBackend, hSentSame, hDrop]
    obtain ⟨-, -, hRest⟩ := System.drop_eq_cons hDrop
    obtain ⟨system', hStep, hInv, hSame⟩ := hRefines.inv.backendProcesses
    have hCurrent := hRefines.current.backendProcesses hRefines.inv hStep
    have hShadow : run System.step system (shadow format process (.backendReads count)) =
        some system' := by
      simp only [shadow, completes, hReceive]
      exact (run_singleton ..).trans hStep
    simp only [System.step, hNext, Option.bind_eq_bind] at hStep
    obtain ⟨backend, hBackend, hSystem⟩ := Option.bind_eq_some_iff.mp hStep
    obtain rfl := Option.some.inj hSystem
    -- the manager does what the backend does
    obtain ⟨manager, hManager, hServes, hMirrors, hSent⟩ : ∃ manager,
        process.manager.handleDataPacket (Connection.image (packet.convert format.toBits).send) =
          some manager ∧ manager.Serves ∧
        Backend.SameButDrivers (manager.backend.mapSent format.round) backend ∧
        manager.backend.sent = process.manager.backend.sent := by
      rw [handleDataPacket_image]
      cases packet with
      | setPlayerIndex handle value =>
          obtain ⟨manager, hReceived, hServes, hHandle⟩ :=
            hRefines.serves.playerIndexReceived hRefines.tracked handle value
          have hHandle' := Backend.mapSent_receive (f := format.round) handle value
            process.manager.backend
          rw [hHandle, Option.map_some] at hHandle'
          refine ⟨manager, hReceived, hServes, hRefines.backend.receive
            (Backend.tracked_mapSent.mpr hRefines.tracked) hHandle' hBackend, ?_⟩
          by_cases hMem : handle ∈ process.manager.backend.handles
          · exact (Backend.handlePacket_same hRefines.tracked hMem hHandle).sent
          · rw [Backend.handlePacket_stray hRefines.tracked hMem] at hHandle
            rw [← Option.some.inj hHandle]
      | connect _ _ | disconnect _ | inputState _ _ | pausePressed _ =>
          obtain rfl := Option.some.inj hBackend
          exact ⟨process.manager, rfl, hRefines.serves, hRefines.backend, rfl⟩
    refine ⟨_, _, by simp only [step, hReceive, hManager]; rfl, hShadow, ?_, hSame⟩
    have hNothing : written format process.manager.backend.sent manager.backend.sent = [] := by
      rw [written, hSent, List.drop_length]
      rfl
    constructor
    · exact hInv
    · exact hCurrent
    · exact hServes
    · exact hMirrors
    · exact hRefines.frontend
    · show ∀ packet ∈ manager.backend.sent, _
      rw [hSent]
      exact hRefines.names
    · show process.frontendConnection.Expects (process.toFrontend ++ written format _ _)
        (encoded format (manager.backend.sent.drop _))
      rw [hNothing, List.append_nil, hSent]
      exact hRefines.toFrontend
    · show connection.Expects _ (encoded format (process.frontend.sent.drop _))
      rw [hRest]
      exact hExpects

/-- What a read in the frontend hands over is the next packet that was sent. -/
theorem Refines.handed (hRefines : Refines format process system) {count result : Nat}
    {aPacket : MFiWDataPacket} {connection : Connection}
    (hReceive : process.frontendConnection.receive process.toFrontend count =
      .ok (some aPacket, connection, result)) :
    ∃ packet rest, process.manager.backend.sent.drop system.frontendProcessed = packet :: rest ∧
      system.toFrontend = packet.convert format.round :: rest.map (MFiWPacket.convert format.round) ∧
      connection.Expects (process.toFrontend.drop result) (encoded format rest) ∧
      aPacket.contents = (packet.convert format.toBits).contents ∧
      (packet.convert format.toBits).NameEnds := by
  obtain ⟨handed, connection', result', hReceive', hHanded⟩ := hRefines.toFrontend.receive count
  simp only [hReceive, Except.ok.injEq, Prod.mk.injEq] at hReceive'
  obtain ⟨rfl, rfl, rfl⟩ := hReceive'
  rcases hHanded with ⟨hNone, -⟩ | ⟨encodedPacket, rest, hPackets, hSome, hExpects⟩
  · cases hNone
  · obtain ⟨packet, packets, hDrop, rfl, rfl⟩ := List.map_eq_cons_iff.mp hPackets
    obtain rfl := Option.some.inj hSome
    obtain ⟨-, hPacket, -⟩ := System.drop_eq_cons hDrop
    refine ⟨packet, packets, hDrop, ?_, hExpects, Connection.contents_image_send _, ?_⟩
    · rw [System.toFrontend, hRefines.backend.sent]
      show (process.manager.backend.sent.map _).drop _ = _
      rw [← List.map_drop, hDrop]
      rfl
    · have hSent := hRefines.names packet (List.mem_of_getElem? hPacket)
      cases packet <;> exact hSent

/-- Its numbers come out as floats. -/
theorem map_round (packet : MFiWPacket ℚ) :
    (packet.convert format.toBits).map format.ofBits = packet.convert format.round := by
  cases packet <;> rfl

/-- So the frontend handles the packet that was sent, with its numbers as floats. -/
theorem handleDataPacket_round {packet : MFiWPacket ℚ} {aPacket : MFiWDataPacket}
    (hContents : aPacket.contents = (packet.convert format.toBits).contents)
    (hName : (packet.convert format.toBits).NameEnds) (frontend : State) :
    frontend.handleDataPacket format.ofBits aPacket =
      frontend.handlePacket (packet.convert format.round) := by
  rw [State.handleDataPacket_eq format.ofBits hContents hName, map_round]

theorem Refines.frontendReads (hRefines : Refines format process system) (count : Nat) :
    ∃ process' system', process.step format (.frontendReads count) = some process' ∧
      run System.step system (shadow format process (.frontendReads count)) = some system' ∧
      Refines format process' system' ∧
      system'.backend.nextHandle = system.backend.nextHandle := by
  obtain ⟨handed, connection, result, hReceive, hHanded⟩ := hRefines.toFrontend.receive count
  cases handed with
  | none =>
      rcases hHanded with ⟨-, hExpects⟩ | ⟨encodedPacket, rest, -, hSome, -⟩
      · refine ⟨_, system, by simp only [step, hReceive]; rfl, ?_, ?_, rfl⟩
        · simp only [shadow, completes, hReceive]
          rfl
        · exact ⟨hRefines.inv, hRefines.current, hRefines.serves, hRefines.backend,
            hRefines.frontend, hRefines.names, hExpects, hRefines.toBackend⟩
      · cases hSome
  | some aPacket =>
      obtain ⟨packet, packets, hDrop, hNext, hExpects, hContents, hName⟩ :=
        hRefines.handed hReceive
      have hReceived := handleDataPacket_round hContents hName process.frontend
      obtain ⟨-, -, hRest⟩ := System.drop_eq_cons hDrop
      obtain ⟨system', hStep, hInv, hSame⟩ := hRefines.inv.frontendProcesses
      have hCurrent := hRefines.current.frontendProcesses hRefines.inv hStep
      have hShadow : run System.step system (shadow format process (.frontendReads count)) =
          some system' := by
        simp only [shadow, completes, hReceive]
        exact (run_singleton ..).trans hStep
      simp only [System.step, hNext, Option.bind_eq_bind] at hStep
      obtain ⟨quiet, hQuiet, hSystem⟩ := Option.bind_eq_some_iff.mp hStep
      obtain rfl := Option.some.inj hSystem
      rw [hRefines.frontend, State.handlePacket_quiet] at hQuiet
      obtain ⟨frontend, hFrontend, rfl⟩ := Option.map_eq_some_iff.mp hQuiet
      have hPrefix : process.frontend.sent <+: frontend.sent := by
        obtain ⟨handles, hAnnounces, -⟩ := (hNext ▸ hRefines.inv.inFlight).next
        obtain ⟨frontend', hStep', -, -, hSent⟩ := hRefines.inv.frontend.handlePacket hAnnounces
        rw [hRefines.frontend, State.handlePacket_quiet, hFrontend] at hStep'
        rw [← Option.some.inj hStep', hRefines.frontend] at hSent
        exact hSent
      refine ⟨_, _, by simp only [step, hReceive, hReceived, hFrontend]; rfl, hShadow, ?_, hSame⟩
      constructor
      · exact hInv
      · exact hCurrent
      · exact hRefines.serves
      · exact hRefines.backend
      · rfl
      · exact hRefines.names
      · show connection.Expects _ (encoded format (process.manager.backend.sent.drop _))
        rw [hRest]
        exact hExpects
      · exact hRefines.write_toBackend hPrefix

/-! ## The application -/

theorem Refines.appSetsPlayerIndex (hRefines : Refines format process system)
    (tweak : ControllerRef) (index : Int64)
    (hRoom : system.backend.nextHandle.toNat ≤ 2 ^ 32 - 2) :
    Refines format
      (process.withFrontend format (process.frontend.setPlayerIndex tweak index))
      { system with frontend := system.frontend.setPlayerIndex tweak index } := by
  obtain ⟨system', hStep, hInv, -⟩ := hRefines.inv.step (.appSetsPlayerIndex tweak index) hRoom
  obtain rfl := Option.some.inj hStep
  have hQuiet : system.frontend.setPlayerIndex tweak index =
      (process.frontend.setPlayerIndex tweak index).quiet := by
    rw [hRefines.frontend, State.setPlayerIndex_quiet]
  have hPrefix : process.frontend.sent <+: (process.frontend.setPlayerIndex tweak index).sent := by
    obtain ⟨-, -, hSent⟩ := hRefines.inv.frontend.setPlayerIndex tweak index
    rw [hQuiet, hRefines.frontend] at hSent
    exact hSent
  exact ⟨hInv, hRefines.current.setPlayerIndex tweak index, hRefines.serves, hRefines.backend,
    hQuiet, hRefines.names, hRefines.toFrontend, hRefines.write_toBackend hPrefix⟩

/-- A change that cannot be seen without handlers. -/
theorem Refines.appSetsHandler (hRefines : Refines format process system) {frontend : State}
    (hQuiet : frontend.quiet = process.frontend.quiet) :
    Refines format { process with frontend := frontend } system := by
  have hSent : frontend.quiet.sent = process.frontend.quiet.sent := by rw [hQuiet]
  replace hSent : frontend.sent = process.frontend.sent := hSent
  refine ⟨hRefines.inv, hRefines.current, hRefines.serves, hRefines.backend,
    hRefines.frontend.trans hQuiet.symm, hRefines.names, hRefines.toFrontend, ?_⟩
  show process.backendConnection.Expects _ (encoded format (frontend.sent.drop _))
  rw [hSent]
  exact hRefines.toBackend

/-! ## Runs -/

/-- Every event completes and is its shadow. -/
theorem Refines.step (hRefines : Refines format process system) (event : Event)
    (hRoom : system.backend.nextHandle.toNat + event.attaches ≤ 2 ^ 32 - 2) :
    ∃ process' system', process.step format event = some process' ∧
      run System.step system (shadow format process event) = some system' ∧
      Refines format process' system' ∧
      system'.backend.nextHandle.toNat = system.backend.nextHandle.toNat + event.attaches := by
  cases event with
  | deviceAttached platform device =>
      obtain ⟨process', system', hStep, hSystem, hRefines', hNext⟩ :=
        hRefines.deviceAttached platform device fun hRecognised => by
          rw [Event.attaches, if_pos hRecognised] at hRoom
          omega
      exact ⟨process', system', hStep, (run_singleton ..).trans hSystem, hRefines', hNext⟩
  | deviceRemoved address =>
      refine ⟨_, _, rfl, run_singleton .., hRefines.deviceRemoved address, ?_⟩
      exact congrArg UInt32.toNat (Backend.deviceRemoved_nextHandle address _)
  | deviceReport address report =>
      obtain ⟨process', system', hStep, hSystem, hRefines', hNext⟩ :=
        hRefines.deviceReport address report
      exact ⟨process', system', hStep, hSystem, hRefines', congrArg UInt32.toNat hNext⟩
  | backendReads count =>
      obtain ⟨process', system', hStep, hSystem, hRefines', hNext⟩ := hRefines.backendReads count
      exact ⟨process', system', hStep, hSystem, hRefines', congrArg UInt32.toNat hNext⟩
  | frontendReads count =>
      obtain ⟨process', system', hStep, hSystem, hRefines', hNext⟩ := hRefines.frontendReads count
      exact ⟨process', system', hStep, hSystem, hRefines', congrArg UInt32.toNat hNext⟩
  | appSetsPlayerIndex tweak index =>
      exact ⟨_, _, rfl, run_singleton .., hRefines.appSetsPlayerIndex tweak index hRoom, rfl⟩
  | appSetsHandler tweak element part isSet =>
      exact ⟨_, system, rfl, rfl, hRefines.appSetsHandler
        (State.setHandler_quiet tweak element part isSet _), rfl⟩
  | appSetsPausedHandler tweak isSet =>
      exact ⟨_, system, rfl, rfl, hRefines.appSetsHandler
        (State.setPausedHandler_quiet tweak isSet _), rfl⟩

/-- Every run of the program with fewer than 2^32 - 2 recognised devices completes, and
is its shadow. -/
theorem refines_run (format : FloatFormat) (events : List Event)
    (hFew : (events.map Event.attaches).sum < 2 ^ 32 - 2) :
    ∃ process system, run (Process.step format) initial events = some process ∧
      run System.step System.initial
        (shadows (Process.step format) (shadow format) initial events) = some system ∧
      Refines format process system := by
  have hBudget : System.initial.backend.nextHandle.toNat + (events.map Event.attaches).sum ≤
      2 ^ 32 - 2 := by
    rw [show System.initial.backend.nextHandle.toNat = 1 from rfl]
    omega
  obtain ⟨process, system, hRun, hShadow, hRefines, -⟩ := run_simulation_within
    (fun system => system.backend.nextHandle.toNat) Event.attaches (2 ^ 32 - 2)
    (fun process system event hRefines hRoom => hRefines.step event hRoom) refines_initial hBudget
  exact ⟨process, system, hRun, hShadow, hRefines⟩

end Process
end MFiWrapper
