import MFiWrapper.Backend.ManagedPads
import MFiWrapper.Backend.PlayerLights

/-!
# What is asked of the devices

Every driver has a small vocabulary: whatever a device reports and whatever player it is
given, nothing else is ever asked of it.  No request turns on a motor, and in the memory of
a Wii Remote nothing but two registers of the extension is written.
-/

namespace MFiWrapper

open Library HIDPad Wiimote

/-! ## Vocabularies -/

/-- The LED bytes of the PlayStation 3 pad. -/
def Playstation3.ledBytes : List UInt8 := [0, 2, 4, 8, 16]

/-- The LED bytes of the Wii Remote; the lower four bits would control the motor. -/
def Wiimote.ledBytes : List UInt8 := [0x00, 0x10, 0x20, 0x40, 0x80]

namespace Wiimote

/-- What is asked of a Wii Remote besides its LEDs. -/
def commands : List DeviceRequest :=
  -- the status, and the two report types
  [.setReport false 0x15 [0x15, 0x00],
    .setReport false 0x12 [0x12, 0x00, 0x30],
    .setReport false 0x12 [0x12, 0x00, 0x34],
    -- the extension is initialised, identified and calibrated
    .setReport false 0x16
      ([0x16, 0x04, 0xA4, 0x00, 0xF0, 0x01, 0x55] ++ List.replicate 15 0),
    .setReport false 0x16
      ([0x16, 0x04, 0xA4, 0x00, 0xFB, 0x01, 0x00] ++ List.replicate 15 0),
    .setReport false 0x17 [0x17, 0x04, 0xA4, 0x00, 0xFC, 0x00, 0x04],
    .setReport false 0x17 [0x17, 0x04, 0xA4, 0x00, 0x20, 0x00, 0x10]]

/-- What a turn of the handshake calls, whether it is the last one or not. -/
def Turn.calls : Turn → List DriverCall
  | .returns _ _ calls | .continues _ calls => calls

end Wiimote

namespace HIDPad

/-- What may be asked of a device of a class. -/
inductive Kind.Vocabulary : Kind → DeviceRequest → Prop
  | playstation3Start : Vocabulary .playstation3 (.setReport true 0 [0xF4, 0x42, 0x03, 0x00, 0x00])
  | playstation3Leds {ledByte : UInt8} (hLed : ledByte ∈ Playstation3.ledBytes) :
      Vocabulary .playstation3
        (.setReport false 0x01 ((Playstation3.reportBuffer.set 11 ledByte).drop 1))
  | dualShock4Start : Vocabulary .dualShock4 (.getReport true 0x02 36)
  /-- Any colour: an index that is no player's sends what is in the buffer. -/
  | dualShock4Colour (colour : List UInt8) :
      Vocabulary .dualShock4 (.setReport false 0x11
        ((DualShock4.storeColour colour DualShock4.reportBuffer).drop 1))
  | wiiMoteCommand {request : DeviceRequest} (hCommand : request ∈ Wiimote.commands) :
      Vocabulary .wiiMote request
  | wiiMoteLeds {leds : UInt8} (hLeds : leds ∈ Wiimote.ledBytes) :
      Vocabulary .wiiMote (.setReport false 0x11 [0x11, leds])
  | wiiUProStart : Vocabulary .wiiUPro (.setReport false 0x12 [0x15, 0x00, 0x00])
  | wiiUProReportType : Vocabulary .wiiUPro (.setReport false 0x12 [0x12, 0x00, 0x34])
  | wiiUProLeds (player : Fin 4) :
      Vocabulary .wiiUPro (.setReport false 0x11 [0x11, 1 <<< (4 + UInt8.ofNat player)])

/-- What the calls of a driver ask of its device is in the vocabulary, and a class without
a pause button never reports one. -/
structure Kind.Allows (kind : Kind) (calls : List DriverCall) : Prop where
  requests : ∀ request ∈ calls.filterMap DriverCall.request, kind.Vocabulary request
  pause : .sendPausePressed ∈ calls → kind ≠ .wiiMote

variable {kind : Kind} {first second calls : List DriverCall}

theorem Kind.allows_nil : kind.Allows [] :=
  ⟨fun _ hMem => (by cases hMem), fun hMem => by cases hMem⟩

theorem Kind.Allows.append (hFirst : kind.Allows first) (hSecond : kind.Allows second) :
    kind.Allows (first ++ second) where
  requests := by
    rw [List.filterMap_append]
    exact List.forall_mem_append.mpr ⟨hFirst.requests, hSecond.requests⟩
  pause hMem := (List.mem_append.mp hMem).elim hFirst.pause hSecond.pause

theorem Kind.allows_setReport {aFeature : Bool} {aID : UInt8} {aData : List UInt8}
    (hWord : kind.Vocabulary (.setReport aFeature aID (aData.drop 1))) :
    kind.Allows [.setReport aFeature aID aData] :=
  ⟨List.forall_mem_singleton.mpr hWord, fun hMem => by simp at hMem⟩

theorem Kind.allows_sendControllerState (aData : MFiWInputStatePacket ℚ) :
    kind.Allows [.sendControllerState aData] :=
  ⟨fun _ hMem => (by cases hMem), fun hMem => by simp at hMem⟩

theorem Kind.allows_attachController : kind.Allows [.attachController] :=
  ⟨fun _ hMem => (by cases hMem), fun hMem => by simp at hMem⟩

/-- A pause is reported if the button is pressed and was not held. -/
theorem Kind.allows_input (hKind : kind ≠ .wiiMote) (held down : Bool)
    (aData : MFiWInputStatePacket ℚ) :
    kind.Allows ((if !held && down then [.sendPausePressed] else []) ++
      [.sendControllerState aData]) := by
  refine .append ?_ (Kind.allows_sendControllerState aData)
  split_ifs
  · exact ⟨fun _ hMem => (by cases hMem), fun _ => hKind⟩
  · exact Kind.allows_nil

/-! ## The Wii Remote -/

variable {wm wm' : WiimoteT} {event : UInt8} {data : Option Bytes}

theorem wiimoteSend_allowed {reportType : UInt8} {msg : List UInt8}
    (hWord : Kind.wiiMote.Vocabulary (.setReport false reportType (reportType :: msg)))
    (hSend : wiimoteSend reportType msg = some calls) : Kind.wiiMote.Allows calls := by
  unfold wiimoteSend at hSend
  split_ifs at hSend
  obtain rfl := Option.some.inj hSend
  exact Kind.allows_setReport hWord

theorem wiimoteStatus_allowed (hStatus : wiimoteStatus wm = some calls) :
    Kind.wiiMote.Allows calls := by
  unfold wiimoteStatus at hStatus
  split_ifs at hStatus
  · obtain rfl := Option.some.inj hStatus
    exact Kind.allows_nil
  · exact wiimoteSend_allowed (.wiiMoteCommand (by decide)) hStatus

theorem wiimoteDataReport_allowed {type : UInt8} (hType : type = 0x30 ∨ type = 0x34)
    (hReport : wiimoteDataReport wm type = some calls) : Kind.wiiMote.Allows calls := by
  unfold wiimoteDataReport at hReport
  split_ifs at hReport
  · obtain rfl := Option.some.inj hReport
    exact Kind.allows_nil
  · refine wiimoteSend_allowed (.wiiMoteCommand ?_) hReport
    rcases hType with rfl | rfl <;> decide

theorem wiimoteSetLeds_allowed {leds : UInt8} (hLeds : leds &&& 0xF0 ∈ Wiimote.ledBytes)
    (hSet : wiimoteSetLeds wm leds = some (wm', calls)) : Kind.wiiMote.Allows calls := by
  unfold wiimoteSetLeds at hSet
  split_ifs at hSet
  · cases hSet
    exact Kind.allows_nil
  · obtain ⟨sent, hSend, hReturn⟩ := Option.bind_eq_some_iff.mp hSet
    cases hReturn
    exact wiimoteSend_allowed (.wiiMoteLeds hLeds) hSend

theorem setPlayerLeds_allowed {index : Int32}
    (hSet : setPlayerLeds wm index = some (wm', calls)) : Kind.wiiMote.Allows calls := by
  unfold setPlayerLeds at hSet
  split_ifs at hSet
  · exact wiimoteSetLeds_allowed (by decide) hSet
  · exact wiimoteSetLeds_allowed (by decide) hSet
  · exact wiimoteSetLeds_allowed (by decide) hSet
  · exact wiimoteSetLeds_allowed (by decide) hSet
  · cases hSet
    exact Kind.allows_nil

theorem wiimoteReadData_allowed {addr : UInt32} {len : UInt16}
    (hCommand : .setReport false 0x17 (0x17 :: ((le32 addr).reverse ++
      (writeLE 2 len.toNat).reverse)) ∈ Wiimote.commands)
    (hRead : wiimoteReadData wm addr len = some calls) : Kind.wiiMote.Allows calls := by
  unfold wiimoteReadData at hRead
  split_ifs at hRead
  · obtain rfl := Option.some.inj hRead
    exact Kind.allows_nil
  · obtain rfl := Option.some.inj hRead
    exact Kind.allows_nil
  · exact wiimoteSend_allowed (.wiiMoteCommand hCommand) hRead

theorem wiimoteWriteData_allowed {addr : UInt32} {byte : UInt8}
    (hCommand : .setReport false 0x16 (0x16 :: ((le32 addr).reverse ++ [0x01] ++ [byte] ++
      List.replicate 15 0)) ∈ Wiimote.commands)
    (hWrite : wiimoteWriteData wm addr [byte] = some calls) : Kind.wiiMote.Allows calls := by
  by_cases hConnected : wm.isSet .connected = true
  · rw [wiimoteWriteData, if_neg (by simp [hConnected]), if_neg (by simp),
      if_pos (by simp)] at hWrite
    exact wiimoteSend_allowed (.wiiMoteCommand hCommand) hWrite
  · rw [wiimoteWriteData, if_pos (by simp [hConnected])] at hWrite
    obtain rfl := Option.some.inj hWrite
    exact Kind.allows_nil

variable {turn : Turn}

theorem handshakeTurnAttachment_allowed {attachment : Bool}
    (hTurn : handshakeTurnAttachment attachment wm = some turn) :
    Kind.wiiMote.Allows turn.calls := by
  unfold handshakeTurnAttachment at hTurn
  split at hTurn
  · simp only [Option.bind_eq_bind, Option.bind_eq_some_iff] at hTurn
    obtain ⟨first, hFirst, second, hSecond, third, hThird, hReturn⟩ := hTurn
    cases hReturn
    exact ((wiimoteWriteData_allowed (by decide) hFirst).append
      (wiimoteWriteData_allowed (by decide) hSecond)).append
      (wiimoteReadData_allowed (by decide) hThird)
  · -- nothing is called when an attachment was removed
    dsimp only at hTurn
    by_cases hAgain : (!attachment && (if (!attachment && wm.isSet .exp) = true then
        unplugged wm else wm).isSet .handshake) = true
    · obtain rfl := Option.some.inj ((if_pos hAgain).symm.trans hTurn)
      exact Kind.allows_nil
    · obtain rfl := Option.some.inj ((if_neg hAgain).symm.trans hTurn)
      exact Kind.allows_nil

theorem handshakeTurn_allowed (hTurn : handshakeTurn event data wm = some turn) :
    Kind.wiiMote.Allows turn.calls := by
  unfold handshakeTurn at hTurn
  split at hTurn
  · -- the LEDs are turned off and the status is asked for
    simp only [Option.bind_eq_bind, Option.bind_eq_some_iff] at hTurn
    obtain ⟨⟨lit, leds⟩, hLeds, status, hStatus, hReturn⟩ := hTurn
    cases hReturn
    exact (wiimoteSetLeds_allowed (by decide) hLeds).append (wiimoteStatus_allowed hStatus)
  · unfold handshakeTurnStatus at hTurn
    split_ifs at hTurn
    · cases hTurn
      exact Kind.allows_nil
    · obtain ⟨bytes, -, hTurn⟩ := Option.bind_eq_some_iff.mp hTurn
      exact handshakeTurnAttachment_allowed hTurn
  · obtain ⟨made, hReport, hReturn⟩ := Option.bind_eq_some_iff.mp hTurn
    cases hReturn
    exact wiimoteDataReport_allowed (.inl rfl) hReport
  · obtain ⟨made, hReport, hReturn⟩ := Option.bind_eq_some_iff.mp hTurn
    cases hReturn
    exact wiimoteDataReport_allowed (.inr rfl) hReport
  · unfold handshakeTurnIdentify at hTurn
    split_ifs at hTurn
    · cases hTurn
      exact Kind.allows_nil
    · obtain ⟨bytes, -, hTurn⟩ := Option.bind_eq_some_iff.mp hTurn
      split_ifs at hTurn
      · cases hTurn
        exact Kind.allows_nil
      · obtain ⟨made, hRead, hReturn⟩ := Option.bind_eq_some_iff.mp hTurn
        cases hReturn
        exact wiimoteReadData_allowed (by decide) hRead
  · split_ifs at hTurn <;> cases hTurn <;> exact Kind.allows_nil
  · obtain ⟨⟨lit, made⟩, hLeds, hReturn⟩ := Option.bind_eq_some_iff.mp hTurn
    cases hReturn
    exact setPlayerLeds_allowed hLeds
  · cases hTurn
    exact Kind.allows_nil

/-- However long the handshake goes on. -/
theorem handshakeLoop_allowed {value : Int} {turns : Nat}
    (hLoop : handshakeLoop event data turns wm = some (value, wm', calls)) :
    Kind.wiiMote.Allows calls := by
  induction turns generalizing wm calls with
  | zero => cases hLoop
  | succ turns ih =>
      obtain ⟨turn, hTurn, hRest⟩ := Option.bind_eq_some_iff.mp hLoop
      have hAllowed := handshakeTurn_allowed hTurn
      cases turn with
      | returns value' wm₁ made =>
          cases hRest
          exact hAllowed
      | continues wm₁ made =>
          obtain ⟨⟨value', wm₂, made'⟩, hNext, hReturn⟩ := Option.bind_eq_some_iff.mp hRest
          cases hReturn
          exact hAllowed.append (ih hNext)

theorem wiiMote_handleReport_allowed {aData : Bytes}
    (hReport : WiiMote.handleReport aData wm = some (wm', calls)) :
    Kind.wiiMote.Allows calls := by
  unfold WiiMote.handleReport at hReport
  dsimp only at hReport
  split_ifs at hReport
  · cases hReport
    exact Kind.allows_nil
  · obtain ⟨⟨value, device, made⟩, hHandshake, hReturn⟩ := Option.bind_eq_some_iff.mp hReport
    cases hReturn
    exact handshakeLoop_allowed hHandshake
  · obtain ⟨⟨value, device, made⟩, hHandshake, hReturn⟩ := Option.bind_eq_some_iff.mp hReport
    cases hReturn
    exact handshakeLoop_allowed hHandshake
  · obtain ⟨device, -, hReturn⟩ := Option.bind_eq_some_iff.mp hReport
    cases hReturn
    exact Kind.allows_nil
  · cases hReport
    exact Kind.allows_nil

/-! ## All classes -/

/-- What a driver has stored that it will send. -/
def Driver.Stores : Kind → Driver → Prop
  | .playstation3, .playstation3 pad => pad.ledByte ∈ Playstation3.ledBytes
  | .dualShock4, .dualShock4 _ | .wiiMote, .wiiMote _ | .wiiUPro, .wiiUPro _ => True
  | _, _ => False

variable {statics statics' : Statics} {driver driver' : Driver} {c : PadCall}

theorem construct_allowed {platform : Platform}
    (hConstruct : kind.construct platform = some (driver, calls)) :
    driver.Stores kind ∧ kind.Allows calls := by
  cases kind with
  | playstation3 =>
      cases hConstruct
      refine ⟨List.mem_cons_self, ?_⟩
      refine Kind.Allows.append ?_ Kind.allows_attachController
      split_ifs
      · exact Kind.allows_setReport .playstation3Start
      · exact Kind.allows_nil
  | dualShock4 =>
      cases hConstruct
      have hStart : Kind.dualShock4.Allows [.getReport true 0x2 0x25] :=
        ⟨List.forall_mem_singleton.mpr .dualShock4Start, fun hMem => by simp at hMem⟩
      exact ⟨trivial, hStart.append Kind.allows_attachController⟩
  | wiiMote =>
      obtain ⟨⟨device, made⟩, hMade, hResult⟩ :
          ∃ made, WiiMote.construct = some made ∧ (Driver.wiiMote made.1, made.2) =
            (driver, calls) :=
        Option.map_eq_some_iff.mp hConstruct
      cases hResult
      rw [WiiMote.construct] at hMade
      obtain ⟨⟨value, device', made'⟩, hHandshake, hReturn⟩ := Option.bind_eq_some_iff.mp hMade
      cases hReturn
      exact ⟨trivial, (handshakeLoop_allowed hHandshake).append Kind.allows_attachController⟩
  | wiiUPro =>
      cases hConstruct
      exact ⟨trivial, Kind.allows_attachController.append (Kind.allows_setReport .wiiUProStart)⟩

/-- A player index leaves one of five bytes for the LEDs. -/
theorem playstation3_setPlayerIndex_stores (pad : Playstation3) (aIndex : Int32) :
    (pad.setPlayerIndex aIndex).ledByte ∈ Playstation3.ledBytes := by
  have hPlayers : ∀ p : Fin 4, 1 <<< (UInt8.ofNat p + 1) ∈ Playstation3.ledBytes := by decide
  have hLed := playstation3_ledByte pad aIndex
  cases hPlayer : player aIndex with
  | none =>
      rw [hPlayer] at hLed
      exact List.singleton_inj.mp hLed ▸ List.mem_cons_self
  | some p =>
      rw [hPlayer] at hLed
      exact List.singleton_inj.mp hLed ▸ hPlayers p

theorem playstation3_call_allowed {pad : Playstation3} (hInv : statics.Inv)
    (hStores : pad.ledByte ∈ Playstation3.ledBytes)
    (hCall : (Driver.playstation3 pad).call statics c = some (statics', driver', calls)) :
    driver'.Stores .playstation3 ∧ Kind.playstation3.Allows calls := by
  cases c with
  | setPlayerIndex aIndex =>
      cases hCall
      exact ⟨playstation3_setPlayerIndex_stores pad aIndex, Kind.allows_nil⟩
  | handlePacket aData aSize =>
      rw [Driver.call, Playstation3.handlePacket_eq] at hCall
      cases hCall
      refine ⟨hStores, .append ?_ (Kind.allows_input (by decide) _ _ _)⟩
      split_ifs
      · obtain ⟨ledByte, hBuffer⟩ := hInv.playstation3
        refine Kind.allows_setReport ?_
        rw [Playstation3.setReport, hBuffer, List.set_set]
        exact .playstation3Leds hStores
      · exact Kind.allows_nil

theorem dualShock4_call_allowed {pad : DualShock4} (hInv : statics.Inv)
    (hCall : (Driver.dualShock4 pad).call statics c = some (statics', driver', calls)) :
    driver'.Stores .dualShock4 ∧ Kind.dualShock4.Allows calls := by
  cases c with
  | setPlayerIndex aIndex =>
      cases hCall
      exact ⟨trivial, Kind.allows_nil⟩
  | handlePacket aData aSize =>
      rw [Driver.call, DualShock4.handlePacket_eq] at hCall
      cases hCall
      refine ⟨trivial, .append ?_ ?_⟩
      · split_ifs
        · refine Kind.allows_setReport ?_
          rw [dualShock4_setReport pad hInv]
          split_ifs
          · exact .dualShock4Colour _
          · obtain ⟨colour, hBuffer⟩ := hInv.dualShock4
            exact hBuffer ▸ .dualShock4Colour colour
        · exact Kind.allows_nil
      · unfold DualShock4.answer
        by_cases hAccepts : DualShock4.Accepts aData aSize
        · rw [if_pos hAccepts]
          exact Kind.allows_input (by decide) _ _ _
        · rw [if_neg hAccepts]
          exact Kind.allows_nil

theorem wiiMote_call_allowed {device : WiimoteT}
    (hCall : (Driver.wiiMote device).call statics c = some (statics', driver', calls)) :
    driver'.Stores .wiiMote ∧ Kind.wiiMote.Allows calls := by
  cases c with
  | setPlayerIndex aIndex =>
      obtain ⟨⟨device', made⟩, hSet, hResult⟩ := Option.map_eq_some_iff.mp hCall
      cases hResult
      exact ⟨trivial, setPlayerLeds_allowed hSet⟩
  | handlePacket aData aSize =>
      obtain ⟨⟨device', made⟩, hHandle, hResult⟩ := Option.map_eq_some_iff.mp hCall
      cases hResult
      obtain ⟨⟨device₁, made₁⟩, hReport, hReturn⟩ := Option.bind_eq_some_iff.mp hHandle
      cases hReturn
      exact ⟨trivial, (wiiMote_handleReport_allowed hReport).append
        (Kind.allows_sendControllerState _)⟩

theorem wiiUPro_setReport_allowed (pad : WiiUPro) : Kind.wiiUPro.Allows pad.setReport := by
  have hReportType : Kind.wiiUPro.Allows [.setReport false 0x12 [0xA2, 0x12, 0x00, 0x34]] :=
    Kind.allows_setReport .wiiUProReportType
  unfold WiiUPro.setReport
  split_ifs with hPlayer
  · obtain ⟨p, -, hIndex⟩ := storedPlayer_of_lt hPlayer
    rw [hIndex]
    exact hReportType.append (Kind.allows_setReport (.wiiUProLeds p))
  · exact hReportType

theorem wiiUPro_call_allowed {pad : WiiUPro}
    (hCall : (Driver.wiiUPro pad).call statics c = some (statics', driver', calls)) :
    driver'.Stores .wiiUPro ∧ Kind.wiiUPro.Allows calls := by
  cases c with
  | setPlayerIndex aIndex =>
      cases hCall
      exact ⟨trivial, Kind.allows_nil⟩
  | handlePacket aData aSize =>
      obtain ⟨⟨pad', made⟩, hHandle, hResult⟩ := Option.map_eq_some_iff.mp hCall
      cases hResult
      have hDue : Kind.wiiUPro.Allows (if pad.needSetReport then pad.setReport else []) := by
        split_ifs
        · exact wiiUPro_setReport_allowed pad
        · exact Kind.allows_nil
      refine ⟨trivial, ?_⟩
      by_cases hAccepts : WiiUPro.Accepts aData aSize
      · simp only [WiiUPro.handlePacket, if_neg (not_not.mpr hAccepts)] at hHandle
        obtain ⟨⟨pad₁, input⟩, hInput, hReturn⟩ := Option.bind_eq_some_iff.mp hHandle
        cases hReturn
        obtain ⟨state, -, hSend⟩ := Option.bind_eq_some_iff.mp hInput
        cases hSend
        exact hDue.append (Kind.allows_input (by decide) _ _ _)
      · rw [WiiUPro.handlePacket_rejected pad hAccepts] at hHandle
        cases hHandle
        exact hDue

/-- A call asks for nothing outside of the vocabulary, whatever other pads have left in the
static buffers. -/
theorem call_allowed (hInv : statics.Inv) (hStores : driver.Stores kind)
    (hCall : driver.call statics c = some (statics', driver', calls)) :
    driver'.Stores kind ∧ kind.Allows calls := by
  cases driver with
  | playstation3 pad =>
      cases kind with
      | playstation3 => exact playstation3_call_allowed hInv hStores hCall
      | dualShock4 | wiiMote | wiiUPro => exact hStores.elim
  | dualShock4 pad =>
      cases kind with
      | dualShock4 => exact dualShock4_call_allowed hInv hCall
      | playstation3 | wiiMote | wiiUPro => exact hStores.elim
  | wiiMote device =>
      cases kind with
      | wiiMote => exact wiiMote_call_allowed hCall
      | playstation3 | dualShock4 | wiiUPro => exact hStores.elim
  | wiiUPro pad =>
      cases kind with
      | wiiUPro => exact wiiUPro_call_allowed hCall
      | playstation3 | dualShock4 | wiiMote => exact hStores.elim
  | dummy => cases kind <;> exact hStores.elim

/-! ## Runs of a pad -/

variable {pad pad' : Pad}

/-- What a pad of a class keeps. -/
structure Pad.Speaks (pad : Pad) (kind : Kind) : Prop where
  stores : pad.driver.Stores kind
  allows : kind.Allows pad.calls

theorem Pad.speaks_connected (platform : Platform) (kind : Kind) :
    (kind.connected platform).Speaks kind := by
  obtain ⟨driver, calls, hConstruct, -⟩ := kind.construct_sound platform
  have hConnected : kind.connected platform = ⟨driver, calls⟩ := by
    simp [Kind.connected, hConstruct]
  obtain ⟨hStores, hAllows⟩ := construct_allowed hConstruct
  rw [hConnected]
  exact ⟨hStores, hAllows⟩

theorem Pad.Speaks.receive {c : Statics × PadCall} (hSpeaks : pad.Speaks kind)
    (hInv : c.1.Inv) (hReceive : pad.receive c = some pad') : pad'.Speaks kind := by
  obtain ⟨⟨statics, next⟩, hTurn, hNext⟩ := Option.map_eq_some_iff.mp hReceive
  obtain ⟨⟨statics', driver, calls⟩, hCall, hResult⟩ := Option.map_eq_some_iff.mp hTurn
  cases hResult
  obtain rfl : ⟨driver, pad.calls ++ calls⟩ = pad' := hNext
  obtain ⟨hStores, hAllows⟩ := call_allowed hInv hSpeaks.stores hCall
  exact ⟨hStores, hSpeaks.allows.append hAllows⟩

theorem Pad.Speaks.run {received : List (Statics × PadCall)} (hSpeaks : pad.Speaks kind)
    (hCalls : ∀ c ∈ received, c.1.Inv) (hRun : Library.run Pad.receive pad received = some pad') :
    pad'.Speaks kind := by
  induction received generalizing pad with
  | nil =>
      obtain rfl := Option.some.inj hRun
      exact hSpeaks
  | cons c received ih =>
      obtain ⟨hInv, hCalls⟩ := List.forall_mem_cons.mp hCalls
      rw [run_cons] at hRun
      obtain ⟨next, hReceive, hRest⟩ := Option.bind_eq_some_iff.mp hRun
      exact ih (hSpeaks.receive hInv hReceive) hCalls hRest

end HIDPad

namespace HIDManager

open HIDPad

variable {manager : HIDManager} {interface : Interface} {platform : Platform} {kind : Kind}
  {pad : Pad}

/-- What the manager has asked of the device of a pad is in the vocabulary of its class. -/
theorem Serves.speaks (hServes : manager.Serves)
    (hServed : manager.Served interface platform kind pad) : pad.Speaks kind :=
  (Pad.speaks_connected platform kind).run (hServes.own_found _) hServed.calls

end HIDManager
end MFiWrapper
