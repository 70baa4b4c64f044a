import MFiWrapper.Backend.AutoCalibration
import MFiWrapper.Backend.WiimoteHandshake
import MFiWrapper.Library.Runs

/-!
# `HIDPad_WiiMote.cpp`: the Wii Remote driver

The driver feeds reports to the handshake and to the classic controller, and
sends an input state after every report.  Its runs are observed through a
trace: besides the device the trace keeps all calls made so far, the attachment
bit of the most recent status report and the reports of the current calibration
period of the classic controller.
-/

namespace MFiWrapper
namespace WiiMote

open Library HIDPad Wiimote

/-! ## The driver -/

/-- `B(X)`, as it is used in `ProcessButtons`. -/
def pressed (btns mask : UInt16) : ℚ := if btns &&& mask ≠ 0 then 1 else 0

/-- A direction pad coordinate from the buttons of its two ends. -/
def direction (btns negative positive : UInt16) : ℚ :=
  if btns &&& negative ≠ 0 then -1 else if btns &&& positive ≠ 0 then 1 else 0

/-- `ProcessButtons`: the packet it sends. -/
def processButtons (device : WiimoteT) : MFiWInputStatePacket ℚ :=
  match device.exp.type with
  | .none =>
      let btns := device.btns
      { MFiWInputStatePacket.zero with
        a := pressed btns 0x0002
        b := pressed btns 0x0001
        x := pressed btns 0x0008
        y := pressed btns 0x0004
        leftShoulder := pressed btns 0x0010
        rightShoulder := pressed btns 0x1000
        -- the remote is held sideways
        dPadX := direction btns 0x0800 0x0400
        dPadY := direction btns 0x0200 0x0100 }
  | .classic =>
      let btns := device.exp.classic.btns
      { MFiWInputStatePacket.zero with
        a := pressed btns 0x0040
        b := pressed btns 0x0010
        x := pressed btns 0x0020
        y := pressed btns 0x0008
        leftShoulder := pressed btns 0x2000
        rightShoulder := pressed btns 0x0200
        leftTrigger := pressed btns 0x0080
        rightTrigger := pressed btns 0x0004
        select := pressed btns 0x1000
        start := pressed btns 0x0400
        dPadX := direction btns 0x0002 0x8000
        dPadY := direction btns 0x0001 0x4000
        leftStickX := device.exp.classic.ljs.x.value
        leftStickY := device.exp.classic.ljs.y.value
        rightStickX := device.exp.classic.rjs.x.value
        rightStickY := device.exp.classic.rjs.y.value }

def getVendorName : String := "Wii Remote"

/-- `WiiMote::WiiMote`.  The event -1 is the byte 255, and the data are null. -/
def construct : Option (WiimoteT × List DriverCall) := do
  let device := { WiimoteT.zero with unid := -1, state := StateFlag.connected.mask }
  let (_, device, calls) ← wiimoteHandshake device 255 none
  return (device, calls ++ [.attachController])

/-- `WiiMote::SetPlayerIndex`. -/
def setPlayerIndex (aIndex : Int32) (device : WiimoteT) : Option (WiimoteT × List DriverCall) :=
  setPlayerLeds { device with unid := aIndex } aIndex

/-- The `switch` of `WiiMote::HandlePacket`, by the report id in `aData[1]`. -/
def handleReport (aData : Bytes) (device : WiimoteT) : Option (WiimoteT × List DriverCall) :=
  let msg := aData.drop 2
  if aData 1 = 0x30 then
    some (wiimotePressedButtons device msg, [])
  else if aData 1 = 0x21 then do
    let device := wiimotePressedButtons device msg
    let (_, device, calls) ← wiimoteHandshake device 0x21 (some (msg.drop 5))
    return (device, calls)
  else if aData 1 = 0x20 then do
    let device := wiimotePressedButtons device msg
    let (_, device, calls) ← wiimoteHandshake device 0x20 (some msg)
    return (device, calls)
  else if aData 1 = 0x34 then do
    let device := wiimotePressedButtons device msg
    let device ← wiimoteHandleExpansion device (msg.drop 2)
    return (device, [])
  else
    some (device, [])

/-- `WiiMote::HandlePacket`; the size of the report is not looked at. -/
def handlePacket (aData : Bytes) (device : WiimoteT) : Option (WiimoteT × List DriverCall) := do
  let (device, calls) ← handleReport aData device
  return (device, calls ++ [.sendControllerState (processButtons device)])

/-! ## Runs -/

inductive Event
  | handlePacket (aData : Bytes)
  | setPlayerIndex (aIndex : Int32)

/-- A run as it is observed. -/
structure Trace where
  device : WiimoteT
  /-- All calls made since construction. -/
  calls : List DriverCall
  /-- The attachment bit of the most recent status report. -/
  attachment : Option Bool
  /-- The reports accepted since the classic controller was last initialised. -/
  period : List AcceptedReport

/-- The attachment bit in a status report. -/
def attachmentBit (aData : Bytes) : Bool := aData 4 &&& 0x02 == 0x02

/-- The raw stick positions in an extension report. -/
def rawStick (aData : Bytes) : StickAxis → Int
  | .leftX => rawLeftX (aData.drop 4)
  | .leftY => rawLeftY (aData.drop 4)
  | .rightX => rawRightX (aData.drop 4)
  | .rightY => rawRightY (aData.drop 4)

/-- The report is the reply that initialises the classic controller. -/
def Initialises (device : WiimoteT) (aData : Bytes) : Prop :=
  aData 1 = 0x21 ∧ device.handshakeState = 5

/-- The report is an extension report for the classic controller. -/
def Accepts (device : WiimoteT) (aData : Bytes) : Prop :=
  aData 1 = 0x34 ∧ device.exp.type = .classic

instance (device : WiimoteT) (aData : Bytes) : Decidable (Initialises device aData) :=
  inferInstanceAs (Decidable (_ ∧ _))

instance (device : WiimoteT) (aData : Bytes) : Decidable (Accepts device aData) :=
  inferInstanceAs (Decidable (_ ∧ _))

/-- The period after a report that was answered by `calls`. -/
def nextPeriod (device : WiimoteT) (aData : Bytes) (calls : List DriverCall)
    (period : List AcceptedReport) : List AcceptedReport :=
  if Initialises device aData then []
  else if Accepts device aData then
    period ++ [⟨rawStick aData, calls.filterMap DriverCall.sentState⟩]
  else period

def Trace.step (trace : Trace) : Event → Option Trace
  | .handlePacket aData => do
      let (device, calls) ← WiiMote.handlePacket aData trace.device
      return {
        device := device
        calls := trace.calls ++ calls
        attachment := if aData 1 = 0x20 then some (attachmentBit aData) else trace.attachment
        period := nextPeriod trace.device aData calls trace.period }
  | .setPlayerIndex aIndex => do
      let (device, calls) ← WiiMote.setPlayerIndex aIndex trace.device
      return { trace with device := device, calls := trace.calls ++ calls }

/-- The trace of the constructor. -/
def Trace.start : Option Trace := do
  let (device, calls) ← construct
  return { device := device, calls := calls, attachment := none, period := [] }

/-- Construction followed by any events. -/
def Trace.after (events : List Event) : Option Trace := do
  let trace ← Trace.start
  run Trace.step trace events

/-! ## One step -/

/-- An axis of the classic controller. -/
def axisOf (cc : ClassicCtrlT) : StickAxis → AxisT
  | .leftX => cc.ljs.x
  | .leftY => cc.ljs.y
  | .rightX => cc.rjs.x
  | .rightY => cc.rjs.y

/-- The signal that an event carries to the handshake. -/
def Event.signal : Event → Signal
  | .handlePacket aData =>
      if aData 1 = 0x21 then Wiimote.signal 0x21 (aData.drop 7)
      else if aData 1 = 0x20 then
        if attachmentBit aData then .attached else .detached
      else .other
  | .setPlayerIndex _ => .other

/-- The state of a trace, seen from the phase the handshake is in. -/
structure Trace.Inv (trace : Trace) (phase : Phase) : Prop where
  represents : Represents trace.device phase
  reports : ∀ type, phase.reportType = some type →
    (reportTypes trace.calls).getLast? = some type
  axes : ∀ axis, AxisTracked 2 3 axis trace.period
    (axisOf trace.device.exp.classic axis).initialized
    (axisOf trace.device.exp.classic axis).calibration

variable {trace : Trace} {phase : Phase} {device : WiimoteT} {aData : Bytes}

theorem represents_pressed (hRep : Represents device phase) (msg : Bytes) :
    Represents (wiimotePressedButtons device msg) phase :=
  ⟨hRep.handshakeState, hRep.connected, hRep.handshake, hRep.complete, hRep.exp, hRep.type⟩

/-- An axis after a raw value. -/
def updated (axis : AxisT) (raw : Int) : AxisT :=
  let calibration := axis.calibration.update 2 3 axis.initialized raw
  ⟨true, calibration, calibration.reading raw⟩

theorem processAxis_valid (axis : AxisT) (raw : Int)
    (hValid : (axis.calibration.update 2 3 axis.initialized raw).Valid) :
    processAxis axis raw = some (updated axis raw) := by
  show (calculateAxis raw (axis.calibration.update 2 3 axis.initialized raw)).bind _ = _
  rw [calculateAxis_valid hValid]
  rfl

/-- An extension report updates every axis with its own raw value. -/
theorem classicCtrlEvent_valid (cc : ClassicCtrlT)
    (hValid : ∀ axis, ((axisOf cc axis).calibration.update 2 3 (axisOf cc axis).initialized
      (rawStick aData axis)).Valid) :
    ∃ cc', classicCtrlEvent cc (aData.drop 4) = some cc' ∧
      ∀ axis, axisOf cc' axis = updated (axisOf cc axis) (rawStick aData axis) := by
  let cc' : ClassicCtrlT :=
    { btns := ~~~bigEndianShort ((aData.drop 4).drop 4) &&& 0xFEFF
      ljs := ⟨updated cc.ljs.x (rawStick aData .leftX), updated cc.ljs.y (rawStick aData .leftY)⟩
      rjs := ⟨updated cc.rjs.x (rawStick aData .rightX), updated cc.rjs.y (rawStick aData .rightY)⟩ }
  refine ⟨cc', ?_, fun axis => by cases axis <;> rfl⟩
  have hLeftX := processAxis_valid cc.ljs.x (rawLeftX (aData.drop 4)) (hValid .leftX)
  have hLeftY := processAxis_valid cc.ljs.y (rawLeftY (aData.drop 4)) (hValid .leftY)
  have hRightX := processAxis_valid cc.rjs.x (rawRightX (aData.drop 4)) (hValid .rightX)
  have hRightY := processAxis_valid cc.rjs.y (rawRightY (aData.drop 4)) (hValid .rightY)
  simp only [classicCtrlEvent, hLeftX, hLeftY, hRightX, hRightY]
  rfl

theorem construct_inv : ∃ trace, Trace.start = some trace ∧ trace.Inv .awaitStatus ∧
    trace.attachment = none := by
  refine ⟨_, rfl, ?_, rfl⟩
  constructor
  · constructor <;> rfl
  · intro type hType
    cases hType
  · intro axis
    cases axis <;> rfl

/-- What `HandlePacket` does, from a state in which no axis is broken. -/
structure Handled (phase : Phase) (aData : Bytes) (device device' : WiimoteT)
    (calls : List DriverCall) : Prop where
  represents : Represents device' (phase.next (Event.signal (.handlePacket aData)))
  types : reportTypes calls =
    if phase.next (Event.signal (.handlePacket aData)) = phase then []
    else (phase.next (Event.signal (.handlePacket aData))).reportType.toList
  sent : calls.filterMap DriverCall.sentState = [processButtons device']
  axes : ∀ axis, axisOf device'.exp.classic axis =
    if Initialises device aData then .zero
    else if Accepts device aData then
      updated (axisOf device.exp.classic axis) (rawStick aData axis)
    else axisOf device.exp.classic axis

/-- Reports that do not reach the handshake leave the phase as it is. -/
theorem handled_without_handshake {device' : WiimoteT}
    (hOther : Event.signal (.handlePacket aData) = .other)
    (hReport : handleReport aData device = some (device', []))
    (hRep : Represents device' phase)
    (hAxes : ∀ axis, axisOf device'.exp.classic axis =
      if Accepts device aData then updated (axisOf device.exp.classic axis) (rawStick aData axis)
      else axisOf device.exp.classic axis)
    (hNoRead : aData 1 ≠ 0x21) :
    ∃ device' calls, handlePacket aData device = some (device', calls) ∧
      Handled phase aData device device' calls := by
  have hNext : phase.next (Event.signal (.handlePacket aData)) = phase := by
    rw [hOther]
    cases phase <;> rfl
  refine ⟨device', [.sendControllerState (processButtons device')], ?_, ?_, ?_, rfl, ?_⟩
  · simp [handlePacket, hReport]
  · rwa [hNext]
  · rw [if_pos hNext]
    rfl
  · intro axis
    rw [if_neg fun hInit => hNoRead hInit.1]
    exact hAxes axis

/-- A report that goes through the handshake. -/
theorem handled_by_handshake {event : UInt8} {data msg : Bytes}
    (hReport : handleReport aData device =
      (wiimoteHandshake (wiimotePressedButtons device msg) event (some data)).map (·.2))
    (hSignal : Event.signal (.handlePacket aData) = Wiimote.signal event data)
    (hRep : Represents device phase)
    (hInit : Initialises device aData ↔
      phase ≠ .classic ∧ phase.next (Wiimote.signal event data) = .classic)
    (hNoExt : aData 1 ≠ 0x34) :
    ∃ device' calls, handlePacket aData device = some (device', calls) ∧
      Handled phase aData device device' calls := by
  obtain ⟨value, device', calls, hHandshake, hOutcome⟩ :=
    wiimoteHandshake_refines (represents_pressed hRep msg) event data
  refine ⟨device', calls ++ [.sendControllerState (processButtons device')], ?_, ?_, ?_, ?_, ?_⟩
  · simp [handlePacket, hReport, hHandshake]
  · rw [hSignal]
    exact hOutcome.represents
  · rw [hSignal, ← hOutcome.reports.types, reportTypes, List.filterMap_append]
    exact List.append_nil _
  · rw [List.filterMap_append, hOutcome.reports.quiet]
    rfl
  · intro axis
    by_cases hReset : Initialises device aData
    · rw [hOutcome.classic, if_pos (hInit.mp hReset), if_pos hReset]
      cases axis <;> rfl
    · rw [hOutcome.classic, if_neg fun hEnter => hReset (hInit.mpr hEnter), if_neg hReset,
        if_neg fun hAccepts => hNoExt hAccepts.1]
      rfl

/-- The classic controller is initialised by the read replies that lead into
its phase. -/
theorem initialises_iff (hRep : Represents device phase) (hRead : aData 1 = 0x21)
    (data : Bytes) :
    Initialises device aData ↔
      phase ≠ .classic ∧ phase.next (Wiimote.signal 0x21 data) = .classic := by
  rw [Initialises, hRep.handshakeState, and_iff_right hRead]
  rcases signal_cases 0x21 data with ⟨h, -⟩ | ⟨h, -⟩ | ⟨-, -, h⟩ | ⟨-, -, h⟩ | ⟨-, h, -⟩
  · cases h
  · cases h
  · rw [h]
    cases phase <;> simp [Phase.handshakeState, Phase.next]
  · rw [h]
    cases phase <;> simp [Phase.handshakeState, Phase.next]
  · exact absurd rfl h

theorem not_classic_of_status (phase : Phase) {s : Signal}
    (hSignal : s = .attached ∨ s = .detached) :
    ¬ (phase ≠ .classic ∧ phase.next s = .classic) := by
  rcases hSignal with rfl | rfl <;> cases phase <;> simp [Phase.next]

/-- A memory-read reply goes through the handshake. -/
theorem handled_read_reply (hRep : Represents device phase) (hRead : aData 1 = 0x21) :
    ∃ device' calls, handlePacket aData device = some (device', calls) ∧
      Handled phase aData device device' calls := by
  apply handled_by_handshake
  · show handleReport aData device =
      (wiimoteHandshake (wiimotePressedButtons device (aData.drop 2)) 0x21
        (some (aData.drop 7))).map (·.2)
    have hDrop : (aData.drop 2).drop 5 = aData.drop 7 := aData.drop_drop 2 5
    simp [handleReport, hRead, Option.map_eq_bind, hDrop]
  · simp [Event.signal, hRead]
  · exact hRep
  · exact initialises_iff hRep hRead _
  · simp [hRead]

/-- So does a status report. -/
theorem handled_status (hRep : Represents device phase) (hStatus : aData 1 = 0x20) :
    ∃ device' calls, handlePacket aData device = some (device', calls) ∧
      Handled phase aData device device' calls := by
  have hSignal : Wiimote.signal 0x20 (aData.drop 2) =
      if attachmentBit aData then .attached else .detached := by
    by_cases hBit : aData 4 &&& 0x02 = 0x02 <;>
      simp [Wiimote.signal, attachmentBit, Bytes.drop, hBit]
  apply handled_by_handshake
  · show handleReport aData device =
      (wiimoteHandshake (wiimotePressedButtons device (aData.drop 2)) 0x20
        (some (aData.drop 2))).map (·.2)
    simp [handleReport, hStatus, Option.map_eq_bind]
  · rw [hSignal]
    simp [Event.signal, hStatus]
  · exact hRep
  · refine iff_of_false (fun hInit => ?_) (not_classic_of_status phase ?_)
    · have hRead := hInit.1
      rw [hStatus] at hRead
      exact absurd hRead (by decide)
    · rw [hSignal]
      cases attachmentBit aData
      · exact .inr rfl
      · exact .inl rfl
  · simp [hStatus]

/-- A report of the extension moves the sticks of a classic controller, if there
is one. -/
theorem handled_extension (hRep : Represents device phase) (hExtension : aData 1 = 0x34)
    (hValid : ∀ axis, ((axisOf device.exp.classic axis).calibration.update 2 3
      (axisOf device.exp.classic axis).initialized (rawStick aData axis)).Valid) :
    ∃ device' calls, handlePacket aData device = some (device', calls) ∧
      Handled phase aData device device' calls := by
  have hOther : Event.signal (.handlePacket aData) = .other := by
    simp [Event.signal, hExtension]
  have hNoRead : aData 1 ≠ 0x21 := by simp [hExtension]
  by_cases hType : device.exp.type = .classic
  · obtain ⟨cc', hEvent, hAxes⟩ := classicCtrlEvent_valid device.exp.classic hValid
    apply handled_without_handshake hOther
    · show handleReport aData device = some ({ wiimotePressedButtons device (aData.drop 2) with
        exp := { device.exp with classic := cc' } }, [])
      have hDrop : (aData.drop 2).drop 2 = aData.drop 4 := aData.drop_drop 2 2
      simp [handleReport, hExtension, wiimoteHandleExpansion, wiimotePressedButtons, hType,
        hDrop, hEvent]
    · exact ⟨hRep.handshakeState, hRep.connected, hRep.handshake, hRep.complete, hRep.exp,
        hRep.type⟩
    · intro axis
      rw [if_pos ⟨hExtension, hType⟩]
      exact hAxes axis
    · exact hNoRead
  · have hNone : device.exp.type = .none := by
      cases h : device.exp.type
      · rfl
      · exact absurd h hType
    apply handled_without_handshake hOther
    · show handleReport aData device =
        some (wiimotePressedButtons device (aData.drop 2), [])
      simp [handleReport, hExtension, wiimoteHandleExpansion, wiimotePressedButtons, hNone]
    · exact represents_pressed hRep _
    · intro axis
      rw [if_neg fun hAccepts => hType hAccepts.2]
      rfl
    · exact hNoRead

/-- A report of the buttons changes only these; any other report nothing. -/
theorem handled_other (hRep : Represents device phase) (hRead : aData 1 ≠ 0x21)
    (hStatus : aData 1 ≠ 0x20) (hExtension : aData 1 ≠ 0x34) :
    ∃ device' calls, handlePacket aData device = some (device', calls) ∧
      Handled phase aData device device' calls := by
  have hOther : Event.signal (.handlePacket aData) = .other := by
    simp [Event.signal, hRead, hStatus]
  by_cases hButtons : aData 1 = 0x30
  · apply handled_without_handshake hOther
    · show handleReport aData device =
        some (wiimotePressedButtons device (aData.drop 2), [])
      simp [handleReport, hButtons]
    · exact represents_pressed hRep _
    · intro axis
      rw [if_neg fun hAccepts => hExtension hAccepts.1]
      rfl
    · exact hRead
  · apply handled_without_handshake hOther
    · show handleReport aData device = some (device, [])
      simp [handleReport, hButtons, hRead, hStatus, hExtension]
    · exact hRep
    · intro axis
      rw [if_neg fun hAccepts => hExtension hAccepts.1]
    · exact hRead

/-- `HandlePacket` always returns, and it is one transition of the phases. -/
theorem handlePacket_handled (hRep : Represents device phase) (aData : Bytes)
    (hValid : ∀ axis, ((axisOf device.exp.classic axis).calibration.update 2 3
      (axisOf device.exp.classic axis).initialized (rawStick aData axis)).Valid) :
    ∃ device' calls, handlePacket aData device = some (device', calls) ∧
      Handled phase aData device device' calls := by
  by_cases hRead : aData 1 = 0x21
  · exact handled_read_reply hRep hRead
  by_cases hStatus : aData 1 = 0x20
  · exact handled_status hRep hStatus
  by_cases hExtension : aData 1 = 0x34
  · exact handled_extension hRep hExtension hValid
  · exact handled_other hRep hRead hStatus hExtension

/-- The stick positions sent for a classic controller. -/
theorem processButtons_stick (hType : device.exp.type = .classic) (axis : StickAxis) :
    (processButtons device).stick axis = (axisOf device.exp.classic axis).value := by
  simp only [processButtons, hType]
  cases axis <;> rfl

theorem setPlayerIndex_connected (hConnected : device.isSet .connected = true)
    (aIndex : Int32) :
    ∃ leds calls, setPlayerIndex aIndex device =
        some ({ device with unid := aIndex, leds := leds }, calls) ∧ Commands calls [] := by
  have hConnected' : ({ device with unid := aIndex } : WiimoteT).isSet .connected = true :=
    hConnected
  exact setPlayerLeds_connected hConnected' aIndex

/-- The attachment bit after an event. -/
def Event.attachment (attachment : Option Bool) : Event → Option Bool
  | .handlePacket aData => if aData 1 = 0x20 then some (attachmentBit aData) else attachment
  | .setPlayerIndex _ => attachment

theorem getLast?_reports {next : Phase}
    (hOld : ∀ type, phase.reportType = some type →
      (reportTypes trace.calls).getLast? = some type)
    {calls : List DriverCall}
    (hTypes : reportTypes calls = if next = phase then [] else next.reportType.toList) :
    ∀ type, next.reportType = some type →
      (reportTypes (trace.calls ++ calls)).getLast? = some type := by
  intro type hType
  rw [reportTypes, List.filterMap_append]
  show (reportTypes trace.calls ++ reportTypes calls).getLast? = some type
  by_cases hSame : next = phase
  · rw [hTypes, if_pos hSame, List.append_nil]
    exact hOld type (hSame ▸ hType)
  · rw [hTypes, if_neg hSame, hType]
    exact List.getLast?_concat

/-- No assertion fails on an axis that has been tracked. -/
theorem Trace.Inv.valid (hInv : trace.Inv phase) (raw : Int) (axis : StickAxis) :
    ((axisOf trace.device.exp.classic axis).calibration.update 2 3
      (axisOf trace.device.exp.classic axis).initialized raw).Valid :=
  (hInv.axes axis).update_valid (by decide) (by decide) raw

/-- The step lemma of a trace: every event completes and is one transition of
the phases. -/
theorem Trace.Inv.step (hInv : trace.Inv phase) (e : Event) :
    ∃ trace', trace.step e = some trace' ∧ trace'.Inv (phase.next e.signal) ∧
      trace'.attachment = e.attachment trace.attachment := by
  cases e with
  | handlePacket aData =>
      obtain ⟨device', calls, hHandle, hHandled⟩ :=
        handlePacket_handled hInv.represents aData fun axis => hInv.valid (rawStick aData axis) axis
      refine ⟨_, by rw [Trace.step, hHandle]; rfl, ?_, rfl⟩
      refine ⟨hHandled.represents, getLast?_reports hInv.reports hHandled.types, fun axis => ?_⟩
      show AxisTracked 2 3 axis (nextPeriod trace.device aData calls trace.period)
        (axisOf device'.exp.classic axis).initialized
        (axisOf device'.exp.classic axis).calibration
      have hAxis := hHandled.axes axis
      rw [nextPeriod]
      by_cases hReset : Initialises trace.device aData
      · rw [if_pos hReset] at hAxis ⊢
        rw [hAxis]
        rfl
      by_cases hAccepts : Accepts trace.device aData
      · rw [if_neg hReset, if_pos hAccepts] at hAxis ⊢
        have hType : device'.exp.type = .classic := by
          rw [hHandled.represents.type, ← hAccepts.2, hInv.represents.type]
          simp [Event.signal, hAccepts.1]
          cases phase <;> rfl
        have hValue := processButtons_stick hType axis
        rw [hAxis] at hValue ⊢
        exact (hInv.axes axis).accept (by decide) (by decide) hHandled.sent hValue
      · rw [if_neg hReset, if_neg hAccepts] at hAxis ⊢
        rw [hAxis]
        exact hInv.axes axis
  | setPlayerIndex aIndex =>
      obtain ⟨leds, calls, hSet, hCommands⟩ :=
        setPlayerIndex_connected hInv.represents.connected aIndex
      have hNext : phase.next (Event.signal (.setPlayerIndex aIndex)) = phase := by
        cases phase <;> rfl
      have hRep := hInv.represents
      refine ⟨{ trace with
        device := { trace.device with unid := aIndex, leds := leds }
        calls := trace.calls ++ calls }, by rw [Trace.step, hSet]; rfl, ?_, rfl⟩
      rw [hNext]
      refine ⟨⟨hRep.handshakeState, hRep.connected, hRep.handshake, hRep.complete, hRep.exp,
        hRep.type⟩, getLast?_reports hInv.reports ?_, hInv.axes⟩
      rw [if_pos rfl]
      exact hCommands.types

theorem Trace.after_inv (events : List Event) :
    ∃ trace phase, Trace.after events = some trace ∧ trace.Inv phase := by
  obtain ⟨start, hStart, hInit, -⟩ := construct_inv
  have hStep : ∀ (s : Trace) e, (∃ phase, s.Inv phase) →
      ∃ s', s.step e = some s' ∧ ∃ phase, s'.Inv phase := by
    rintro s e ⟨phase, hInv⟩
    obtain ⟨s', hs', hInv', -⟩ := hInv.step e
    exact ⟨s', hs', _, hInv'⟩
  obtain ⟨trace, hRun, phase, hInv⟩ := run_invariant hStep ⟨_, hInit⟩ events
  exact ⟨trace, phase, by rw [Trace.after, hStart]; exact hRun, hInv⟩

end WiiMote
end MFiWrapper
