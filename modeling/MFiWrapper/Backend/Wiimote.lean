import MFiWrapper.Backend.HIDPad

/-!
# `wiimote.cpp`: the Wii Remote protocol

The device state, the commands sent to the remote, the handshake and the
classic controller extension.  Sleeping between commands is left out.  The
result `none` stands for a call that does not return normally: a store beyond
a local buffer, a failed assertion, or a loop that keeps turning.
-/

namespace MFiWrapper
namespace Wiimote

open Library HIDPad

/-! ## Device state -/

/-- The `WIIMOTE_STATE_*` bits. -/
inductive StateFlag
  | devFound | handshake | handshakeComplete | connected | exp
  deriving DecidableEq

namespace StateFlag

def mask : StateFlag → BitVec 32
  | .devFound => 0x0001
  | .handshake => 0x0002
  | .handshakeComplete => 0x0004
  | .connected => 0x0008
  | .exp => 0x0040

/-- The position of a flag in `state`. -/
def bit : StateFlag → Nat
  | .devFound => 0
  | .handshake => 1
  | .handshakeComplete => 2
  | .connected => 3
  | .exp => 6

theorem mask_eq_twoPow (s : StateFlag) : s.mask = BitVec.twoPow 32 s.bit := by
  cases s <;> rfl

theorem bit_lt (s : StateFlag) : s.bit < 32 := by
  cases s <;> decide

theorem bit_inj {s t : StateFlag} : s.bit = t.bit ↔ s = t := by
  cases s <;> cases t <;> decide

/-- All bits of a flag are set in a state word. -/
def setIn (s : StateFlag) (state : BitVec 32) : Bool := state &&& s.mask == s.mask

theorem setIn_eq_getLsbD (s : StateFlag) (state : BitVec 32) :
    s.setIn state = state.getLsbD s.bit := by
  have hOne : BitVec.twoPow 32 s.bit ≠ 0 := by cases s <;> decide
  rw [setIn, s.mask_eq_twoPow, BitVec.and_twoPow]
  by_cases hBit : state.getLsbD s.bit
  · simp [hBit]
  · simpa [hBit] using hOne.symm

@[simp] theorem setIn_or_mask (s t : StateFlag) (state : BitVec 32) :
    t.setIn (state ||| s.mask) = (t.setIn state || decide (s = t)) := by
  rw [setIn_eq_getLsbD, setIn_eq_getLsbD, s.mask_eq_twoPow, BitVec.getLsbD_or,
    BitVec.getLsbD_twoPow]
  simp [s.bit_lt, bit_inj]

@[simp] theorem setIn_and_not_mask (s t : StateFlag) (state : BitVec 32) :
    t.setIn (state &&& ~~~s.mask) = (t.setIn state && !decide (s = t)) := by
  rw [setIn_eq_getLsbD, setIn_eq_getLsbD, s.mask_eq_twoPow, BitVec.getLsbD_and,
    BitVec.getLsbD_not, BitVec.getLsbD_twoPow]
  simp [s.bit_lt, t.bit_lt, bit_inj]

end StateFlag

structure AxisT where
  initialized : Bool
  calibration : Calibration
  value : ℚ
  deriving DecidableEq

structure JoystickT where
  x : AxisT
  y : AxisT
  deriving DecidableEq

structure ClassicCtrlT where
  btns : UInt16
  ljs : JoystickT
  rjs : JoystickT
  deriving DecidableEq

/-- `EXP_NONE` and `EXP_CLASSIC`, the only values `exp.type` is given. -/
inductive ExpType
  | none | classic
  deriving DecidableEq

structure ExpansionT where
  type : ExpType
  classic : ClassicCtrlT
  deriving DecidableEq

structure WiimoteT where
  unid : Int32
  state : BitVec 32
  leds : UInt8
  handshakeState : Nat
  exp : ExpansionT
  btns : UInt16
  deriving DecidableEq

/-- The structures after `memset(…, 0, …)`. -/
def AxisT.zero : AxisT := ⟨false, ⟨0, 0, 0, 0⟩, 0⟩

def ClassicCtrlT.zero : ClassicCtrlT := ⟨0, ⟨.zero, .zero⟩, ⟨.zero, .zero⟩⟩

def WiimoteT.zero : WiimoteT := ⟨0, 0, 0, 0, ⟨.none, .zero⟩, 0⟩

namespace WiimoteT

/-- `WIIMOTE_IS_SET`. -/
def isSet (wm : WiimoteT) (s : StateFlag) : Bool := s.setIn wm.state

/-- `WIIMOTE_ENABLE_STATE`. -/
def enable (wm : WiimoteT) (s : StateFlag) : WiimoteT :=
  { wm with state := wm.state ||| s.mask }

/-- `WIIMOTE_DISABLE_STATE`. -/
def disable (wm : WiimoteT) (s : StateFlag) : WiimoteT :=
  { wm with state := wm.state &&& ~~~s.mask }

end WiimoteT

/-! ## Commands -/

/-- `BIG_ENDIAN_SHORT(*(short*)msg)` on a little-endian host. -/
def bigEndianShort (msg : Bytes) : UInt16 := UInt16.ofNat (readLE [msg 1, msg 0])

/-- `BIG_ENDIAN_LONG(*(int*)data)` on a little-endian host. -/
def bigEndianLong (data : Bytes) : UInt32 :=
  UInt32.ofNat (readLE [data 3, data 2, data 1, data 0])

/-- `wiimote_send`: the message is copied behind a two-byte header into a local
buffer of 32 bytes. -/
def wiimoteSend (reportType : UInt8) (msg : List UInt8) : Option (List DriverCall) :=
  if 2 + msg.length ≤ 32 then
    some [.setReport false reportType ([0x50 ||| 0x02, reportType] ++ msg)]
  else none

/-- `wiimote_status`: `WM_CMD_CTRL_STATUS`. -/
def wiimoteStatus (wm : WiimoteT) : Option (List DriverCall) :=
  if !wm.isSet .connected then some []
  else wiimoteSend 0x15 [0]

/-- `wiimote_data_report`: `WM_CMD_REPORT_TYPE`. -/
def wiimoteDataReport (wm : WiimoteT) (type : UInt8) : Option (List DriverCall) :=
  if !wm.isSet .connected then some []
  else wiimoteSend 0x12 [0, type]

/-- `wiimote_set_leds`: `WM_CMD_LED`. -/
def wiimoteSetLeds (wm : WiimoteT) (leds : UInt8) : Option (WiimoteT × List DriverCall) :=
  if !wm.isSet .connected then some (wm, [])
  else do
    -- remove the lower 4 bits because they control rumble
    let wm := { wm with leds := leds &&& 0xF0 }
    let calls ← wiimoteSend 0x11 [wm.leds]
    return (wm, calls)

/-- The LED of a player, `WIIMOTE_LED_1` to `WIIMOTE_LED_4`; other indices leave
the LEDs as they are. -/
def setPlayerLeds (wm : WiimoteT) (index : Int32) : Option (WiimoteT × List DriverCall) :=
  if index = 0 then wiimoteSetLeds wm 0x10
  else if index = 1 then wiimoteSetLeds wm 0x20
  else if index = 2 then wiimoteSetLeds wm 0x40
  else if index = 3 then wiimoteSetLeds wm 0x80
  else some (wm, [])

/-- `wiimote_read_data`: `WM_CMD_READ_DATA`. -/
def wiimoteReadData (wm : WiimoteT) (addr : UInt32) (len : UInt16) :
    Option (List DriverCall) :=
  if !wm.isSet .connected then some []
  else if len = 0 then some []
  else wiimoteSend 0x17 ((le32 addr).reverse ++ (writeLE 2 len.toNat).reverse)

/-- `wiimote_write_data`: `WM_CMD_WRITE_DATA`.  The data is copied to offset 5
of a zeroed local buffer of 21 bytes; its length is a byte. -/
def wiimoteWriteData (wm : WiimoteT) (addr : UInt32) (data : List UInt8) :
    Option (List DriverCall) :=
  if !wm.isSet .connected then some []
  else if data.length = 0 then some []
  else if 5 + data.length ≤ 21 then
    wiimoteSend 0x16
      ((le32 addr).reverse ++ [UInt8.ofNat data.length] ++ data ++
        List.replicate (16 - data.length) 0)
  else none

/-! ## Classic controller -/

/-- `wiimote_pressed_buttons`. -/
def wiimotePressedButtons (wm : WiimoteT) (msg : Bytes) : WiimoteT :=
  { wm with btns := bigEndianShort msg &&& 0x1F9F }

/-- `classic_ctrl_handshake`: it does not look at the data it is given. -/
def classicCtrlHandshake (wm : WiimoteT) : WiimoteT :=
  { wm with exp := { type := .classic, classic := .zero } }

/-- `process_axis`. -/
def processAxis (axis : AxisT) (raw : Int) : Option AxisT := do
  let calibration :=
    if !axis.initialized then ⟨raw - 3, raw - 2, raw + 2, raw + 3⟩ else axis.calibration
  let calibration :=
    { calibration with c0 := min calibration.c0 raw, c3 := max calibration.c3 raw }
  let value ← calculateAxis raw calibration
  return ⟨true, calibration, value⟩

/-- The raw positions in an extension report. -/
def rawLeftX (msg : Bytes) : Int := (msg 0 &&& 0x3F).toNat
def rawLeftY (msg : Bytes) : Int := (msg 1 &&& 0x3F).toNat
def rawRightX (msg : Bytes) : Int :=
  (((msg 0 &&& 0xC0) >>> 3) ||| ((msg 1 &&& 0xC0) >>> 5) ||| ((msg 2 &&& 0x80) >>> 7)).toNat
def rawRightY (msg : Bytes) : Int := (msg 2 &&& 0x1F).toNat

/-- `classic_ctrl_event`. -/
def classicCtrlEvent (cc : ClassicCtrlT) (msg : Bytes) : Option ClassicCtrlT := do
  let btns := ~~~bigEndianShort (msg.drop 4) &&& 0xFEFF
  let leftX ← processAxis cc.ljs.x (rawLeftX msg)
  let leftY ← processAxis cc.ljs.y (rawLeftY msg)
  let rightX ← processAxis cc.rjs.x (rawRightX msg)
  let rightY ← processAxis cc.rjs.y (rawRightY msg)
  return ⟨btns, ⟨leftX, leftY⟩, ⟨rightX, rightY⟩⟩

/-- `wiimote_handle_expansion`. -/
def wiimoteHandleExpansion (wm : WiimoteT) (msg : Bytes) : Option WiimoteT :=
  match wm.exp.type with
  | .classic => do
      let classic ← classicCtrlEvent wm.exp.classic msg
      return { wm with exp := { wm.exp with classic := classic } }
  | .none => some wm

/-! ## Handshake -/

/-- How one turn of the loop in `wiimote_handshake` ends. -/
inductive Turn
  | returns (value : Int) (wm : WiimoteT) (calls : List DriverCall)
  | continues (wm : WiimoteT) (calls : List DriverCall)

/-- A handshake that was complete is begun again. -/
def forceHandshake (wm : WiimoteT) : WiimoteT :=
  if wm.isSet .handshakeComplete then
    (wm.disable .handshakeComplete).enable .handshake
  else wm

/-- State 1 after a status report: an extension may have been plugged or
unplugged. -/
def handshakeTurnAttachment (attachment : Bool) (wm : WiimoteT) : Option Turn :=
  if attachment && !wm.isSet .exp then do
    let wm := forceHandshake (wm.enable .exp)
    let first ← wiimoteWriteData wm 0x04A400F0 [0x55]
    let second ← wiimoteWriteData wm 0x04A400FB [0x00]
    -- check extension type
    let third ← wiimoteReadData wm (0x04A40020 + 220) 4
    return .returns 0 { wm with handshakeState := 4 } (first ++ second ++ third)
  else
    let wm :=
      if !attachment && wm.isSet .exp then
        -- attachment removed
        forceHandshake { wm.disable .exp with exp := { wm.exp with type := .none } }
      else wm
    if !attachment && wm.isSet .handshake then
      some (.continues { wm with handshakeState := 2 } [])
    else
      some (.returns 0 wm [])

/-- State 1: only a status report is looked at. -/
def handshakeTurnStatus (event : UInt8) (data : Option Bytes) (wm : WiimoteT) :
    Option Turn := do
  if event ≠ 0x20 then
    return .returns 0 wm []
  -- is an attachment connected to the expansion port?
  let data ← data
  handshakeTurnAttachment (data 2 &&& 0x02 == 0x02) wm

/-- State 4: the identification of the extension was requested. -/
def handshakeTurnIdentify (event : UInt8) (data : Option Bytes) (wm : WiimoteT) :
    Option Turn := do
  if event ≠ 0x21 then
    return .returns 0 wm []
  let data ← data
  if bigEndianLong data ≠ 0xa4200101 then
    return .continues { wm with handshakeState := 2 } []
  else
    let calls ← wiimoteReadData wm 0x04A40020 16
    return .returns 0 { wm with handshakeState := 5 } calls

/-- State 6: the handshake is over; show the player index received so far. -/
def handshakeTurnFinish (wm : WiimoteT) : Option Turn := do
  let wm := (wm.disable .handshake).enable .handshakeComplete
  let wm := { wm with handshakeState := 1 }
  let (wm, calls) ← setPlayerLeds wm wm.unid
  return .returns 1 wm calls

/-- One turn of the `while(1)` loop, by the value of `handshake_state`. -/
def handshakeTurn (event : UInt8) (data : Option Bytes) (wm : WiimoteT) : Option Turn :=
  match wm.handshakeState with
  | 0 => do
      let (wm, leds) ← wiimoteSetLeds (wm.enable .handshake) 0x00
      let status ← wiimoteStatus wm
      return .returns 0 { wm with handshakeState := 1 } (leds ++ status)
  | 1 => handshakeTurnStatus event data wm
  | 2 => do
      let calls ← wiimoteDataReport wm 0x30
      return .continues { wm with handshakeState := 6 } calls
  | 3 => do
      let calls ← wiimoteDataReport wm 0x34
      return .continues { wm with handshakeState := 6 } calls
  | 4 => handshakeTurnIdentify event data wm
  | 5 =>
      if event ≠ 0x21 then some (.returns 0 wm [])
      else some (.continues { classicCtrlHandshake wm with handshakeState := 3 } [])
  | 6 => handshakeTurnFinish wm
  -- the default branch only leaves the `switch`
  | _ => some (.continues wm [])

/-- The loop, for at most `turns` turns. -/
def handshakeLoop (event : UInt8) (data : Option Bytes) :
    Nat → WiimoteT → Option (Int × WiimoteT × List DriverCall)
  | 0, _ => none
  | turns + 1, wm => do
      match ← handshakeTurn event data wm with
      | .returns value wm calls => return (value, wm, calls)
      | .continues wm calls =>
          let (value, wm, calls') ← handshakeLoop event data turns wm
          return (value, wm, calls ++ calls')

/-- `wiimote_handshake`.  No state needs a fourth turn, see
`handshakeLoop_eq_handshake`. -/
def wiimoteHandshake (wm : WiimoteT) (event : UInt8) (data : Option Bytes) :
    Option (Int × WiimoteT × List DriverCall) :=
  handshakeLoop event data 3 wm

end Wiimote
end MFiWrapper
