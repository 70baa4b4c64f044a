import Mathlib.Data.Fintype.Basic
import MFiWrapper.Backend.WiiMoteRuns
import MFiWrapper.Backend.HIDPadWiiUPro
import MFiWrapper.Library.WordBytes

/-!
# Decoding the classic controller

An extension report packs four stick positions and the buttons into six bytes.  The
decoder gets back what was packed; and since the Wii U Pro Controller has the buttons in
the same two bytes, its driver, which is written in another way, sends the same values
for them.
-/

namespace MFiWrapper
namespace WiiMote

open Library HIDPad Wiimote

/-! ## Packing -/

/-- The positions of both sticks: six bits for the left, five for the right. -/
structure Positions where
  leftX : Fin 64
  leftY : Fin 64
  rightX : Fin 32
  rightY : Fin 32

/-- The extension report for some positions and the buttons that are pressed.  The bits
of the analog triggers, which are not read, are arbitrary; so is what follows. -/
def extensionReport (positions : Positions) (buttons : UInt16) (trigger : Fin 4)
    (triggers : UInt8) (rest : Bytes) : Bytes
  | 0 => UInt8.ofNat (positions.rightX / 8 * 64 + positions.leftX)
  | 1 => UInt8.ofNat (positions.rightX / 2 % 4 * 64 + positions.leftY)
  | 2 => UInt8.ofNat (positions.rightX % 2 * 128 + trigger * 32 + positions.rightY)
  | 3 => triggers
  -- active-low, big-endian
  | 4 => (~~~buttons >>> 8).toUInt8
  | 5 => (~~~buttons).toUInt8
  | i + 6 => rest i

/-- The buttons of the classic controller: `CLASSIC_CTRL_BUTTON_*`. -/
inductive ClassicButton
  | up | left | zr | x | a | y | b | zl | fullR | plus | home | minus | fullL | down | right
  deriving DecidableEq

def ClassicButton.mask : ClassicButton → UInt16
  | .up => 0x0001
  | .left => 0x0002
  | .zr => 0x0004
  | .x => 0x0008
  | .a => 0x0010
  | .y => 0x0020
  | .b => 0x0040
  | .zl => 0x0080
  | .fullR => 0x0200
  | .plus => 0x0400
  | .home => 0x0800
  | .minus => 0x1000
  | .fullL => 0x2000
  | .down => 0x4000
  | .right => 0x8000

/-! ## Unpacking -/

/-- The fields of the first two bytes. -/
theorem fields_of_byte : ∀ (upper : Fin 4) (lower : Fin 64),
    UInt8.ofNat (upper * 64 + lower) &&& 0x3F = UInt8.ofNat lower ∧
      UInt8.ofNat (upper * 64 + lower) &&& 0xC0 = UInt8.ofNat (upper * 64) := by
  decide

/-- The fields of the third byte. -/
theorem fields_of_third : ∀ (upper : Fin 2) (trigger : Fin 4) (lower : Fin 32),
    UInt8.ofNat (upper * 128 + trigger * 32 + lower) &&& 0x1F = UInt8.ofNat lower ∧
      UInt8.ofNat (upper * 128 + trigger * 32 + lower) &&& 0x80 = UInt8.ofNat (upper * 128) := by
  decide

/-- The three parts of the right horizontal position. -/
theorem rightX_of_parts : ∀ rightX : Fin 32,
    ((UInt8.ofNat (rightX / 8 * 64) >>> 3) ||| (UInt8.ofNat (rightX / 2 % 4 * 64) >>> 5) |||
      (UInt8.ofNat (rightX % 2 * 128) >>> 7)).toNat = (rightX : Nat) := by
  decide

section Report

variable (positions : Positions) (buttons : UInt16) (trigger : Fin 4) (triggers : UInt8)
  (rest : Bytes)

/-- The positions as they are passed to `process_axis`. -/
def Positions.raw : StickAxis → Int
  | .leftX => positions.leftX
  | .leftY => positions.leftY
  | .rightX => positions.rightX
  | .rightY => positions.rightY

theorem rawLeftX_extensionReport :
    rawLeftX (extensionReport positions buttons trigger triggers rest) = positions.leftX := by
  have hField := (fields_of_byte ⟨positions.rightX / 8, by omega⟩ positions.leftX).1
  show ((UInt8.ofNat (positions.rightX / 8 * 64 + positions.leftX) &&& 0x3F).toNat : Int) = _
  rw [hField, UInt8.toNat_ofNat']
  omega

theorem rawLeftY_extensionReport :
    rawLeftY (extensionReport positions buttons trigger triggers rest) = positions.leftY := by
  have hField := (fields_of_byte ⟨positions.rightX / 2 % 4, by omega⟩ positions.leftY).1
  show ((UInt8.ofNat (positions.rightX / 2 % 4 * 64 + positions.leftY) &&& 0x3F).toNat : Int) = _
  rw [hField, UInt8.toNat_ofNat']
  omega

theorem rawRightX_extensionReport :
    rawRightX (extensionReport positions buttons trigger triggers rest) = positions.rightX := by
  have hFirst := (fields_of_byte ⟨positions.rightX / 8, by omega⟩ positions.leftX).2
  have hSecond := (fields_of_byte ⟨positions.rightX / 2 % 4, by omega⟩ positions.leftY).2
  have hThird := (fields_of_third ⟨positions.rightX % 2, by omega⟩ trigger positions.rightY).2
  have hParts := rightX_of_parts positions.rightX
  rw [← hFirst, ← hSecond, ← hThird] at hParts
  exact congrArg Int.ofNat hParts

theorem rawRightY_extensionReport :
    rawRightY (extensionReport positions buttons trigger triggers rest) = positions.rightY := by
  have hField := (fields_of_third ⟨positions.rightX % 2, by omega⟩ trigger positions.rightY).1
  show ((UInt8.ofNat (positions.rightX % 2 * 128 + trigger * 32 + positions.rightY) &&&
    0x1F).toNat : Int) = _
  rw [hField, UInt8.toNat_ofNat']
  omega

/-- The buttons of a report, active-high. -/
theorem not_bigEndianShort (msg : Bytes) :
    ~~~bigEndianShort msg = wordOf (~~~msg 0) (~~~msg 1) := by
  rw [bigEndianShort, ofNat_readLE_pair, not_wordOf]

theorem btns_extensionReport :
    ~~~bigEndianShort ((extensionReport positions buttons trigger triggers rest).drop 4) =
      buttons := by
  have hBytes : bigEndianShort
      ((extensionReport positions buttons trigger triggers rest).drop 4) = ~~~buttons := by
    rw [bigEndianShort, ofNat_readLE_pair]
    exact wordOf_bytes (~~~buttons)
  rw [hBytes, UInt16.not_not]

/-- The decoder on a packed report, whatever it has seen before. -/
theorem classicCtrlEvent_extensionReport (cc : ClassicCtrlT) :
    classicCtrlEvent cc (extensionReport positions buttons trigger triggers rest) = do
      let leftX ← processAxis cc.ljs.x positions.leftX
      let leftY ← processAxis cc.ljs.y positions.leftY
      let rightX ← processAxis cc.rjs.x positions.rightX
      let rightY ← processAxis cc.rjs.y positions.rightY
      return ⟨buttons &&& 0xFEFF, ⟨leftX, leftY⟩, ⟨rightX, rightY⟩⟩ := by
  rw [classicCtrlEvent, btns_extensionReport, rawLeftX_extensionReport,
    rawLeftY_extensionReport, rawRightX_extensionReport, rawRightY_extensionReport]

end Report

/-- The word has exactly the buttons that are pressed. -/
theorem ClassicButton.pressed_iff (button : ClassicButton) (buttons : UInt16) :
    buttons &&& 0xFEFF &&& button.mask ≠ 0 ↔ buttons &&& button.mask ≠ 0 := by
  have hMask : 0xFEFF &&& button.mask = button.mask := by cases button <;> decide
  rw [UInt16.and_assoc, hMask]

/-- No assertion fails on the axes of a driver. -/
theorem Trace.Inv.processAxis {trace : Trace} {phase : Phase} (hInv : trace.Inv phase)
    (axis : StickAxis) (raw : Int) :
    ∃ axis', Wiimote.processAxis (axisOf trace.device.exp.classic axis) raw = some axis' :=
  ⟨_, processAxis_valid _ raw (hInv.valid raw axis)⟩

/-! ## The buttons of both controllers -/

/-- The values of the digital buttons and of the direction pad. -/
def buttonValues (packet : MFiWInputStatePacket ℚ) : List ℚ :=
  [packet.a, packet.b, packet.x, packet.y, packet.leftShoulder, packet.rightShoulder,
    packet.leftTrigger, packet.rightTrigger, packet.select, packet.start, packet.dPadX,
    packet.dPadY]

theorem pressed_low (hi lo mask : UInt8) :
    pressed (wordOf hi lo) (wordOf 0 mask) = WiiUPro.pressed lo mask :=
  if_congr (wordOf_test_low hi lo mask) rfl rfl

theorem pressed_high (hi lo mask : UInt8) :
    pressed (wordOf hi lo) (wordOf mask 0) = WiiUPro.pressed hi mask :=
  if_congr (wordOf_test_high hi lo mask) rfl rfl

/-- Of opposite directions the one in the low byte wins in both drivers. -/
theorem direction_eq (hi lo negative positive : UInt8) :
    direction (wordOf hi lo) (wordOf 0 negative) (wordOf positive 0) =
      if lo &&& negative ≠ 0 then -WiiUPro.pressed lo negative
      else WiiUPro.pressed hi positive := by
  calc direction (wordOf hi lo) (wordOf 0 negative) (wordOf positive 0)
      = if wordOf hi lo &&& wordOf 0 negative ≠ 0 then -1
        else pressed (wordOf hi lo) (wordOf positive 0) := rfl
    _ = if lo &&& negative ≠ 0 then -1 else WiiUPro.pressed hi positive := by
        rw [if_congr (wordOf_test_low hi lo negative) rfl rfl, pressed_high]
    _ = _ := by
        split_ifs with hNegative
        · rw [WiiUPro.pressed, if_pos hNegative]
        · rfl

/-- The bit that is masked out belongs to no button. -/
theorem pressed_masked (byte : UInt8) {mask : UInt8} (hMask : 0xFE &&& mask = mask) :
    WiiUPro.pressed (byte &&& 0xFE) mask = WiiUPro.pressed byte mask := by
  rw [WiiUPro.pressed, UInt8.and_assoc, hMask, WiiUPro.pressed]

/-- What the drivers send for the same two bytes of buttons, active-high. -/
theorem buttonValues_eq {device : WiimoteT} (hType : device.exp.type = .classic)
    {b12 b13 : UInt8} (hBtns : device.exp.classic.btns = wordOf b12 b13 &&& 0xFEFF)
    (b14 : UInt8) (stick : StickAxis → ℚ) :
    buttonValues (processButtons device) =
      buttonValues (WiiUPro.inputState b12 b13 b14 stick) := by
  have hWord : device.exp.classic.btns = wordOf (b12 &&& 0xFE) b13 := by
    calc device.exp.classic.btns
        = wordOf b12 b13 &&& wordOf 0xFE 0xFF := hBtns
      _ = wordOf (b12 &&& 0xFE) (b13 &&& 0xFF) := wordOf_and_wordOf _ _ _ _
      _ = wordOf (b12 &&& 0xFE) b13 := by rw [show b13 &&& 0xFF = b13 from UInt8.and_neg_one]
  have hValues (word : UInt16) (hEq : device.exp.classic.btns = word) :
      buttonValues (processButtons device) =
        [pressed word (wordOf 0 0x40), pressed word (wordOf 0 0x10), pressed word (wordOf 0 0x20),
          pressed word (wordOf 0 0x08), pressed word (wordOf 0x20 0), pressed word (wordOf 0x02 0),
          pressed word (wordOf 0 0x80), pressed word (wordOf 0 0x04), pressed word (wordOf 0x10 0),
          pressed word (wordOf 0x04 0), direction word (wordOf 0 0x02) (wordOf 0x80 0),
          direction word (wordOf 0 0x01) (wordOf 0x40 0)] := by
    simp only [processButtons, hType, hEq]
    rfl
  have hMasked (mask : UInt8) (hMask : 0xFE &&& mask = mask) :=
    pressed_masked b12 hMask
  rw [hValues _ hWord]
  simp only [pressed_low, pressed_high, direction_eq, hMasked 0x20 rfl, hMasked 0x02 rfl,
    hMasked 0x10 rfl, hMasked 0x04 rfl, hMasked 0x80 rfl, hMasked 0x40 rfl]
  rfl

/-- The answer of the Wii Remote driver to an extension report. -/
theorem classic_report_sent {trace : Trace} {phase : Phase} (hInv : trace.Inv phase)
    (hType : trace.device.exp.type = .classic) {aData : Bytes} (hExtension : aData 1 = 0x34) :
    ∃ device' calls, handlePacket aData trace.device = some (device', calls) ∧
      calls.filterMap DriverCall.sentState = [processButtons device'] ∧
      device'.exp.type = .classic ∧
      device'.exp.classic.btns = wordOf (~~~aData 8) (~~~aData 9) &&& 0xFEFF := by
  obtain ⟨cc', hEvent, -⟩ := classicCtrlEvent_valid trace.device.exp.classic fun axis =>
    hInv.valid (rawStick aData axis) axis
  have hDrop : (aData.drop 2).drop 2 = aData.drop 4 := aData.drop_drop 2 2
  obtain ⟨device', hReport, hExp⟩ : ∃ device', handleReport aData trace.device =
      some (device', []) ∧ device'.exp = ⟨.classic, cc'⟩ :=
    ⟨{ wiimotePressedButtons trace.device (aData.drop 2) with exp := ⟨.classic, cc'⟩ },
      by simp [handleReport, hExtension, wiimoteHandleExpansion, wiimotePressedButtons, hType,
        hDrop, hEvent], rfl⟩
  have hBtns : cc'.btns = ~~~bigEndianShort ((aData.drop 4).drop 4) &&& 0xFEFF := by
    simp only [classicCtrlEvent, Option.bind_eq_bind, Option.bind_eq_some_iff] at hEvent
    obtain ⟨_, -, _, -, _, -, _, -, hReturn⟩ := hEvent
    rw [← Option.some.inj hReturn]
  refine ⟨device', [.sendControllerState (processButtons device')],
    by rw [handlePacket, hReport]; rfl, rfl, by rw [hExp], ?_⟩
  rw [hExp, hBtns, not_bigEndianShort]
  rfl

/-- The answer of the Wii U Pro Controller driver to an accepted report. -/
theorem pro_report_sent {pad : WiiUPro.Trace} (hInv : pad.Inv) {report : Bytes}
    (hId : report 1 = 0x34) :
    ∃ pad' calls stick, WiiUPro.handlePacket report 23 pad.device = some (pad', calls) ∧
      calls.filterMap DriverCall.sentState =
        [WiiUPro.inputState (~~~report 0x0C) (~~~report 0x0D) (~~~report 0x0E) stick] := by
  have hNot (byte : UInt8) : byte ^^^ 0xFF = ~~~byte := UInt8.xor_neg_one
  have hHandle := WiiUPro.handlePacket_accepted pad.device ⟨rfl, hId⟩ (hInv.valid report)
  refine ⟨_, _, (WiiUPro.axesAfter pad.device.calibrationInitialized pad.device.calibration
    report).2, hHandle, ?_⟩
  rw [List.filterMap_append, WiiUPro.setReport_quiet, List.nil_append, WiiUPro.sendInput,
    List.filterMap_append, hNot, hNot, hNot]
  split_ifs <;> rfl

/-- In every state a run leads to, the decoder gets back the positions that were packed
into a report, and exactly the buttons that are pressed; and for the same two bytes of
buttons the Wii Remote driver with a classic controller and the Wii U Pro Controller
driver, after any reports to each, send the same values. -/
theorem classic_decoding :
    (∀ (events : List Event) (positions : Positions) (buttons : UInt16) (trigger : Fin 4)
      (triggers : UInt8) (rest : Bytes), ∃ (trace : Trace) (axes : StickAxis → AxisT),
        Trace.after events = some trace ∧
        (∀ axis, processAxis (axisOf trace.device.exp.classic axis) (positions.raw axis) =
          some (axes axis)) ∧
        classicCtrlEvent trace.device.exp.classic
          (extensionReport positions buttons trigger triggers rest) =
            some ⟨buttons &&& 0xFEFF, ⟨axes .leftX, axes .leftY⟩, ⟨axes .rightX, axes .rightY⟩⟩ ∧
        ∀ button : ClassicButton,
          buttons &&& 0xFEFF &&& button.mask ≠ 0 ↔ buttons &&& button.mask ≠ 0) ∧
    (∀ (events : List Event) (memory : StickAxis → Calibration) (proEvents : List WiiUPro.Event)
      (aData report : Bytes), ∃ (trace : Trace) (pad : WiiUPro.Trace),
        Trace.after events = some trace ∧
        run WiiUPro.Trace.step (WiiUPro.Trace.start memory) proEvents = some pad ∧
        (trace.device.exp.type = .classic → aData 1 = 0x34 → report 1 = 0x34 →
          report 0x0C = aData 8 → report 0x0D = aData 9 →
          ∃ device' calls pad' proCalls sent proSent,
            handlePacket aData trace.device = some (device', calls) ∧
            calls.filterMap DriverCall.sentState = [sent] ∧
            WiiUPro.handlePacket report 23 pad.device = some (pad', proCalls) ∧
            proCalls.filterMap DriverCall.sentState = [proSent] ∧
            buttonValues sent = buttonValues proSent)) := by
  constructor
  · intro events positions buttons trigger triggers rest
    obtain ⟨trace, phase, hAfter, hInv⟩ := Trace.after_inv events
    choose axes hAxes using fun axis => hInv.processAxis axis (positions.raw axis)
    refine ⟨trace, axes, hAfter, hAxes, ?_, fun button => button.pressed_iff buttons⟩
    have hLeftX : processAxis trace.device.exp.classic.ljs.x positions.leftX = _ := hAxes .leftX
    have hLeftY : processAxis trace.device.exp.classic.ljs.y positions.leftY = _ := hAxes .leftY
    have hRightX : processAxis trace.device.exp.classic.rjs.x positions.rightX = _ :=
      hAxes .rightX
    have hRightY : processAxis trace.device.exp.classic.rjs.y positions.rightY = _ :=
      hAxes .rightY
    rw [classicCtrlEvent_extensionReport, hLeftX, hLeftY, hRightX, hRightY]
    rfl
  · intro events memory proEvents aData report
    obtain ⟨trace, phase, hAfter, hInv⟩ := Trace.after_inv events
    obtain ⟨pad, hRun, hPadInv⟩ := run_invariant (fun pad e hInv => WiiUPro.Trace.Inv.step hInv e)
      (WiiUPro.Trace.start_inv memory) proEvents
    refine ⟨trace, pad, hAfter, hRun, fun hType hExtension hId hHigh hLow => ?_⟩
    obtain ⟨device', calls, hHandle, hSent, hType', hBtns⟩ :=
      classic_report_sent hInv hType hExtension
    obtain ⟨pad', proCalls, stick, hProHandle, hProSent⟩ := pro_report_sent hPadInv hId
    rw [hHigh, hLow] at hProSent
    exact ⟨device', calls, pad', proCalls, _, _, hHandle, hSent, hProHandle, hProSent,
      buttonValues_eq hType' hBtns _ stick⟩

/-- An extension is attached, identifies itself as a classic controller and answers the
calibration request. -/
def classicHandshake : List Event :=
  [report [0xA1, 0x20, 0, 0, 0x02],
    report [0xA1, 0x21, 0, 0, 0x30, 0, 0xFC, 0xA4, 0x20, 0x01, 0x01],
    report [0xA1, 0x21, 0, 0, 0xF0, 0, 0x20]]

/-- LEFT and RIGHT are pressed, in a report of either driver. -/
def leftAndRight : Bytes := fun i =>
  [0xA1, 0x34, 0xFF, 0xFF, 0, 0, 0, 0, 0x7F, 0xFD, 0, 0, 0x7F, 0xFD].getD i 0

/-- After the handshake, for two opposite directions. -/
theorem classic_decoding_both_sides :
    ∃ trace device' calls pad' proCalls sent proSent,
      Trace.after classicHandshake = some trace ∧
      handlePacket leftAndRight trace.device = some (device', calls) ∧
      calls.filterMap DriverCall.sentState = [sent] ∧
      WiiUPro.handlePacket leftAndRight 23 (WiiUPro.construct fun _ => ⟨0, 0, 0, 0⟩).1 =
        some (pad', proCalls) ∧
      proCalls.filterMap DriverCall.sentState = [proSent] ∧
      buttonValues sent = buttonValues proSent := by
  obtain ⟨trace, pad, hAfter, hRun, hSame⟩ := classic_decoding.2 classicHandshake
    (fun _ => ⟨0, 0, 0, 0⟩) [] leftAndRight leftAndRight
  have hType : (Trace.after classicHandshake).map (fun trace => trace.device.exp.type) =
      some .classic := by decide +kernel
  rw [hAfter] at hType
  obtain rfl := Option.some.inj hRun
  obtain ⟨device', calls, pad', proCalls, sent, proSent, hSent⟩ :=
    hSame (Option.some.inj hType) rfl rfl rfl rfl
  exact ⟨trace, device', calls, pad', proCalls, sent, proSent, hAfter, hSent⟩

end WiiMote
end MFiWrapper
