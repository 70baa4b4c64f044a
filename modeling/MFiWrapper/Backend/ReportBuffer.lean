import MFiWrapper.Backend.PadCalls

/-!
# What is behind a report in the buffer

The HID manager has every report written over the previous ones and passes its
size, but two of the drivers do not look at the size.  `Driver.Covers` says which
reports are long enough for a driver in a given state to ignore what earlier
reports have left behind them.
-/

namespace MFiWrapper
namespace HIDPad

open Library Wiimote

/-- `Connection::data` when a report has arrived over the rest of earlier ones. -/
def reportBuffer (report : List UInt8) (rest : Bytes) : Bytes := fun i =>
  if i = 0 then 0 else if i ≤ report.length then report.getD (i - 1) 0 else rest i

/-- The call in `DeviceReport`. -/
def deviceReport (report : List UInt8) (rest : Bytes) : PadCall :=
  .handlePacket (reportBuffer report rest) (UInt16.ofNat (report.length + 1))

/-- What the driver does with the report is the same whatever is behind it. -/
def NoLeak (driver : Driver) (statics : Statics) (report : List UInt8) : Prop :=
  ∀ rest₁ rest₂ : Bytes,
    driver.call statics (deviceReport report rest₁) =
      driver.call statics (deviceReport report rest₂)

/-- The identification of a classic controller. -/
def classicId : List UInt8 := [0xA4, 0x20, 0x01, 0x01]

/-- The report id is known, and with it all bytes that the Wii Remote driver looks at:
the buttons, the attachment bit of a status report when it is waited for, the
identification unless it is the wrong one already, and the data of a classic
controller. -/
structure CoversRemote (device : WiimoteT) (report : List UInt8) : Prop where
  id : report ≠ []
  buttons : report.getD 0 0 ∈ [0x30, 0x21, 0x20, 0x34] → 3 ≤ report.length
  status : report.getD 0 0 = 0x20 → device.handshakeState = 1 → 4 ≤ report.length
  identification : report.getD 0 0 = 0x21 → device.handshakeState = 4 →
    10 ≤ report.length ∨
      ∃ i < 4, 7 + i ≤ report.length ∧ report.getD (6 + i) 0 ≠ classicId.getD i 0
  extension : report.getD 0 0 = 0x34 → device.exp.type = .classic → 9 ≤ report.length

/-- The report is as long as the driver needs it. -/
def Driver.Covers (driver : Driver) (report : List UInt8) : Prop :=
  match driver with
  | .playstation3 _ => 26 ≤ report.length
  | .wiiMote device => CoversRemote device report
  -- these look at the size first
  | .dualShock4 _ | .wiiUPro _ => True
  | .dummy => True

variable {report : List UInt8} {rest rest₁ rest₂ data₁ data₂ : Bytes} {i : Nat}
  {statics : Statics}

theorem reportBuffer_inside (hPos : 0 < i) (hInside : i ≤ report.length) :
    reportBuffer report rest i = report.getD (i - 1) 0 := by
  rw [reportBuffer, if_neg (by omega), if_pos hInside]

theorem reportBuffer_beyond (hBeyond : report.length < i) :
    reportBuffer report rest i = rest i := by
  rw [reportBuffer, if_neg (by omega), if_neg (by omega)]

theorem reportBuffer_agree (hInside : i ≤ report.length) :
    reportBuffer report rest₁ i = reportBuffer report rest₂ i := by
  rcases Nat.eq_zero_or_pos i with rfl | hPos
  · rfl
  · rw [reportBuffer_inside hPos hInside, reportBuffer_inside hPos hInside]

/-- A size that is compared with a constant is the size of the report, unless it has
wrapped and the report is longer still. -/
theorem length_of_size {n : Nat} (hn : n < 65536)
    (hSize : UInt16.ofNat (report.length + 1) = UInt16.ofNat n) : n ≤ report.length + 1 := by
  have hNat := congrArg UInt16.toNat hSize
  simp only [UInt16.toNat_ofNat'] at hNat
  omega

/-! ## Reports that are long enough -/

theorem playstation3_noLeak (pad : Playstation3) (hLength : 26 ≤ report.length) :
    NoLeak (.playstation3 pad) statics report := by
  intro rest₁ rest₂
  have hAgree {i : Nat} (hi : i ≤ 26) :
      reportBuffer report rest₁ i = reportBuffer report rest₂ i :=
    reportBuffer_agree (hi.trans hLength)
  have hPacket : pad.handlePacket statics.playstation3 (reportBuffer report rest₁) =
      pad.handlePacket statics.playstation3 (reportBuffer report rest₂) := by
    simp only [Playstation3.handlePacket, Playstation3.handleInput, Playstation3.inputState,
      hAgree, Nat.reduceLeDiff]
  simp only [deviceReport, Driver.call, hPacket]

theorem dualShock4_noLeak (pad : DualShock4) : NoLeak (.dualShock4 pad) statics report := by
  intro rest₁ rest₂
  have hPacket : pad.handlePacket statics.dualShock4 (reportBuffer report rest₁)
        (UInt16.ofNat (report.length + 1)) =
      pad.handlePacket statics.dualShock4 (reportBuffer report rest₂)
        (UInt16.ofNat (report.length + 1)) := by
    rw [DualShock4.handlePacket_eq, DualShock4.handlePacket_eq]
    by_cases hSize : UInt16.ofNat (report.length + 1) = 79
    · have hLength : 79 ≤ report.length + 1 := length_of_size (by decide) hSize
      have hAgree {i : Nat} (hi : i ≤ 10) :
          reportBuffer report rest₁ i = reportBuffer report rest₂ i :=
        reportBuffer_agree (by omega)
      have hAccepts : DualShock4.Accepts (reportBuffer report rest₁)
            (UInt16.ofNat (report.length + 1)) ↔
          DualShock4.Accepts (reportBuffer report rest₂) (UInt16.ofNat (report.length + 1)) := by
        simp only [DualShock4.Accepts, hAgree, Nat.reduceLeDiff]
      simp only [DualShock4.next, DualShock4.answer, DualShock4.sentState, hAgree,
        Nat.reduceLeDiff, if_congr hAccepts rfl rfl]
    · have hRejects (data : Bytes) :
          ¬ DualShock4.Accepts data (UInt16.ofNat (report.length + 1)) := fun h => hSize h.1
      simp only [DualShock4.next, DualShock4.answer, if_neg (hRejects _)]
  simp only [deviceReport, Driver.call, hPacket]

theorem wiiUPro_noLeak (pad : WiiUPro) : NoLeak (.wiiUPro pad) statics report := by
  intro rest₁ rest₂
  have hPacket : WiiUPro.handlePacket (reportBuffer report rest₁)
        (UInt16.ofNat (report.length + 1)) pad =
      WiiUPro.handlePacket (reportBuffer report rest₂)
        (UInt16.ofNat (report.length + 1)) pad := by
    by_cases hSize : UInt16.ofNat (report.length + 1) = 23
    · have hLength : 23 ≤ report.length + 1 := length_of_size (by decide) hSize
      have hAgree {i : Nat} (hi : i ≤ 14) :
          reportBuffer report rest₁ i = reportBuffer report rest₂ i :=
        reportBuffer_agree (by omega)
      have hAccepts : WiiUPro.Accepts (reportBuffer report rest₁)
            (UInt16.ofNat (report.length + 1)) ↔
          WiiUPro.Accepts (reportBuffer report rest₂) (UInt16.ofNat (report.length + 1)) := by
        simp only [WiiUPro.Accepts, hAgree, Nat.reduceLeDiff]
      have hFetch {x : Nat} (hx : x ≤ 13) : WiiUPro.fetch16 (reportBuffer report rest₁) x =
          WiiUPro.fetch16 (reportBuffer report rest₂) x := by
        rw [WiiUPro.fetch16, WiiUPro.fetch16, hAgree (by omega), hAgree (by omega)]
      have hInput (pad : WiiUPro) : WiiUPro.handleInput (reportBuffer report rest₁) pad =
          WiiUPro.handleInput (reportBuffer report rest₂) pad := by
        simp only [WiiUPro.handleInput, WiiUPro.sendInput, WiiUPro.axisTable, WiiUPro.axisTurn,
          List.foldlM_cons, List.foldlM_nil, hFetch, hAgree, Nat.reduceLeDiff]
      simp only [WiiUPro.handlePacket, hInput, if_congr (not_congr hAccepts) rfl rfl]
    · have hRejects (data : Bytes) :
          ¬ WiiUPro.Accepts data (UInt16.ofNat (report.length + 1)) := fun h => hSize h.1
      rw [WiiUPro.handlePacket_rejected pad (hRejects _),
        WiiUPro.handlePacket_rejected pad (hRejects _)]
  simp only [deviceReport, Driver.call, hPacket]

theorem pressedButtons_congr (device : WiimoteT) (hHigh : data₁ 2 = data₂ 2)
    (hLow : data₁ 3 = data₂ 3) :
    wiimotePressedButtons device (data₁.drop 2) = wiimotePressedButtons device (data₂.drop 2) := by
  simp only [wiimotePressedButtons, bigEndianShort, Bytes.drop, Nat.reduceAdd, hHigh, hLow]

/-- What the driver of the Wii Remote looks at in a report. -/
theorem wiiMote_handlePacket_congr {device : WiimoteT} (hId : data₁ 1 = data₂ 1)
    (hButtons : data₁ 1 ∈ [0x30, 0x21, 0x20, 0x34] → data₁ 2 = data₂ 2 ∧ data₁ 3 = data₂ 3)
    (hStatus : data₁ 1 = 0x20 → device.handshakeState = 1 → data₁ 4 = data₂ 4)
    (hIdentify : data₁ 1 = 0x21 → device.handshakeState = 4 →
      (bigEndianLong (data₁.drop 7) = 0xa4200101 ↔ bigEndianLong (data₂.drop 7) = 0xa4200101))
    (hExtension : data₁ 1 = 0x34 → device.exp.type = .classic →
      ∀ i, i ≤ 9 → data₁ i = data₂ i) :
    WiiMote.handlePacket data₁ device = WiiMote.handlePacket data₂ device := by
  have hReport : WiiMote.handleReport data₁ device = WiiMote.handleReport data₂ device := by
    simp only [WiiMote.handleReport, ← hId]
    split_ifs with hButton hRead hRequest hMore
    · obtain ⟨hHigh, hLow⟩ := hButtons (by simp [hButton])
      rw [pressedButtons_congr device hHigh hLow]
    · obtain ⟨hHigh, hLow⟩ := hButtons (by simp [hRead])
      rw [pressedButtons_congr device hHigh hLow]
      have hDrop (data : Bytes) : (data.drop 2).drop 5 = data.drop 7 := data.drop_drop 2 5
      -- only the turn that identifies the extension looks at a read reply
      have hTurn : handshakeTurn 0x21 (some (data₁.drop 7))
            (wiimotePressedButtons device (data₂.drop 2)) =
          handshakeTurn 0x21 (some (data₂.drop 7))
            (wiimotePressedButtons device (data₂.drop 2)) :=
        handshakeTurn_congr (fun h => absurd h (by decide)) fun _ => hIdentify hRead
      rw [hDrop, hDrop, wiimoteHandshake_congr hTurn]
    · obtain ⟨hHigh, hLow⟩ := hButtons (by simp [hRequest])
      -- only the turn that waits for the status looks at one
      have hTurn : handshakeTurn 0x20 (some (data₁.drop 2))
            (wiimotePressedButtons device (data₂.drop 2)) =
          handshakeTurn 0x20 (some (data₂.drop 2))
            (wiimotePressedButtons device (data₂.drop 2)) :=
        handshakeTurn_congr (fun _ => hStatus hRequest) fun h => absurd h (by decide)
      rw [pressedButtons_congr device hHigh hLow, wiimoteHandshake_congr hTurn]
    · obtain ⟨hHigh, hLow⟩ := hButtons (by simp [hMore])
      rw [pressedButtons_congr device hHigh hLow]
      have hEvent : wiimoteHandleExpansion (wiimotePressedButtons device (data₂.drop 2))
            ((data₁.drop 2).drop 2) =
          wiimoteHandleExpansion (wiimotePressedButtons device (data₂.drop 2))
            ((data₂.drop 2).drop 2) := by
        unfold wiimoteHandleExpansion
        split
        · have hAgree {i : Nat} (hi : i ≤ 9) := hExtension hMore ‹_› i hi
          simp only [classicCtrlEvent, bigEndianShort, rawLeftX, rawLeftY, rawRightX, rawRightY,
            Bytes.drop, Nat.reduceAdd, hAgree, Nat.reduceLeDiff]
        · rfl
      rw [hEvent]
    · rfl
  rw [WiiMote.handlePacket, WiiMote.handlePacket, hReport]

/-- The four bytes that identify a classic controller. -/
theorem bigEndianLong_eq_classicId (data : Bytes) :
    bigEndianLong data = 0xa4200101 ↔ ∀ i < 4, data i = classicId.getD i 0 := by
  have hBytes := And.intro (data 0).toNat_lt
    (And.intro (data 1).toNat_lt (And.intro (data 2).toNat_lt (data 3).toNat_lt))
  have hValue : bigEndianLong data = 0xa4200101 ↔
      (data 3).toNat + 256 * ((data 2).toNat + 256 * ((data 1).toNat + 256 * (data 0).toNat)) =
        0xa4200101 := by
    rw [bigEndianLong, ← UInt32.toNat_inj, UInt32.toNat_ofNat']
    simp only [readLE_cons, readLE_nil, UInt32.reduceToNat]
    omega
  have hFour : (∀ i < 4, data i = classicId.getD i 0) ↔
      (data 0).toNat = 0xA4 ∧ (data 1).toNat = 0x20 ∧ (data 2).toNat = 0x01 ∧
        (data 3).toNat = 0x01 := by
    constructor
    · intro h
      rw [h 0 (by decide), h 1 (by decide), h 2 (by decide), h 3 (by decide)]
      decide
    · rintro ⟨h₀, h₁, h₂, h₃⟩ i hi
      rw [← UInt8.toNat_inj]
      interval_cases i
      · exact h₀
      · exact h₁
      · exact h₂
      · exact h₃
  rw [hValue, hFour]
  omega

theorem wiiMote_noLeak {device : WiimoteT} (hCovers : CoversRemote device report) :
    NoLeak (.wiiMote device) statics report := by
  intro rest₁ rest₂
  have hPos : 1 ≤ report.length := List.length_pos_of_ne_nil hCovers.id
  have hId (rest : Bytes) : reportBuffer report rest 1 = report.getD 0 0 :=
    reportBuffer_inside (by decide) hPos
  have hPacket : WiiMote.handlePacket (reportBuffer report rest₁) device =
      WiiMote.handlePacket (reportBuffer report rest₂) device := by
    apply wiiMote_handlePacket_congr
    · rw [hId, hId]
    · intro hButtons
      have hLength := hCovers.buttons (hId rest₁ ▸ hButtons)
      exact ⟨reportBuffer_agree (by omega), reportBuffer_agree (by omega)⟩
    · intro hStatus hState
      exact reportBuffer_agree (hCovers.status (hId rest₁ ▸ hStatus) hState)
    · intro hRead hState
      rw [bigEndianLong_eq_classicId, bigEndianLong_eq_classicId]
      rcases hCovers.identification (hId rest₁ ▸ hRead) hState with
        hLength | ⟨i, hi, hInside, hWrong⟩
      · refine forall₂_congr fun i hi => ?_
        rw [Bytes.drop, Bytes.drop, reportBuffer_agree (by omega)]
      · have hOther (rest : Bytes) :
            ¬ ∀ i < 4, (reportBuffer report rest).drop 7 i = classicId.getD i 0 := by
          intro hAll
          have hByte := hAll i hi
          rw [Bytes.drop, reportBuffer_inside (by omega) hInside,
            show 7 + i - 1 = 6 + i by omega] at hByte
          exact hWrong hByte
        exact iff_of_false (hOther rest₁) (hOther rest₂)
    · intro hExtension hType i hi
      exact reportBuffer_agree (hi.trans (hCovers.extension (hId rest₁ ▸ hExtension) hType))
  simp only [deviceReport, Driver.call, hPacket]

theorem noLeak_of_covers {driver : Driver} (hCovers : driver.Covers report) :
    NoLeak driver statics report := by
  cases driver with
  | playstation3 pad => exact playstation3_noLeak pad hCovers
  | dualShock4 pad => exact dualShock4_noLeak pad
  | wiiMote device => exact wiiMote_noLeak hCovers
  | wiiUPro pad => exact wiiUPro_noLeak pad
  | dummy => exact fun _ _ => rfl

/-! ## Reports that are too short -/

/-- The last byte a PlayStation 3 report is read to is the pressure of a button. -/
theorem playstation3_leak (pad : Playstation3) (hShort : report.length < 26) :
    ¬ NoLeak (.playstation3 pad) statics report := by
  intro hNoLeak
  have hSame := hNoLeak (fun _ => 0) (fun _ => 255)
  simp only [deviceReport, Driver.call, Playstation3.handlePacket_eq, Option.map_some,
    Option.some.injEq, Prod.mk.injEq, List.append_cancel_left_eq] at hSame
  have hSent := congrArg (List.filterMap DriverCall.sentState) hSame.2.2
  rw [Playstation3.answer_sent, Playstation3.answer_sent, List.singleton_inj] at hSent
  have hSquare : Playstation3.sens (reportBuffer report (fun _ => 0) 26) =
      Playstation3.sens (reportBuffer report (fun _ => 255) 26) := congrArg (·.x) hSent
  rw [reportBuffer_beyond hShort, reportBuffer_beyond hShort] at hSquare
  revert hSquare
  decide +kernel

/-! ### The Wii Remote -/

/-- The lowest bit of a big-endian number is in its second byte. -/
theorem bigEndianShort_mod_two (msg : Bytes) :
    (bigEndianShort msg).toNat % 2 = (msg 1).toNat % 2 := by
  have hHigh := (msg 0).toNat_lt
  have hLow := (msg 1).toNat_lt
  simp only [bigEndianShort, readLE_cons, readLE_nil, UInt16.toNat_ofNat']
  omega

theorem and_mod_two (x y : UInt16) (hOdd : y.toNat % 2 = 1) :
    (x &&& y).toNat % 2 = x.toNat % 2 := by
  have hAnd := Nat.and_mod_two_pow (a := x.toNat) (b := y.toNat) (n := 1)
  rw [UInt16.toNat_and]
  rw [pow_one, hOdd, Nat.and_one_is_mod, Nat.mod_mod] at hAnd
  exact hAnd

/-- A byte that is not in the report decides about the buttons. -/
theorem pressedButtons_ne (device : WiimoteT) (hLow : (data₁ 3).toNat % 2 ≠ (data₂ 3).toNat % 2) :
    (wiimotePressedButtons device (data₁.drop 2)).btns ≠
      (wiimotePressedButtons device (data₂.drop 2)).btns := by
  intro hSame
  have hParity := congrArg (fun btns : UInt16 => btns.toNat % 2) hSame
  simp only [wiimotePressedButtons] at hParity
  rw [and_mod_two _ _ (by decide), and_mod_two _ _ (by decide), bigEndianShort_mod_two,
    bigEndianShort_mod_two] at hParity
  exact hLow hParity

/-- Whatever else the four reports with buttons do, the buttons end up in the
device. -/
theorem handlePacket_btns {device device' : WiimoteT} {phase : Phase} {data : Bytes}
    {calls : List DriverCall} (hRep : Represents device phase)
    (hId : data 1 ∈ [0x30, 0x21, 0x20, 0x34])
    (hHandle : WiiMote.handlePacket data device = some (device', calls)) :
    device'.btns = (wiimotePressedButtons device (data.drop 2)).btns := by
  rw [WiiMote.handlePacket] at hHandle
  obtain ⟨⟨handled, reports⟩, hReport, hReturn⟩ := Option.bind_eq_some_iff.mp hHandle
  obtain rfl : handled = device' := congrArg Prod.fst (Option.some.inj hReturn)
  have hHandshake (event : UInt8) (bytes : Bytes)
      (hCall : (wiimoteHandshake (wiimotePressedButtons device (data.drop 2)) event
        (some bytes)).map (·.2) = some (handled, reports)) :
      handled.btns = (wiimotePressedButtons device (data.drop 2)).btns := by
    obtain ⟨value, wm, calls, hCalled, hOutcome⟩ :=
      wiimoteHandshake_refines (WiiMote.represents_pressed hRep (data.drop 2)) event bytes
    rw [hCalled] at hCall
    obtain rfl : wm = handled := congrArg Prod.fst (Option.some.inj hCall)
    exact hOutcome.btns
  rw [WiiMote.handleReport] at hReport
  split_ifs at hReport with hButton hRead hStatus hExtension
  · obtain rfl : wiimotePressedButtons device (data.drop 2) = handled :=
      congrArg Prod.fst (Option.some.inj hReport)
    rfl
  · exact hHandshake 0x21 _ (by rw [Option.map_eq_bind]; exact hReport)
  · exact hHandshake 0x20 _ (by rw [Option.map_eq_bind]; exact hReport)
  · obtain ⟨wm, hMore, hReturn⟩ := Option.bind_eq_some_iff.mp hReport
    obtain rfl : wm = handled := congrArg Prod.fst (Option.some.inj hReturn)
    unfold wiimoteHandleExpansion at hMore
    split at hMore
    · obtain ⟨classic, -, hMoved⟩ := Option.bind_eq_some_iff.mp hMore
      rw [← Option.some.inj hMoved]
    · rw [← Option.some.inj hMore]
  · simp [hButton, hRead, hStatus, hExtension] at hId

/-- Without a leak the device ends up in the same state. -/
theorem NoLeak.device {device device₁ device₂ : WiimoteT} {calls₁ calls₂ : List DriverCall}
    (hNoLeak : NoLeak (.wiiMote device) statics report)
    (h₁ : WiiMote.handlePacket (reportBuffer report rest₁) device = some (device₁, calls₁))
    (h₂ : WiiMote.handlePacket (reportBuffer report rest₂) device = some (device₂, calls₂)) :
    device₁ = device₂ := by
  have hSame := hNoLeak rest₁ rest₂
  simp only [deviceReport, Driver.call, h₁, h₂, Option.map_some, Option.some.injEq,
    Prod.mk.injEq, Driver.wiiMote.injEq] at hSame
  exact hSame.2.1

variable {device : WiimoteT}

/-- A report with buttons that ends before them, or one without an id: the bytes
behind it can be those of a report with other buttons. -/
theorem wiiMote_leak_buttons (hSound : (Driver.wiiMote device).Sound)
    (hShort : report.length < 3)
    (hId : report = [] ∨ report.getD 0 0 ∈ [0x30, 0x21, 0x20, 0x34]) :
    ¬ NoLeak (.wiiMote device) statics report := by
  intro hNoLeak
  let rest (low : UInt8) : Bytes := fun i => if i = 3 then low else 0x30
  obtain ⟨phase, hRep, hHandled⟩ := hSound.handled
  have hKnown (low : UInt8) : reportBuffer report (rest low) 1 ∈ [0x30, 0x21, 0x20, 0x34] := by
    rcases hId with rfl | hId
    · simp [reportBuffer, rest]
    · by_cases hEmpty : report = []
      · simp [reportBuffer, rest, hEmpty]
      · rw [reportBuffer_inside (by decide) (List.length_pos_of_ne_nil hEmpty)]
        exact hId
  obtain ⟨device₁, calls₁, h₁, -⟩ := hHandled (reportBuffer report (rest 0))
  obtain ⟨device₂, calls₂, h₂, -⟩ := hHandled (reportBuffer report (rest 1))
  refine pressedButtons_ne device ?_ ((handlePacket_btns hRep (hKnown 0) h₁).symm.trans
    ((congrArg WiimoteT.btns (hNoLeak.device h₁ h₂)).trans (handlePacket_btns hRep (hKnown 1) h₂)))
  rw [reportBuffer_beyond hShort, reportBuffer_beyond hShort]
  decide

/-- A status report that is waited for and ends before the attachment bit. -/
theorem wiiMote_leak_status (hSound : (Driver.wiiMote device).Sound)
    (hButtons : 3 ≤ report.length) (hShort : report.length < 4) (hId : report.getD 0 0 = 0x20)
    (hState : device.handshakeState = 1) : ¬ NoLeak (.wiiMote device) statics report := by
  intro hNoLeak
  obtain ⟨phase, hRep, hHandled⟩ := hSound.handled
  have hSignal (flags : UInt8) :
      WiiMote.Event.signal (.handlePacket (reportBuffer report fun _ => flags)) =
        if flags &&& 0x02 == 0x02 then .attached else .detached := by
    have hStatus : reportBuffer report (fun _ => flags) 1 = 0x20 := by
      rw [reportBuffer_inside (by decide) (by omega)]
      exact hId
    rw [WiiMote.Event.signal, hStatus, if_neg (by decide), if_pos rfl, WiiMote.attachmentBit,
      reportBuffer_beyond hShort]
  obtain ⟨device₁, calls₁, h₁, hRep₁⟩ := hHandled (reportBuffer report fun _ => 0x02)
  obtain ⟨device₂, calls₂, h₂, hRep₂⟩ := hHandled (reportBuffer report fun _ => 0x00)
  rw [hSignal] at hRep₁ hRep₂
  have hDiffer : phase.next .attached ≠ phase.next .detached := by
    rw [hRep.handshakeState] at hState
    cases phase <;> first | decide | cases hState
  exact hDiffer (represents_unique (hNoLeak.device h₁ h₂ ▸ hRep₁) hRep₂)

/-- The reply to the identification request that is right as far as it goes, and ends
before the last byte. -/
theorem wiiMote_leak_identification (hSound : (Driver.wiiMote device).Sound)
    (hButtons : 3 ≤ report.length) (hShort : report.length < 10)
    (hId : report.getD 0 0 = 0x21) (hState : device.handshakeState = 4)
    (hRight : ∀ i < 4, 7 + i ≤ report.length → report.getD (6 + i) 0 = classicId.getD i 0) :
    ¬ NoLeak (.wiiMote device) statics report := by
  intro hNoLeak
  obtain ⟨phase, hRep, hHandled⟩ := hSound.handled
  have hRead (rest : Bytes) : reportBuffer report rest 1 = 0x21 := by
    rw [reportBuffer_inside (by decide) (by omega)]
    exact hId
  -- the rest of the identification, left over from an earlier reply
  have hClassic : bigEndianLong
      ((reportBuffer report fun i => classicId.getD (i - 7) 0).drop 7) = 0xa4200101 := by
    rw [bigEndianLong_eq_classicId]
    intro i hi
    rw [Bytes.drop]
    rcases Nat.lt_or_ge report.length (7 + i) with hBeyond | hInside
    · rw [reportBuffer_beyond hBeyond, Nat.add_sub_cancel_left]
    · rw [reportBuffer_inside (by omega) hInside, show 7 + i - 1 = 6 + i by omega]
      exact hRight i hi hInside
  -- nothing left over: the last byte is not that of a classic controller
  have hOther : bigEndianLong ((reportBuffer report fun _ => 0).drop 7) ≠ 0xa4200101 := by
    rw [Ne, bigEndianLong_eq_classicId]
    intro hAll
    have hLast := hAll 3 (by decide)
    rw [Bytes.drop, reportBuffer_beyond (by omega)] at hLast
    revert hLast
    decide
  obtain ⟨device₁, calls₁, h₁, hRep₁⟩ :=
    hHandled (reportBuffer report fun i => classicId.getD (i - 7) 0)
  obtain ⟨device₂, calls₂, h₂, hRep₂⟩ := hHandled (reportBuffer report fun _ => 0)
  simp only [WiiMote.Event.signal, hRead, if_true, Wiimote.signal, hClassic, hOther, if_false,
    show ¬ (0x21 : UInt8) = 0x20 by decide] at hRep₁ hRep₂
  have hDiffer : phase.next .classicId ≠ phase.next .otherReply := by
    rw [hRep.handshakeState] at hState
    cases phase <;> first | decide | cases hState
  exact hDiffer (represents_unique (hNoLeak.device h₁ h₂ ▸ hRep₁) hRep₂)

/-- The buttons of a classic controller after an extension report. -/
theorem handlePacket_classic {device' : WiimoteT} {data : Bytes} {calls : List DriverCall}
    (hExtension : data 1 = 0x34) (hType : device.exp.type = .classic)
    (hHandle : WiiMote.handlePacket data device = some (device', calls)) :
    device'.exp.classic.btns = ~~~bigEndianShort (data.drop 8) &&& 0xFEFF := by
  rw [WiiMote.handlePacket] at hHandle
  obtain ⟨⟨handled, reports⟩, hReport, hReturn⟩ := Option.bind_eq_some_iff.mp hHandle
  obtain rfl : handled = device' := congrArg Prod.fst (Option.some.inj hReturn)
  rw [WiiMote.handleReport, if_neg (by rw [hExtension]; decide),
    if_neg (by rw [hExtension]; decide), if_neg (by rw [hExtension]; decide),
    if_pos hExtension] at hReport
  obtain ⟨wm, hMore, hReturn⟩ := Option.bind_eq_some_iff.mp hReport
  obtain rfl : wm = handled := congrArg Prod.fst (Option.some.inj hReturn)
  have hPressed : (wiimotePressedButtons device (data.drop 2)).exp.type = .classic := hType
  simp only [wiimoteHandleExpansion, hPressed] at hMore
  obtain ⟨classic, hEvent, hMoved⟩ := Option.bind_eq_some_iff.mp hMore
  rw [← Option.some.inj hMoved]
  simp only [classicCtrlEvent, Option.bind_eq_bind, Option.bind_eq_some_iff] at hEvent
  obtain ⟨leftX, -, leftY, -, rightX, -, rightY, -, hClassic⟩ := hEvent
  rw [← Option.some.inj hClassic]
  rw [Bytes.drop_drop, Bytes.drop_drop]

/-- The data of a classic controller that end before its buttons. -/
theorem wiiMote_leak_extension (hSound : (Driver.wiiMote device).Sound)
    (hButtons : 3 ≤ report.length) (hShort : report.length < 9)
    (hId : report.getD 0 0 = 0x34) (hType : device.exp.type = .classic) :
    ¬ NoLeak (.wiiMote device) statics report := by
  intro hNoLeak
  obtain ⟨phase, hRep, hHandled⟩ := hSound.handled
  have hMore (rest : Bytes) : reportBuffer report rest 1 = 0x34 := by
    rw [reportBuffer_inside (by decide) (by omega)]
    exact hId
  have hParity (rest : Bytes) : (~~~bigEndianShort ((reportBuffer report rest).drop 8) &&&
      0xFEFF).toNat % 2 = 1 - (rest 9).toNat % 2 := by
    have hBound := (bigEndianShort ((reportBuffer report rest).drop 8)).toNat_lt
    have hLow := bigEndianShort_mod_two ((reportBuffer report rest).drop 8)
    rw [Bytes.drop, reportBuffer_beyond (by omega), show 8 + 1 = 9 from rfl] at hLow
    rw [and_mod_two _ _ (by decide), UInt16.toNat_not, UInt16.size]
    omega
  obtain ⟨device₁, calls₁, h₁, -⟩ := hHandled (reportBuffer report fun _ => 0)
  obtain ⟨device₂, calls₂, h₂, -⟩ := hHandled (reportBuffer report fun _ => 1)
  have hSame := congrArg (fun wm : WiimoteT => wm.exp.classic.btns.toNat % 2)
    (hNoLeak.device h₁ h₂)
  simp only [handlePacket_classic (hMore _) hType h₁, handlePacket_classic (hMore _) hType h₂,
    hParity] at hSame
  revert hSame
  decide

theorem wiiMote_covers (hSound : (Driver.wiiMote device).Sound)
    (hNoLeak : NoLeak (.wiiMote device) statics report) : CoversRemote device report := by
  have hButtons (hId : report = [] ∨ report.getD 0 0 ∈ [0x30, 0x21, 0x20, 0x34]) :
      3 ≤ report.length := by
    by_contra hShort
    exact wiiMote_leak_buttons hSound (by omega) hId hNoLeak
  constructor
  · intro hEmpty
    have hLength := hButtons (.inl hEmpty)
    rw [hEmpty] at hLength
    exact absurd hLength (by decide)
  · exact fun hId => hButtons (.inr hId)
  · intro hId hState
    have hLength := hButtons (.inr (by rw [hId]; decide))
    by_contra hShort
    exact wiiMote_leak_status hSound hLength (by omega) hId hState hNoLeak
  · intro hId hState
    have hLength := hButtons (.inr (by rw [hId]; decide))
    by_contra hNot
    simp only [not_or, not_exists, not_and, not_not, not_le] at hNot
    exact wiiMote_leak_identification hSound hLength hNot.1 hId hState hNot.2 hNoLeak
  · intro hId hType
    have hLength := hButtons (.inr (by rw [hId]; decide))
    by_contra hShort
    exact wiiMote_leak_extension hSound hLength (by omega) hId hType hNoLeak

/-- For every driver, every state a constructed driver can be in and every report:
what the driver does is the same whatever earlier reports have left in the rest of
the buffer, if and only if the report covers what the driver looks at. -/
theorem noLeak_iff_covers {driver : Driver} (hSound : driver.Sound) (statics : Statics)
    (report : List UInt8) : NoLeak driver statics report ↔ driver.Covers report := by
  refine ⟨fun hNoLeak => ?_, noLeak_of_covers⟩
  cases driver with
  | playstation3 pad =>
      by_contra hShort
      exact playstation3_leak pad (Nat.lt_of_not_le hShort) hNoLeak
  | wiiMote device => exact wiiMote_covers hSound hNoLeak
  | dualShock4 pad => trivial
  | wiiUPro pad => trivial
  | dummy => trivial

/-- A complete PlayStation 3 report has 48 bytes after its id. -/
theorem noLeak_iff_covers_full_report :
    NoLeak (.playstation3 (Playstation3.construct false).1) .initial
        (1 :: List.replicate 48 0) ↔
      (Driver.playstation3 (Playstation3.construct false).1).Covers
        (1 :: List.replicate 48 0) :=
  have hSound : (Driver.playstation3 (Playstation3.construct false).1).Sound := trivial
  noLeak_iff_covers hSound .initial (1 :: List.replicate 48 0)

/-- A PlayStation 3 report of the id alone has the input of an earlier one sent again. -/
theorem short_report_leaks :
    ¬ ∀ (driver : Driver), driver.Sound → ∀ (statics : Statics) (report : List UInt8),
      NoLeak driver statics report := fun hAll =>
  have hShort : ([1] : List UInt8).length < 26 := by decide
  playstation3_leak (Playstation3.construct false).1 hShort
    (hAll (.playstation3 (Playstation3.construct false).1) trivial .initial [1])

end HIDPad
end MFiWrapper
