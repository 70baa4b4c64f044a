import MFiWrapper.Backend.PadCalls

/-!
# What the pads with a pause button send for their reports

The drivers of the PlayStation 3 pad, the DualShock 4 and the Wii U Pro Controller are
written separately, but have one plan: an output report that is due, a test of the
report, the pause button, the input state.  Here is that plan, as a machine that knows of
the button held and of the calibrations only, and the three drivers as instances of it.
-/

namespace MFiWrapper
namespace HIDPad

open Library

/-! ## The plan -/

/-- The classes that send `PausePressed`. -/
inductive PausePad
  | playstation3 | dualShock4 | wiiUPro
  deriving DecidableEq

/-- What the input side of a driver remembers. -/
structure InputMemory where
  pauseHeld : Bool
  calibration : StickAxis → Calibration
  calibrationInitialized : Bool

namespace PausePad

def kind : PausePad → Kind
  | .playstation3 => .playstation3
  | .dualShock4 => .dualShock4
  | .wiiUPro => .wiiUPro

/-- The report passes the test of the driver; that for the PlayStation 3 pad has none. -/
def accepts (aData : Bytes) (aSize : UInt16) : PausePad → Bool
  | .playstation3 => true
  | .dualShock4 => decide (aSize = 79 ∧ aData 2 = 0xC0 ∧ aData 3 = 0)
  | .wiiUPro => decide (aSize = 23 ∧ aData 1 = 0x34)

/-- The pause button is down in the report.  The buttons of the Wii U Pro Controller are
active-low. -/
def pauseDown (aData : Bytes) : PausePad → Bool
  | .playstation3 => aData 5 &&& 0x01 != 0
  | .dualShock4 => aData 10 &&& 0x01 != 0
  | .wiiUPro => aData 0x0C &&& 0x08 == 0

/-- The input state sent for an accepted report. -/
def packet (aData : Bytes) (memory : InputMemory) : PausePad → MFiWInputStatePacket ℚ
  | .playstation3 => Playstation3.sentState aData
  | .dualShock4 => DualShock4.sentState aData
  | .wiiUPro => WiiUPro.inputState (aData 0x0C ^^^ 0xFF) (aData 0x0D ^^^ 0xFF)
      (aData 0x0E ^^^ 0xFF)
      (WiiUPro.axesAfter memory.calibrationInitialized memory.calibration aData).2

/-- The memory after an accepted report. -/
def after (aData : Bytes) (memory : InputMemory) : PausePad → InputMemory
  | .playstation3 => { memory with pauseHeld := pauseDown aData .playstation3 }
  | .dualShock4 => { memory with pauseHeld := pauseDown aData .dualShock4 }
  | .wiiUPro =>
      ⟨pauseDown aData .wiiUPro,
        (WiiUPro.axesAfter memory.calibrationInitialized memory.calibration aData).1, true⟩

/-- The memory after a call. -/
def hear (pause : PausePad) (memory : InputMemory) : PadCall → InputMemory
  | .handlePacket aData aSize =>
      if pause.accepts aData aSize then pause.after aData memory else memory
  | .setPlayerIndex _ => memory

/-- The pause and input packets sent in a call. -/
def inputs (pause : PausePad) (memory : InputMemory) : PadCall → List DriverCall
  | .handlePacket aData aSize =>
      if pause.accepts aData aSize then
        (if !memory.pauseHeld && pause.pauseDown aData then [.sendPausePressed] else []) ++
          [.sendControllerState (pause.packet aData memory)]
      else []
  | .setPlayerIndex _ => []

/-- Those of a run. -/
def inputsOf (pause : PausePad) : InputMemory → List PadCall → List DriverCall
  | _, [] => []
  | memory, c :: calls => pause.inputs memory c ++ pause.inputsOf (pause.hear memory c) calls

/-- The call is an accepted report. -/
def isAccepted (pause : PausePad) : PadCall → Bool
  | .handlePacket aData aSize => pause.accepts aData aSize
  | .setPlayerIndex _ => false

/-- The state of the pause button in an accepted report. -/
def pauseOf (pause : PausePad) : PadCall → Option Bool
  | .handlePacket aData aSize =>
      if pause.accepts aData aSize then some (pause.pauseDown aData) else none
  | .setPlayerIndex _ => none

/-- The state of the pause button in the last accepted report. -/
def lastPause (pause : PausePad) (before : List PadCall) : Option Bool :=
  (before.filterMap pause.pauseOf).getLast?

end PausePad

def PadCall.isReport : PadCall → Bool
  | .handlePacket _ _ => true
  | .setPlayerIndex _ => false

/-- `SetReport` is due in a report: it is the first one, or the player index has been set
since the one before. -/
def setReportDue (before : List PadCall) : Bool :=
  match before.getLast? with
  | none => true
  | some c => !c.isReport

/-! ### Facts -/

theorem setReportDue_eq (before : List PadCall) :
    setReportDue before = (before.getLast?.map fun c => !c.isReport).getD true := by
  unfold setReportDue
  cases before.getLast? <;> rfl

namespace PausePad

variable (pause : PausePad)

theorem after_pauseHeld (aData : Bytes) (memory : InputMemory) :
    (pause.after aData memory).pauseHeld = pause.pauseDown aData := by
  cases pause <;> rfl

/-- The button that is held is that of the last accepted report. -/
theorem hear_pauseHeld (memory : InputMemory) (before : List PadCall) :
    (before.foldl pause.hear memory).pauseHeld =
      (pause.lastPause before).getD memory.pauseHeld := by
  induction before generalizing memory with
  | nil => rfl
  | cons c before ih =>
      rw [List.foldl_cons, ih, lastPause, lastPause, List.filterMap_cons]
      cases c with
      | setPlayerIndex aIndex => rfl
      | handlePacket aData aSize =>
          simp only [pauseOf, hear]
          split_ifs
          · rw [List.getLast?_cons, after_pauseHeld]
            cases (before.filterMap pause.pauseOf).getLast? <;> rfl
          · rfl

/-- Nothing is sent for a call that is not an accepted report, and nothing is kept. -/
theorem quiet_of_not_accepted {c : PadCall} (hNot : ¬ pause.isAccepted c = true)
    (memory : InputMemory) : pause.inputs memory c = [] ∧ pause.hear memory c = memory := by
  cases c with
  | setPlayerIndex aIndex => exact ⟨rfl, rfl⟩
  | handlePacket aData aSize => exact ⟨if_neg hNot, if_neg hNot⟩

/-- Only accepted reports count. -/
theorem inputsOf_filter (memory : InputMemory) (calls : List PadCall) :
    pause.inputsOf memory (calls.filter pause.isAccepted) = pause.inputsOf memory calls := by
  induction calls generalizing memory with
  | nil => rfl
  | cons c calls ih =>
      by_cases hAccepted : pause.isAccepted c = true
      · rw [List.filter_cons_of_pos hAccepted, inputsOf, inputsOf, ih]
      · obtain ⟨hNone, hKept⟩ := pause.quiet_of_not_accepted hAccepted memory
        rw [List.filter_cons_of_neg hAccepted, inputsOf, hNone, hKept, ih]
        rfl

end PausePad

/-! ## The drivers -/

/-- The call sends a pause or an input packet. -/
def isInput : DriverCall → Bool
  | .sendPausePressed | .sendControllerState _ => true
  | _ => false

namespace Driver

def inputMemory : Driver → InputMemory
  | .playstation3 pad => ⟨pad.pauseHeld, fun _ => Playstation3.calibration, true⟩
  | .dualShock4 pad => ⟨pad.pauseHeld, fun _ => DualShock4.calibration, true⟩
  | .wiiUPro pad => ⟨pad.pauseHeld, pad.calibration, pad.calibrationInitialized⟩
  | .wiiMote _ | .dummy => ⟨true, fun _ => ⟨0, 0, 0, 0⟩, false⟩

def needSetReport : Driver → Bool
  | .playstation3 pad => pad.needSetReport
  | .dualShock4 pad => pad.needSetReport
  | .wiiUPro pad => pad.needSetReport
  | .wiiMote _ | .dummy => false

/-- The calls of the private member `SetReport`. -/
def setReport (statics : Statics) : Driver → List DriverCall
  | .playstation3 pad => (pad.setReport statics.playstation3).2
  | .dualShock4 pad => (pad.setReport statics.dualShock4).2
  | .wiiUPro pad => pad.setReport
  | .wiiMote _ | .dummy => []

end Driver

/-- The driver is of the class. -/
def PausePad.Serves : PausePad → Driver → Prop
  | .playstation3, .playstation3 _ => True
  | .dualShock4, .dualShock4 _ => True
  | .wiiUPro, .wiiUPro _ => True
  | _, _ => False

theorem Driver.setReport_all (driver : Driver) (statics : Statics) :
    ∀ call ∈ driver.setReport statics, isInput call = false := by
  cases driver with
  | playstation3 pad => simp [setReport, Playstation3.setReport, isInput]
  | dualShock4 pad => simp [setReport, DualShock4.setReport, isInput]
  | wiiMote device => simp [setReport]
  | dummy => simp [setReport]
  | wiiUPro pad =>
      simp only [setReport, WiiUPro.setReport]
      split_ifs <;> simp [isInput]

theorem PausePad.inputs_all (pause : PausePad) (memory : InputMemory) (c : PadCall) :
    ∀ call ∈ pause.inputs memory c, isInput call = true := by
  cases c with
  | setPlayerIndex aIndex => simp [inputs]
  | handlePacket aData aSize =>
      simp only [inputs]
      split_ifs <;> simp [isInput]

/-- The output report, if it is due in the call. -/
def Driver.outputs (statics : Statics) (driver : Driver) (c : PadCall) : List DriverCall :=
  if c.isReport && driver.needSetReport then driver.setReport statics else []

/-- After the call the driver remembers what the plan does. -/
structure Follows (pause : PausePad) (driver : Driver) (c : PadCall) (driver' : Driver) :
    Prop where
  serves : pause.Serves driver'
  sound : driver'.Sound
  memory : driver'.inputMemory = pause.hear driver.inputMemory c
  due : driver'.needSetReport = !c.isReport

/-- The call completes, with the output report that is due and with what the plan sends. -/
def Answers (pause : PausePad) (driver : Driver) (c : PadCall) : Prop :=
  ∃ driver', Follows pause driver c driver' ∧ ∀ statics, ∃ statics',
    driver.call statics c = some (statics', driver',
      driver.outputs statics c ++ pause.inputs driver.inputMemory c)

theorem playstation3_answers (pad : Playstation3) (c : PadCall) :
    Answers .playstation3 (.playstation3 pad) c := by
  cases c with
  | setPlayerIndex aIndex =>
      exact ⟨.playstation3 (pad.setPlayerIndex aIndex), ⟨trivial, trivial, rfl, rfl⟩,
        fun statics => ⟨statics, rfl⟩⟩
  | handlePacket aData aSize =>
      refine ⟨.playstation3 (pad.next aData), ⟨trivial, trivial, rfl, rfl⟩, fun statics => ?_⟩
      rw [Driver.call, Playstation3.handlePacket_eq]
      exact ⟨_, rfl⟩

theorem dualShock4_answers (pad : DualShock4) (c : PadCall) :
    Answers .dualShock4 (.dualShock4 pad) c := by
  cases c with
  | setPlayerIndex aIndex =>
      exact ⟨.dualShock4 (pad.setPlayerIndex aIndex), ⟨trivial, trivial, rfl, rfl⟩,
        fun statics => ⟨statics, rfl⟩⟩
  | handlePacket aData aSize =>
      have hTest : PausePad.accepts aData aSize .dualShock4 = true ↔
          DualShock4.Accepts aData aSize := decide_eq_true_iff
      have hAnswer : pad.answer aData aSize =
          PausePad.dualShock4.inputs (Driver.dualShock4 pad).inputMemory
            (.handlePacket aData aSize) :=
        if_congr hTest.symm rfl rfl
      refine ⟨.dualShock4 (pad.next aData aSize), ⟨trivial, trivial, ?_, rfl⟩, fun statics => ?_⟩
      · simp only [Driver.inputMemory, DualShock4.next, PausePad.hear, hTest]
        split_ifs <;> rfl
      · rw [Driver.call, DualShock4.handlePacket_eq, hAnswer]
        exact ⟨_, rfl⟩

/-- The home button is tested in the inverted byte. -/
theorem home_eq (byte : UInt8) : ((byte ^^^ 0xFF) &&& 0x8 != 0) = (byte &&& 0x08 == 0) := by
  obtain ⟨byte⟩ := byte
  revert byte
  decide

/-- A constructed Wii U Pro Controller driver stays one. -/
theorem wiiUPro_sound {pad pad' : WiiUPro} (hSound : (Driver.wiiUPro pad).Sound)
    {statics : Statics} {c : PadCall} {calls : List DriverCall}
    (hCall : (Driver.wiiUPro pad).call statics c = some (statics, .wiiUPro pad', calls)) :
    (Driver.wiiUPro pad').Sound := by
  obtain ⟨other, otherCalls, hOther, hSound'⟩ := hSound.wiiUPro c
  have hSame := Option.some.inj ((hOther statics).symm.trans hCall)
  simp only [Prod.mk.injEq, Driver.wiiUPro.injEq] at hSame
  rw [← hSame.2.1]
  exact hSound'

/-- The Wii U Pro Controller driver after an accepted report. -/
def wiiUProNext (aData : Bytes) (pad : WiiUPro) : WiiUPro :=
  { pad with
    pauseHeld := PausePad.wiiUPro.pauseDown aData
    needSetReport := false
    calibration := (WiiUPro.axesAfter pad.calibrationInitialized pad.calibration aData).1
    calibrationInitialized := true }

theorem wiiUPro_accepted {pad : WiiUPro} (hSound : (Driver.wiiUPro pad).Sound) {aData : Bytes}
    {aSize : UInt16} (hAccepts : WiiUPro.Accepts aData aSize) :
    WiiUPro.handlePacket aData aSize pad = some (wiiUProNext aData pad,
      (if pad.needSetReport then pad.setReport else []) ++
        ((if !pad.pauseHeld && PausePad.wiiUPro.pauseDown aData then [.sendPausePressed] else []) ++
          [.sendControllerState
            (PausePad.wiiUPro.packet aData (Driver.wiiUPro pad).inputMemory)])) := by
  obtain ⟨trace, rfl, hInv⟩ := hSound
  rw [WiiUPro.handlePacket_accepted _ hAccepts (hInv.valid aData)]
  simp only [WiiUPro.sendInput, home_eq]
  rfl

theorem wiiUPro_answers {pad : WiiUPro} (hSound : (Driver.wiiUPro pad).Sound) (c : PadCall) :
    Answers .wiiUPro (.wiiUPro pad) c := by
  -- what is left to show of each kind of call is the driver after it
  have hAnswers (pad' : WiiUPro) (hMemory : (Driver.wiiUPro pad').inputMemory =
        PausePad.wiiUPro.hear (Driver.wiiUPro pad).inputMemory c)
      (hDue : pad'.needSetReport = !c.isReport)
      (hCall : ∀ statics, (Driver.wiiUPro pad).call statics c = some (statics, .wiiUPro pad',
        (Driver.wiiUPro pad).outputs statics c ++
          PausePad.wiiUPro.inputs (Driver.wiiUPro pad).inputMemory c)) :
      Answers .wiiUPro (.wiiUPro pad) c :=
    ⟨.wiiUPro pad', ⟨trivial, wiiUPro_sound hSound (hCall .initial), hMemory, hDue⟩,
      fun statics => ⟨statics, hCall statics⟩⟩
  cases c with
  | setPlayerIndex aIndex => exact hAnswers (pad.setPlayerIndex aIndex) rfl rfl fun _ => rfl
  | handlePacket aData aSize =>
      have hTest : PausePad.accepts aData aSize .wiiUPro = true ↔ WiiUPro.Accepts aData aSize :=
        decide_eq_true_iff
      by_cases hAccepts : WiiUPro.Accepts aData aSize
      · have hAccepted := hTest.mpr hAccepts
        refine hAnswers (wiiUProNext aData pad) (if_pos hAccepted).symm rfl fun statics => ?_
        rw [Driver.call, wiiUPro_accepted hSound hAccepts, PausePad.inputs, if_pos hAccepted]
        rfl
      · have hRejected := mt hTest.mp hAccepts
        refine hAnswers { pad with needSetReport := false } (if_neg hRejected).symm rfl
          fun statics => ?_
        rw [Driver.call, WiiUPro.handlePacket_rejected pad hAccepts, PausePad.inputs,
          if_neg hRejected, List.append_nil]
        rfl

theorem answers {pause : PausePad} {driver : Driver} (hServes : pause.Serves driver)
    (hSound : driver.Sound) (c : PadCall) : Answers pause driver c := by
  cases pause with
  | playstation3 =>
      cases driver with
      | playstation3 pad => exact playstation3_answers pad c
      | dualShock4 _ | wiiMote _ | wiiUPro _ | dummy => cases hServes
  | dualShock4 =>
      cases driver with
      | dualShock4 pad => exact dualShock4_answers pad c
      | playstation3 _ | wiiMote _ | wiiUPro _ | dummy => cases hServes
  | wiiUPro =>
      cases driver with
      | wiiUPro pad => exact wiiUPro_answers hSound c
      | playstation3 _ | dualShock4 _ | wiiMote _ | dummy => cases hServes

/-! ## Runs -/

/-- A call on a pad, with the static buffers as it finds them; the pads of the same class
write them, too. -/
def Pad.receive (pad : Pad) (c : Statics × PadCall) : Option Pad :=
  (pad.turn c.1 c.2).map Prod.snd

/-- The pause and input packets sent for a pad. -/
def Pad.inputs (pad : Pad) : List DriverCall := pad.calls.filter isInput

/-- A pad after some calls, as it was and as it is. -/
structure Pad.Reached (pause : PausePad) (start : Pad) (calls : List PadCall) (pad : Pad) :
    Prop where
  serves : pause.Serves pad.driver
  sound : pad.driver.Sound
  memory : pad.driver.inputMemory = calls.foldl pause.hear start.driver.inputMemory
  due : pad.driver.needSetReport =
    (calls.getLast?.map fun c => !c.isReport).getD start.driver.needSetReport
  inputs : pad.inputs = start.inputs ++ pause.inputsOf start.driver.inputMemory calls

variable {pause : PausePad} {pad : Pad}

/-- The calls of a call, apart. -/
theorem filter_isInput (pause : PausePad) (driver : Driver) (statics : Statics) (c : PadCall)
    (memory : InputMemory) :
    (driver.outputs statics c ++ pause.inputs memory c).filter isInput =
        pause.inputs memory c ∧
      (driver.outputs statics c ++ pause.inputs memory c).filter (fun call => !isInput call) =
        driver.outputs statics c := by
  have hInputs := pause.inputs_all memory c
  have hOutputs : ∀ call ∈ driver.outputs statics c, isInput call = false := by
    unfold Driver.outputs
    split_ifs
    · exact driver.setReport_all statics
    · simp
  constructor
  · rw [List.filter_append, List.filter_eq_nil_iff.mpr (by simpa using hOutputs),
      List.filter_eq_self.mpr hInputs, List.nil_append]
  · rw [List.filter_append, List.filter_eq_self.mpr (by simpa using hOutputs),
      List.filter_eq_nil_iff.mpr (by simpa using hInputs), List.append_nil]

/-- Every run completes, and goes as the plan does. -/
theorem Pad.reached (hServes : pause.Serves pad.driver) (hSound : pad.driver.Sound)
    (calls : List (Statics × PadCall)) :
    ∃ pad', run Pad.receive pad calls = some pad' ∧
      Pad.Reached pause pad (calls.map Prod.snd) pad' := by
  induction calls generalizing pad with
  | nil => exact ⟨pad, rfl, hServes, hSound, rfl, rfl, (List.append_nil _).symm⟩
  | cons c calls ih =>
      obtain ⟨statics, c⟩ := c
      obtain ⟨driver₁, hFollows, hCall⟩ := answers hServes hSound c
      obtain ⟨statics', hCall⟩ := hCall statics
      obtain ⟨pad₁, hPad₁⟩ : ∃ pad₁ : Pad, pad₁ = ⟨driver₁, pad.calls ++
        (pad.driver.outputs statics c ++ pause.inputs pad.driver.inputMemory c)⟩ := ⟨_, rfl⟩
      have hStep : pad.receive (statics, c) = some pad₁ := by
        rw [Pad.receive, Pad.turn, hCall, hPad₁]
        rfl
      have hDriver : pad₁.driver = driver₁ := by rw [hPad₁]
      have hInputs : pad₁.inputs = pad.inputs ++ pause.inputs pad.driver.inputMemory c := by
        rw [hPad₁, Pad.inputs, List.filter_append,
          (filter_isInput pause pad.driver statics c pad.driver.inputMemory).1]
        rfl
      obtain ⟨pad₂, hRun, hReached⟩ :=
        ih (hDriver.symm ▸ hFollows.serves) (hDriver.symm ▸ hFollows.sound)
      refine ⟨pad₂, by rw [run_cons, hStep]; exact hRun, hReached.serves, hReached.sound, ?_, ?_, ?_⟩
      · rw [hReached.memory, hDriver, hFollows.memory, List.map_cons, List.foldl_cons]
      · rw [hReached.due, hDriver, hFollows.due, List.map_cons, List.getLast?_cons]
        cases (calls.map Prod.snd).getLast? <;> rfl
      · rw [hReached.inputs, hInputs, hDriver, hFollows.memory, List.map_cons,
          PausePad.inputsOf, List.append_assoc]

/-! ## From the connection on -/

theorem connected_serves (platform : Platform) (pause : PausePad) :
    pause.Serves (pause.kind.connected platform).driver := by
  cases pause <;> trivial

/-- Nothing has been sent, the button counts as held, and an output report is due. -/
theorem connected_start (platform : Platform) (pause : PausePad) :
    (pause.kind.connected platform).inputs = [] ∧
      (pause.kind.connected platform).driver.inputMemory.pauseHeld = true ∧
      (pause.kind.connected platform).driver.needSetReport = true := by
  cases pause with
  | playstation3 =>
      refine ⟨?_, rfl, rfl⟩
      show (Playstation3.construct platform.ios).2.filter isInput = []
      unfold Playstation3.construct
      split_ifs <;> rfl
  | dualShock4 => exact ⟨rfl, rfl, rfl⟩
  | wiiUPro => exact ⟨rfl, rfl, rfl⟩

/-- What a pad does in a call after some calls. -/
structure Answered (pause : PausePad) (before : List PadCall) (statics : Statics)
    (driver : Driver) (c : PadCall) (driver' : Driver) (calls : List DriverCall) : Prop where
  /-- `SetReport` runs once in a report if it is due there, and in no other call. -/
  outputs : calls.filter (fun call => !isInput call) =
    if c.isReport && setReportDue before then driver.setReport statics else []
  /-- Nothing else is sent for a rejected report or a player index, and the calibrations
  and the pause button stay. -/
  rejected : pause.isAccepted c = false →
    calls.filter isInput = [] ∧ driver'.inputMemory = driver.inputMemory
  /-- For an accepted report one input state is sent, after the pause button if that is
  down and was up in the accepted report before. -/
  accepted : ∀ aData aSize, c = .handlePacket aData aSize → pause.accepts aData aSize = true →
    ∃ packet, calls.filter isInput =
      (if pause.pauseDown aData = true ∧ pause.lastPause before = some false then
        [.sendPausePressed] else []) ++ [.sendControllerState packet]

/-- After any calls on a pad each further call is answered so; and the pause and input
packets sent up to there are those of the run of the accepted reports alone. -/
theorem pad_answered (platform : Platform) (pause : PausePad)
    (before : List (Statics × PadCall)) (statics : Statics) (c : PadCall) :
    ∃ pad alone statics' driver' calls,
      run Pad.receive (pause.kind.connected platform) before = some pad ∧
      pad.driver.call statics c = some (statics', driver', calls) ∧
      Answered pause (before.map Prod.snd) statics pad.driver c driver' calls ∧
      run Pad.receive (pause.kind.connected platform)
        (before.filter fun call => pause.isAccepted call.2) = some alone ∧
      alone.inputs = pad.inputs := by
  have hServes := connected_serves platform pause
  have hSound := pause.kind.connected_sound platform
  obtain ⟨hNone, hHeld, hDue⟩ := connected_start platform pause
  obtain ⟨pad, hRun, hReached⟩ := Pad.reached hServes hSound before
  obtain ⟨alone, hAlone, hReachedAlone⟩ := Pad.reached hServes hSound
    (before.filter fun call => pause.isAccepted call.2)
  obtain ⟨driver', hFollows, hCall⟩ := answers hReached.serves hReached.sound c
  obtain ⟨statics', hCall⟩ := hCall statics
  obtain ⟨hInputs, hOutputs⟩ :=
    filter_isInput pause pad.driver statics c pad.driver.inputMemory
  refine ⟨pad, alone, statics', driver', _, hRun, hCall, ⟨?_, ?_, ?_⟩, hAlone, ?_⟩
  · rw [hOutputs, Driver.outputs, hReached.due, hDue, setReportDue_eq]
  · intro hRejected
    rw [hInputs, hFollows.memory]
    exact pause.quiet_of_not_accepted (by simp [hRejected]) _
  · rintro aData aSize rfl hAccepts
    have hPause : (!pad.driver.inputMemory.pauseHeld && pause.pauseDown aData) = true ↔
        pause.pauseDown aData = true ∧ pause.lastPause (before.map Prod.snd) = some false := by
      rw [hReached.memory, pause.hear_pauseHeld, hHeld]
      cases pause.lastPause (before.map Prod.snd) with
      | none => simp
      | some down => cases down <;> simp
    refine ⟨pause.packet aData pad.driver.inputMemory, ?_⟩
    rw [hInputs, PausePad.inputs, if_pos hAccepts, if_congr hPause rfl rfl]
  · have hFilter : (before.filter fun call => pause.isAccepted call.2).map Prod.snd =
        (before.map Prod.snd).filter pause.isAccepted := by
      rw [List.filter_map]
      rfl
    rw [hReached.inputs, hReachedAlone.inputs, hFilter, PausePad.inputsOf_filter]

end HIDPad
end MFiWrapper
