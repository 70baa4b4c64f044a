import MFiWrapper.Backend.HIDManager

/-!
# The range of the input states

Whatever a device reports, the drivers send axes between -1 and 1 and buttons between 0
and 1.
-/

namespace MFiWrapper

open Library

namespace MFiWInputStatePacket

/-- The coordinates of the direction pad and of the sticks. -/
def axes {α : Type} (state : MFiWInputStatePacket α) : List α :=
  [state.dPadX, state.dPadY, state.leftStickX, state.leftStickY, state.rightStickX,
    state.rightStickY]

/-- The buttons and triggers. -/
def buttons {α : Type} (state : MFiWInputStatePacket α) : List α :=
  [state.a, state.b, state.x, state.y, state.leftShoulder, state.rightShoulder,
    state.leftTrigger, state.rightTrigger, state.select, state.start, state.leftStickButton,
    state.rightStickButton]

variable {α β : Type}

theorem fields_convert (f : MFiWInputStatePacket (α → β)) (state : MFiWInputStatePacket α) :
    (f.convert state).fields = f.fields.zipWith (fun convert value => convert value)
      state.fields := rfl

/-- What the values of some fields have in common once they are converted. -/
theorem forall_mem_converted {p : β → Prop} {converts : List (α → β)} {values : List α}
    (hAll : ∀ convert ∈ converts, ∀ value ∈ values, p (convert value)) :
    ∀ result ∈ converts.zipWith (fun convert value => convert value) values, p result := by
  intro result hMem
  obtain ⟨i, hResult⟩ := List.mem_iff_getElem?.mp hMem
  obtain ⟨convert, value, hConvert, hValue, rfl⟩ := List.getElem?_zipWith_eq_some.mp hResult
  exact hAll convert (List.mem_of_getElem? hConvert) value (List.mem_of_getElem? hValue)

structure InRange (state : MFiWInputStatePacket ℚ) : Prop where
  axes : ∀ value ∈ state.axes, |value| ≤ 1
  buttons : ∀ value ∈ state.buttons, 0 ≤ value ∧ value ≤ 1

end MFiWInputStatePacket

/-- If a packet has a state, it is in range. -/
def MFiWPacket.InRange : MFiWPacket ℚ → Prop
  | .inputState _ state => state.InRange
  | .connect _ _ | .disconnect _ | .setPlayerIndex _ _ | .pausePressed _ => True

theorem MFiWInputStatePacket.InRange.abs_le_one {state : MFiWInputStatePacket ℚ}
    (hRange : state.InRange) : ∀ value ∈ state.fields, |value| ≤ 1 := by
  have hButton {value : ℚ} (hUnit : 0 ≤ value ∧ value ≤ 1) : |value| ≤ 1 := by
    rw [abs_of_nonneg hUnit.1]
    exact hUnit.2
  intro value hMem
  have hSplit : value ∈ state.axes ∨ value ∈ state.buttons := by
    simp only [fields, MFiWInputStatePacket.axes, MFiWInputStatePacket.buttons, List.mem_cons,
      List.not_mem_nil, or_false] at hMem ⊢
    grind
  rcases hSplit with hAxis | hUnit
  · exact hRange.axes value hAxis
  · exact hButton (hRange.buttons value hUnit)

namespace HIDPad

/-! ## Values -/

theorem flag_unit (isSet : Prop) [Decidable isSet] :
    0 ≤ (if isSet then (1 : ℚ) else 0) ∧ (if isSet then (1 : ℚ) else 0) ≤ 1 := by
  split_ifs <;> norm_num

theorem abs_flag (isSet : Prop) [Decidable isSet] : |(if isSet then (1 : ℚ) else 0)| ≤ 1 := by
  split_ifs <;> norm_num

/-- The Y axes are sent upside down. -/
theorem abs_flipped {value : ℚ} (hValue : |value| ≤ 1) : |0 - value| ≤ 1 := by
  rwa [zero_sub, abs_neg]

theorem abs_neg_if {isSet : Prop} [Decidable isSet] {first second : ℚ} (hFirst : |first| ≤ 1)
    (hSecond : |second| ≤ 1) : |(if isSet then -first else second)| ≤ 1 := by
  split_ifs
  · rwa [abs_neg]
  · exact hSecond

/-! ## The states of the drivers -/

theorem playstation3_sens (byte : UInt8) :
    0 ≤ Playstation3.sens byte ∧ Playstation3.sens byte ≤ 1 := by
  have hByte : (byte.toNat : ℚ) ≤ 255 := by exact_mod_cast Nat.le_of_lt_succ byte.toNat_lt
  rw [Playstation3.sens]
  exact ⟨by positivity, (div_le_one (by norm_num)).mpr hByte⟩

theorem playstation3_inRange (aData : Bytes) : (Playstation3.sentState aData).InRange := by
  have hSens (byte : UInt8) : |Playstation3.sens byte| ≤ 1 := by
    rw [abs_of_nonneg (playstation3_sens byte).1]
    exact (playstation3_sens byte).2
  constructor
  · simp only [MFiWInputStatePacket.axes, Playstation3.sentState, Playstation3.inputState,
      List.forall_mem_cons,
      List.not_mem_nil, false_imp_iff, implies_true, and_true]
    exact ⟨abs_neg_if (hSens _) (hSens _), abs_neg_if (hSens _) (hSens _),
      abs_reading_le_one _ _, abs_flipped (abs_reading_le_one _ _),
      abs_reading_le_one _ _, abs_flipped (abs_reading_le_one _ _)⟩
  · simp only [MFiWInputStatePacket.buttons, Playstation3.sentState, Playstation3.inputState,
      Playstation3.bit,
      List.forall_mem_cons, List.not_mem_nil, false_imp_iff, implies_true, and_true]
    simp only [playstation3_sens, flag_unit, and_self]

theorem dualShock4_dpad (buttons0 : UInt8) :
    |(DualShock4.dpad buttons0).1| ≤ 1 ∧ |(DualShock4.dpad buttons0).2| ≤ 1 := by
  have hStates : ∀ state ∈ DualShock4.dpadStates, |state.1| ≤ 1 ∧ |state.2| ≤ 1 := by
    simp only [DualShock4.dpadStates, List.forall_mem_cons, List.not_mem_nil, false_imp_iff,
      implies_true, and_true]
    norm_num
  rw [DualShock4.dpad, List.getD_eq_getElem?_getD]
  cases hState : DualShock4.dpadStates[(buttons0 &&& 0xF).toNat]? with
  | none => norm_num
  | some state => exact hStates state (List.mem_of_getElem? hState)

theorem dualShock4_inRange (aData : Bytes) : (DualShock4.sentState aData).InRange := by
  constructor
  · simp only [MFiWInputStatePacket.axes, DualShock4.sentState, DualShock4.inputState,
      List.forall_mem_cons,
      List.not_mem_nil, false_imp_iff, implies_true, and_true]
    exact ⟨(dualShock4_dpad _).1, (dualShock4_dpad _).2,
      abs_reading_le_one _ _, abs_flipped (abs_reading_le_one _ _),
      abs_reading_le_one _ _, abs_flipped (abs_reading_le_one _ _)⟩
  · simp only [MFiWInputStatePacket.buttons, DualShock4.sentState, DualShock4.inputState,
      DualShock4.pressed,
      List.forall_mem_cons, List.not_mem_nil, false_imp_iff, implies_true, and_true]
    simp only [flag_unit, and_self]

theorem wiiUPro_inRange (b12 b13 b14 : UInt8) {stick : StickAxis → ℚ}
    (hStick : ∀ axis, |stick axis| ≤ 1) : (WiiUPro.inputState b12 b13 b14 stick).InRange := by
  constructor
  · simp only [MFiWInputStatePacket.axes, WiiUPro.inputState, WiiUPro.pressed,
      List.forall_mem_cons,
      List.not_mem_nil, false_imp_iff, implies_true, and_true]
    exact ⟨abs_neg_if (abs_flag _) (abs_flag _), abs_neg_if (abs_flag _) (abs_flag _),
      hStick _, hStick _, hStick _, hStick _⟩
  · simp only [MFiWInputStatePacket.buttons, WiiUPro.inputState, WiiUPro.pressed,
      List.forall_mem_cons,
      List.not_mem_nil, false_imp_iff, implies_true, and_true]
    simp only [flag_unit, and_self]

theorem wiiMote_direction (btns negative positive : UInt16) :
    |WiiMote.direction btns negative positive| ≤ 1 := by
  unfold WiiMote.direction
  split_ifs <;> norm_num

theorem wiiMote_inRange {device : Wiimote.WiimoteT}
    (hStick : ∀ axis, |(WiiMote.axisOf device.exp.classic axis).value| ≤ 1) :
    (WiiMote.processButtons device).InRange := by
  unfold WiiMote.processButtons
  split
  · constructor
    · simp only [MFiWInputStatePacket.axes, MFiWInputStatePacket.zero, List.forall_mem_cons,
        List.not_mem_nil, false_imp_iff, implies_true, and_true]
      simp only [wiiMote_direction, true_and]
      norm_num
    · simp only [MFiWInputStatePacket.buttons, MFiWInputStatePacket.zero, WiiMote.pressed,
        List.forall_mem_cons, List.not_mem_nil, false_imp_iff, implies_true, and_true]
      simp only [flag_unit, true_and]
      norm_num
  · constructor
    · simp only [MFiWInputStatePacket.axes, List.forall_mem_cons, List.not_mem_nil,
        false_imp_iff, implies_true, and_true]
      exact ⟨wiiMote_direction _ _ _, wiiMote_direction _ _ _, hStick .leftX, hStick .leftY,
        hStick .rightX, hStick .rightY⟩
    · simp only [MFiWInputStatePacket.buttons, MFiWInputStatePacket.zero, WiiMote.pressed,
        List.forall_mem_cons, List.not_mem_nil, false_imp_iff, implies_true, and_true]
      simp only [flag_unit, true_and]
      norm_num

/-! ## The calls of the drivers -/

/-- The stick positions that a driver remembers are in range. -/
def Driver.Ranged : Driver → Prop
  | .wiiMote device => ∀ axis, |(WiiMote.axisOf device.exp.classic axis).value| ≤ 1
  | .playstation3 _ | .dualShock4 _ | .wiiUPro _ | .dummy => True

/-- The states that calls send are in range. -/
def CallsInRange (calls : List DriverCall) : Prop :=
  ∀ state ∈ calls.filterMap DriverCall.sentState, state.InRange

theorem CallsInRange.packets {calls : List DriverCall} (hCalls : CallsInRange calls)
    (handle : UInt32) : ∀ packet ∈ calls.filterMap (DriverCall.packet handle), packet.InRange := by
  intro packet hMem
  obtain ⟨made, hMade, hPacket⟩ := List.mem_filterMap.mp hMem
  cases made with
  | sendControllerState aData =>
      cases hPacket
      exact hCalls aData (List.mem_filterMap.mpr ⟨_, hMade, rfl⟩)
  | sendPausePressed =>
      cases hPacket
      trivial
  | setReport _ _ _ | getReport _ _ _ | attachController => cases hPacket

theorem callsInRange_one {calls : List DriverCall} {state : MFiWInputStatePacket ℚ}
    (hSent : calls.filterMap DriverCall.sentState = [state]) (hState : state.InRange) :
    CallsInRange calls := by
  rw [CallsInRange, hSent]
  exact List.forall_mem_singleton.mpr hState

theorem CallsInRange.append {first second : List DriverCall} (hFirst : CallsInRange first)
    (hSecond : CallsInRange second) : CallsInRange (first ++ second) := by
  rw [CallsInRange, List.filterMap_append]
  exact List.forall_mem_append.mpr ⟨hFirst, hSecond⟩

theorem callsInRange_none {calls : List DriverCall}
    (hSent : calls.filterMap DriverCall.sentState = []) : CallsInRange calls := by
  rw [CallsInRange, hSent]
  exact fun _ hMem => nomatch hMem

/-- A pad that has just been connected has its sticks at rest. -/
theorem Kind.construct_ranged {platform : Platform} {kind : Kind} {driver : Driver}
    {calls : List DriverCall} (hConstruct : kind.construct platform = some (driver, calls)) :
    driver.Ranged := by
  cases kind with
  | playstation3 | dualShock4 | wiiUPro =>
      cases hConstruct
      trivial
  | wiiMote =>
      have hClassic : (Kind.wiiMote.construct platform).map (fun made => match made.1 with
          | .wiiMote device => some device.exp.classic
          | _ => none) = some (some Wiimote.ClassicCtrlT.zero) := rfl
      rw [hConstruct, Option.map_some, Option.some.injEq] at hClassic
      cases driver with
      | wiiMote device =>
          have hZero : device.exp.classic = .zero := Option.some.inj hClassic
          intro axis
          rw [hZero]
          cases axis <;> norm_num [WiiMote.axisOf, Wiimote.ClassicCtrlT.zero, Wiimote.AxisT.zero]
      | playstation3 _ | dualShock4 _ | wiiUPro _ | dummy => trivial

/-- A call on a driver sends states in range and leaves the sticks in range. -/
theorem Driver.Ranged.call {statics statics' : Statics} {driver driver' : Driver} {c : PadCall}
    {calls : List DriverCall} (hRanged : driver.Ranged) (hSound : driver.Sound)
    (hCall : driver.call statics c = some (statics', driver', calls)) :
    driver'.Ranged ∧ CallsInRange calls := by
  cases driver with
  | playstation3 pad =>
      cases c with
      | setPlayerIndex aIndex =>
          cases hCall
          exact ⟨trivial, callsInRange_none rfl⟩
      | handlePacket aData aSize =>
          rw [Driver.call, Playstation3.handlePacket_eq] at hCall
          cases hCall
          refine ⟨trivial, callsInRange_one ?_ (playstation3_inRange aData)⟩
          rw [List.filterMap_append, Playstation3.answer_sent]
          split_ifs <;> rfl
  | dualShock4 pad =>
      cases c with
      | setPlayerIndex aIndex =>
          cases hCall
          exact ⟨trivial, callsInRange_none rfl⟩
      | handlePacket aData aSize =>
          rw [Driver.call, DualShock4.handlePacket_eq] at hCall
          cases hCall
          refine ⟨trivial, .append (callsInRange_none ?_) ?_⟩
          · split_ifs <;> rfl
          · rw [DualShock4.answer]
            split_ifs
            · exact .append (callsInRange_none rfl)
                (callsInRange_one rfl (dualShock4_inRange aData))
            · exact callsInRange_one rfl (dualShock4_inRange aData)
            · exact callsInRange_none rfl
  | wiiUPro pad =>
      cases c with
      | setPlayerIndex aIndex =>
          cases hCall
          exact ⟨trivial, callsInRange_none rfl⟩
      | handlePacket aData aSize =>
          obtain ⟨trace, rfl, hInv⟩ := hSound
          refine ⟨?_, ?_⟩
          · obtain ⟨result, -, hResult⟩ := Option.map_eq_some_iff.mp hCall
            cases hResult
            trivial
          · have hReport := WiiUPro.setReport_quiet trace.device
            by_cases hAccepts : WiiUPro.Accepts aData aSize
            · rw [Driver.call, WiiUPro.handlePacket_accepted _ hAccepts (hInv.valid aData)] at hCall
              cases hCall
              refine .append (callsInRange_none hReport) (.append (callsInRange_none ?_)
                (callsInRange_one rfl (wiiUPro_inRange _ _ _ fun axis => abs_reading_le_one _ _)))
              split_ifs <;> rfl
            · rw [Driver.call, WiiUPro.handlePacket_rejected _ hAccepts] at hCall
              cases hCall
              exact callsInRange_none hReport
  | wiiMote device =>
      obtain ⟨trace, phase, rfl, hInv⟩ := hSound
      cases c with
      | setPlayerIndex aIndex =>
          obtain ⟨leds, made, hSet, hCommands⟩ :=
            WiiMote.setPlayerIndex_connected hInv.represents.connected aIndex
          rw [Driver.call, hSet] at hCall
          cases hCall
          exact ⟨hRanged, callsInRange_none hCommands.quiet⟩
      | handlePacket aData aSize =>
          obtain ⟨device', made, hHandle, hHandled⟩ := WiiMote.handlePacket_handled
            hInv.represents aData fun axis => hInv.valid (WiiMote.rawStick aData axis) axis
          rw [Driver.call, hHandle] at hCall
          cases hCall
          have hRanged' : (Driver.wiiMote device').Ranged := by
            intro axis
            rw [hHandled.axes]
            split_ifs
            · norm_num [Wiimote.AxisT.zero]
            · exact abs_reading_le_one _ _
            · exact hRanged axis
          exact ⟨hRanged', callsInRange_one hHandled.sent (wiiMote_inRange hRanged')⟩
  | dummy =>
      cases hCall
      exact ⟨trivial, callsInRange_none rfl⟩

end HIDPad
end MFiWrapper
