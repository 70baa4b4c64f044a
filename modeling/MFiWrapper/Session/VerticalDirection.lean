import Mathlib.Data.Sign.Basic
import MFiWrapper.Backend.PadCalls
import MFiWrapper.Frontend.InputState

/-!
# Up and down, from the report to the elements

The PlayStation drivers send the vertical axis of a stick negated and that of the
direction pad as it is, and the frontend reads both alike.  `vertical_opposite`
follows a report through the driver and the frontend for a direction pad and a
stick that are both held up, or both down.
-/

namespace MFiWrapper
namespace Session

open Library HIDPad Frontend

inductive Vertical
  | up | down
  deriving DecidableEq

namespace Vertical

def opposite : Vertical → Vertical
  | .up => .down
  | .down => .up

/-- The raw position of a stick on this side of the dead zone; 0 is up. -/
def Pushed : Vertical → UInt8 → Prop
  | .up, raw => raw < 100
  | .down, raw => 155 < raw

/-- The direction pad of a DualShock 4: `dpadState` counts clockwise from the top. -/
def dpadState : Vertical → UInt8
  | .up => 0
  | .down => 4

/-- The pressures on the direction pad of a PlayStation 3 pad. -/
def Pressed : Vertical → Bytes → Prop
  | .up, aData => 0 < aData 15 ∧ aData 17 = 0
  | .down, aData => aData 15 = 0 ∧ 0 < aData 17

/-- The driver accepts the report; in it the direction pad is pressed in this direction
only, and the left stick pushed in it. -/
def HeldIn (direction : Vertical) (driver : Driver) (aData : Bytes) (aSize : UInt16) : Prop :=
  match driver with
  | .dualShock4 _ =>
      DualShock4.Accepts aData aSize ∧ aData 8 &&& 0xF = direction.dpadState ∧
        direction.Pushed (aData 5)
  | .playstation3 _ =>
      aData 16 = 0 ∧ aData 18 = 0 ∧ direction.Pressed aData ∧ direction.Pushed (aData 8)
  | _ => False

/-- The side of a coordinate, as the frontend takes it. -/
def Of : Vertical → ℚ → Prop
  | .up, y => y < 0
  | .down, y => 0 < y

/-- The buttons of a pad. -/
def ShownBy : Vertical → GCControllerDirectionPad → Prop
  | .up, pad => pad.up.value > 0 ∧ pad.down.value = 0
  | .down, pad => pad.down.value > 0 ∧ pad.up.value = 0

end Vertical

/-- The element of a control with two axes. -/
def directionPad (tweak : GCController) (control : MFiButtons) :
    Option GCControllerDirectionPad :=
  match tweak.tweakElements[control.index]? with
  | some (.directionPad pad) => some pad
  | _ => none

/-- `dpad` and `leftThumbstick` both show the direction, with the same sign. -/
def Vertical.AgreesIn (direction : Vertical) (tweak : GCController) : Prop :=
  ∃ dpad stick, directionPad tweak .dPad = some dpad ∧
    directionPad tweak .leftThumbstick = some stick ∧
    direction.ShownBy dpad ∧ direction.ShownBy stick ∧
    SignType.sign dpad.yAxis.value = SignType.sign stick.yAxis.value

variable {direction : Vertical}

/-! ## The driver -/

/-- Beyond the dead zone the negated reading is on the other side. -/
theorem opposite_of_pushed {raw : UInt8} (hPushed : direction.Pushed raw) {c : Calibration}
    (hCalibration : c = ⟨0, 100, 155, 255⟩) :
    direction.opposite.Of (0 - c.reading raw.toNat) := by
  subst hCalibration
  rw [zero_sub]
  cases direction with
  | up =>
      have hRaw : raw.toNat < 100 := hPushed
      refine neg_pos.mpr (deadZone_neg ?_ ?_) <;> norm_num
      exact_mod_cast hRaw
  | down =>
      have hRaw : 155 < raw.toNat := hPushed
      refine neg_lt_zero.mpr (deadZone_pos ?_ ?_ ?_) <;> norm_num
      exact_mod_cast hRaw

theorem dualShock4_dpad {buttons0 : UInt8} (hState : buttons0 &&& 0xF = direction.dpadState) :
    direction.Of (DualShock4.dpad buttons0).2 := by
  rw [DualShock4.dpad, hState]
  cases direction with
  | up => exact neg_one_lt_zero
  | down => exact zero_lt_one

theorem playstation3_dpad {aData : Bytes} (hPressed : direction.Pressed aData) :
    direction.Of (Playstation3.sentState aData).dPadY := by
  have hSens {byte : UInt8} (hByte : 0 < byte) : 0 < Playstation3.sens byte := by
    have hNat : 0 < byte.toNat := hByte
    exact div_pos (by exact_mod_cast hNat) (by norm_num)
  have hZero : ¬ Playstation3.sens 0 > 0 := by norm_num [Playstation3.sens]
  show direction.Of (if Playstation3.sens (aData 15) > 0 then -Playstation3.sens (aData 15)
    else Playstation3.sens (aData 17))
  cases direction with
  | up =>
      rw [if_pos (hSens hPressed.1)]
      exact neg_lt_zero.mpr (hSens hPressed.1)
  | down =>
      rw [hPressed.1, if_neg hZero]
      exact hSens hPressed.2

/-- The state that is sent. -/
theorem sent_opposite {driver : Driver} {aData : Bytes} {aSize : UInt16}
    (hHeld : direction.HeldIn driver aData aSize) (statics : Statics) :
    ∃ statics' driver' calls state,
      driver.call statics (.handlePacket aData aSize) = some (statics', driver', calls) ∧
        calls.filterMap DriverCall.sentState = [state] ∧
        direction.Of state.dPadY ∧ direction.opposite.Of state.leftStickY := by
  cases driver with
  | dualShock4 pad =>
      obtain ⟨hAccepts, hState, hPushed⟩ := hHeld
      refine ⟨_, _, _, DualShock4.sentState aData,
        by rw [Driver.call, DualShock4.handlePacket_eq]; rfl, ?_, dualShock4_dpad hState,
        opposite_of_pushed hPushed rfl⟩
      rw [DualShock4.answer, if_pos hAccepts, List.filterMap_append, List.filterMap_append]
      split_ifs <;> rfl
  | playstation3 pad =>
      obtain ⟨-, -, hPressed, hPushed⟩ := hHeld
      refine ⟨_, _, _, Playstation3.sentState aData,
        by rw [Driver.call, Playstation3.handlePacket_eq]; rfl, ?_, playstation3_dpad hPressed,
        opposite_of_pushed hPushed rfl⟩
      rw [List.filterMap_append, Playstation3.answer_sent]
      split_ifs <;> rfl
  | wiiMote device => exact hHeld.elim
  | wiiUPro pad => exact hHeld.elim
  | dummy => exact hHeld.elim

/-! ## The frontend -/

theorem all_index (control : MFiButtons) : MFiButtons.all[control.index]? = some control := by
  cases control <;> rfl

/-- After an input state a control with two axes has the values of its fields. -/
theorem directionPad_values {tweak : GCController} (hWellFormed : tweak.WellFormed)
    {state : MFiWInputStatePacket ℚ}
    (hValues : tweak.tweakElements.map GCControllerElement.values =
      MFiButtons.all.map (fieldsOf state))
    (control : MFiButtons) {x y : ℚ} (hFields : fieldsOf state control = [x, y]) :
    ∃ pad, directionPad tweak control = some pad ∧ pad.yAxis.value = y ∧
      pad.up.value = max 0 (-y) ∧ pad.down.value = max 0 y := by
  have hSlice : (tweak.tweakElements.map GCControllerElement.values)[control.index]? =
      some [x, y] := by
    rw [hValues, List.getElem?_map, all_index, Option.map_some, hFields]
  rw [List.getElem?_map] at hSlice
  obtain ⟨element, hElement, hRead⟩ := Option.map_eq_some_iff.mp hSlice
  cases element with
  | button input => cases hRead
  | directionPad pad =>
      have hConsistent : pad.Consistent :=
        hWellFormed.consistent _ (List.mem_of_getElem? hElement)
      obtain ⟨-, hY⟩ : pad.xAxis.value = x ∧ pad.yAxis.value = y := by
        simpa [GCControllerElement.values] using hRead
      refine ⟨pad, by rw [directionPad, hElement], hY, ?_, ?_⟩
      · rw [hConsistent.upValue, hY]
      · rw [hConsistent.downValue, hY]

/-- The buttons show the side that the coordinate is on. -/
theorem shownBy_of_side {pad : GCControllerDirectionPad} {y : ℚ}
    (hUp : pad.up.value = max 0 (-y)) (hDown : pad.down.value = max 0 y)
    (hSide : direction.Of y) : direction.ShownBy pad := by
  cases direction with
  | up =>
      have hNeg : y < 0 := hSide
      exact ⟨hUp ▸ lt_max_of_lt_right (neg_pos.mpr hNeg), hDown ▸ max_eq_left hNeg.le⟩
  | down =>
      have hPos : 0 < y := hSide
      exact ⟨hDown ▸ lt_max_of_lt_right hPos, hUp ▸ max_eq_left (neg_nonpos.mpr hPos.le)⟩

theorem not_shownBy_both {pad : GCControllerDirectionPad}
    (hShown : direction.ShownBy pad) : ¬ direction.opposite.ShownBy pad := by
  cases direction with
  | up => exact fun hOther => hOther.1.ne' hShown.2
  | down => exact fun hOther => hOther.1.ne' hShown.2

/-- In the frontend the direction pad shows the direction and the stick the opposite
one, whatever the elements showed before. -/
theorem vertical_opposite {driver : Driver} {aData : Bytes} {aSize : UInt16}
    (hHeld : direction.HeldIn driver aData aSize) (statics : Statics) {tweak : GCController}
    (hWellFormed : tweak.WellFormed) :
    ∃ statics' driver' calls state tweak' handlers dpad stick,
      driver.call statics (.handlePacket aData aSize) = some (statics', driver', calls) ∧
        calls.filterMap DriverCall.sentState = [state] ∧
        tweak.tweakUpdateButtons state = some (tweak', [], handlers) ∧
        directionPad tweak' .dPad = some dpad ∧
        directionPad tweak' .leftThumbstick = some stick ∧
        direction.ShownBy dpad ∧ direction.opposite.ShownBy stick := by
  obtain ⟨statics', driver', calls, state, hCall, hSent, hDPad, hStick⟩ :=
    sent_opposite hHeld statics
  obtain ⟨elements, handlers, hUpdate, hWellFormed', hValues⟩ :=
    hWellFormed.tweakUpdateButtons state
  obtain ⟨dpad, hDPadAt, -, hDPadUp, hDPadDown⟩ :=
    directionPad_values hWellFormed' hValues .dPad rfl
  obtain ⟨stick, hStickAt, -, hStickUp, hStickDown⟩ :=
    directionPad_values hWellFormed' hValues .leftThumbstick rfl
  exact ⟨statics', driver', calls, state, _, handlers, dpad, stick, hCall, hSent, hUpdate,
    hDPadAt, hStickAt, shownBy_of_side hDPadUp hDPadDown hDPad,
    shownBy_of_side hStickUp hStickDown hStick⟩

/-- For both drivers, every report that holds the direction pad and the stick in one
direction and every state of the frontend, the elements do not agree on it. -/
theorem vertical_never_agrees {driver : Driver} {aData : Bytes} {aSize : UInt16}
    (hHeld : direction.HeldIn driver aData aSize) (statics : Statics) {tweak : GCController}
    (hWellFormed : tweak.WellFormed) :
    ∃ statics' driver' calls state tweak' handlers,
      driver.call statics (.handlePacket aData aSize) = some (statics', driver', calls) ∧
        calls.filterMap DriverCall.sentState = [state] ∧
        tweak.tweakUpdateButtons state = some (tweak', [], handlers) ∧
        ¬ direction.AgreesIn tweak' := by
  obtain ⟨statics', driver', calls, state, tweak', handlers, dpad, stick, hCall, hSent, hUpdate,
    hDPadAt, hStickAt, hDPad, hStick⟩ := vertical_opposite hHeld statics hWellFormed
  refine ⟨statics', driver', calls, state, tweak', handlers, hCall, hSent, hUpdate, ?_⟩
  rintro ⟨-, stick', -, hStickAt', -, hStick', -⟩
  obtain rfl : stick = stick' := Option.some.inj (hStickAt.symm.trans hStickAt')
  exact not_shownBy_both hStick' hStick

/-- The direction pad and the left stick of a DualShock 4, both held up. -/
def bothUp : Bytes := fun i => if i = 2 then 0xC0 else 0

def newDualShock4 : GCController :=
  controllerForHandle 1 ⟨Vector.replicate 256 0, mfiAllElements, 0⟩

theorem bothUp_held : Vertical.up.HeldIn (.dualShock4 DualShock4.construct.1) bothUp 79 :=
  ⟨by decide, by decide, show bothUp 5 < 100 by decide⟩

theorem vertical_never_agrees_bothUp :
    ∃ statics' driver' calls state tweak' handlers,
      (Driver.dualShock4 DualShock4.construct.1).call .initial (.handlePacket bothUp 79) =
          some (statics', driver', calls) ∧
        calls.filterMap DriverCall.sentState = [state] ∧
        newDualShock4.tweakUpdateButtons state = some (tweak', [], handlers) ∧
        ¬ Vertical.up.AgreesIn tweak' :=
  vertical_never_agrees bothUp_held .initial (controllerForHandle_wellFormed _ _)

/-- Held up, they show opposite directions. -/
theorem both_up_shown_apart :
    ¬ ∀ (direction : Vertical) (driver : Driver) (aData : Bytes) (aSize : UInt16)
      (statics : Statics) (tweak : GCController), direction.HeldIn driver aData aSize →
        tweak.WellFormed → ∃ statics' driver' calls state tweak' handlers,
          driver.call statics (.handlePacket aData aSize) = some (statics', driver', calls) ∧
            calls.filterMap DriverCall.sentState = [state] ∧
            tweak.tweakUpdateButtons state = some (tweak', [], handlers) ∧
            direction.AgreesIn tweak' := by
  intro hAll
  obtain ⟨s₁, d₁, calls₁, state₁, tweak₁, h₁, hCall₁, hSent₁, hUpdate₁, hAgrees⟩ :=
    hAll .up _ bothUp 79 .initial newDualShock4 bothUp_held (controllerForHandle_wellFormed _ _)
  obtain ⟨s₂, d₂, calls₂, state₂, tweak₂, h₂, dpad, stick, hCall₂, hSent₂, hUpdate₂, -, hStickAt,
    -, hStick⟩ := vertical_opposite bothUp_held .initial (controllerForHandle_wellFormed 1
      ⟨Vector.replicate 256 0, mfiAllElements, 0⟩)
  cases hCall₁.symm.trans hCall₂
  cases hSent₁.symm.trans hSent₂
  cases hUpdate₁.symm.trans hUpdate₂
  obtain ⟨-, stick', -, hStickAt', -, hStick', -⟩ := hAgrees
  obtain rfl : stick = stick' := Option.some.inj (hStickAt.symm.trans hStickAt')
  exact not_shownBy_both hStick' hStick

end Session
end MFiWrapper
