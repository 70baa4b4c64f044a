import MFiWrapper.Backend.Registry
import MFiWrapper.Frontend.Controller
import MFiWrapper.Library.BitMask

/-!
# Analog controls

A driver names its analog controls by a mask, and the controller that the
frontend builds has an analog flag for each of its elements.  `DEFBIT` gives
all controls the bit of the X button, so the flags are all alike.
-/

namespace MFiWrapper
namespace Frontend

open Library

/-- The bitwise or of the `MFi_<control>_Bit` of the controls. -/
def analogMask (controls : Finset MFiButtons) : UInt32 :=
  maskOf MFiButtonMask (MFiButtons.all.filter (· ∈ controls))

/-- `isAnalog` of the element and, for a direction pad, of its axes and buttons. -/
def GCControllerElement.analogFlags : GCControllerElement → List Bool
  | .button input => [input.analog]
  | .directionPad pad =>
      [pad.analog, pad.xAxis.analog, pad.yAxis.analog, pad.up.analog, pad.down.analog,
        pad.left.analog, pad.right.analog]

/-- Exactly the elements of the controls are analog. -/
def AnalogAgrees (tweak : GCController) (controls : Finset MFiButtons) : Prop :=
  ∀ control, ∃ element, tweak.tweakElements[control.index]? = some element ∧
    ∀ flag ∈ element.analogFlags, flag = decide (control ∈ controls)

/-- The controls a driver's `GetAnalogControls` names: the two thumbsticks by
their bits, or all but the full elements by the masks of element groups. -/
def namedAnalogControls : HIDPad.Driver → Finset MFiButtons
  | .dualShock4 _ | .wiiUPro _ => {.leftThumbstick, .rightThumbstick}
  | .playstation3 _ =>
      {.dPad, .a, .b, .x, .y, .leftShoulder, .rightShoulder, .leftThumbstick, .rightThumbstick,
        .leftTrigger, .rightTrigger}
  | .wiiMote _ | .dummy => ∅

variable {data : MFiWConnectPacket} {controls : Finset MFiButtons}

/-- The element at the position of a control is the one built for it. -/
theorem element_at (handle : UInt32) (data : MFiWConnectPacket) (control : MFiButtons) :
    ∃ element : GCControllerElement,
      (controllerForHandle handle data).tweakElements[control.index]? = some element ∧
        (element = dpad data control ∨ element = button data control) := by
  cases control <;> exact ⟨_, rfl, by first | exact Or.inl rfl | exact Or.inr rfl⟩

/-- All flags of an element tell the result of the test. -/
theorem analogFlags_eq {element : GCControllerElement} {control : MFiButtons}
    (hElement : element = dpad data control ∨ element = button data control) :
    ∃ n, element.analogFlags = List.replicate (n + 1) (analogTest data control) := by
  rcases hElement with rfl | rfl
  · exact ⟨6, rfl⟩
  · exact ⟨0, rfl⟩

theorem analogAgrees_iff_analogTest (handle : UInt32) :
    AnalogAgrees (controllerForHandle handle data) controls ↔
      ∀ control, analogTest data control = decide (control ∈ controls) := by
  refine forall_congr' fun control => ?_
  obtain ⟨element, hAt, hElement⟩ := element_at handle data control
  obtain ⟨n, hFlags⟩ := analogFlags_eq hElement
  rw [hAt]
  constructor
  · rintro ⟨_, ⟨rfl⟩, hAgrees⟩
    refine hAgrees _ ?_
    rw [hFlags]
    exact List.mem_replicate.mpr ⟨n.succ_ne_zero, rfl⟩
  · intro hTest
    refine ⟨element, rfl, fun flag hFlag => ?_⟩
    rw [hFlags] at hFlag
    exact (List.eq_of_mem_replicate hFlag).trans hTest

/-- The tests of all controls test the same bit. -/
theorem analogTest_eq (control control' : MFiButtons) :
    analogTest data control = analogTest data control' := rfl

/-- So the flags can only be right when all controls are analog or none is. -/
theorem AnalogAgrees.trivial {handle : UInt32}
    (hAgrees : AnalogAgrees (controllerForHandle handle data) controls) :
    controls = ∅ ∨ controls = Finset.univ := by
  rw [analogAgrees_iff_analogTest] at hAgrees
  cases hTest : analogTest data .dPad
  · left
    refine Finset.eq_empty_of_forall_notMem fun control => of_decide_eq_false ?_
    rw [← hAgrees control, ← hTest, analogTest_eq]
  · right
    refine Finset.eq_univ_of_forall fun control => of_decide_eq_true ?_
    rw [← hAgrees control, ← hTest, analogTest_eq]

/-- Under a mask of the constants, the test tells whether there is any analog
control. -/
theorem analogTest_mask (hMask : data.analogControls = analogMask controls)
    (control : MFiButtons) : analogTest data control = decide controls.Nonempty := by
  have hNonempty : MFiButtons.all.filter (· ∈ controls) ≠ [] ↔ controls.Nonempty := by
    constructor
    · intro hSome
      obtain ⟨control, hMem⟩ := List.exists_mem_of_ne_nil _ hSome
      exact ⟨control, by simpa using (List.mem_filter.mp hMem).2⟩
    · rintro ⟨control, hMem⟩
      exact List.ne_nil_of_mem (List.mem_filter.mpr ⟨Fintype.complete control, by simpa using hMem⟩)
  have hConst : ∀ control, MFiButtonMask control = 8 := fun _ => rfl
  have hTest := test_maskOf_const hConst (by decide) (MFiButtons.all.filter (· ∈ controls)) control
  rw [hNonempty] at hTest
  rw [analogTest, hMask, analogMask, Bool.eq_iff_iff, bne_iff_ne, hTest, decide_eq_true_iff]

/-- Exactly two sets of controls survive the masks; and the controllers that the
drivers announce are right for no driver that names an analog control. -/
theorem analogAgrees_iff_trivial (handle : UInt32) (data : MFiWConnectPacket)
    (controls : Finset MFiButtons) (driver : HIDPad.Driver) :
    (AnalogAgrees (controllerForHandle handle
        { data with analogControls := analogMask controls }) controls ↔
      controls = ∅ ∨ controls = Finset.univ) ∧
    (AnalogAgrees (controllerForHandle handle (Backend.connectPacket driver))
        (namedAnalogControls driver) ↔ namedAnalogControls driver = ∅) := by
  constructor
  · refine ⟨AnalogAgrees.trivial, fun hTrivial => ?_⟩
    rw [analogAgrees_iff_analogTest]
    intro control
    rw [analogTest_mask rfl control]
    rcases hTrivial with rfl | rfl
    · rfl
    · exact decide_eq_decide.mpr (iff_of_true ⟨control, Finset.mem_univ control⟩
        (Finset.mem_univ control))
  · constructor
    · intro hAgrees
      refine hAgrees.trivial.resolve_right fun hAll => ?_
      -- no driver names the start button
      have hStart : MFiButtons.start ∈ namedAnalogControls driver := hAll ▸ Finset.mem_univ _
      revert hStart
      cases driver <;> simp [namedAnalogControls]
    · intro hNone
      have hMask : (Backend.connectPacket driver).analogControls = analogMask ∅ := by
        cases driver with
        | wiiMote device => rfl
        | dummy => rfl
        | playstation3 pad => simp [namedAnalogControls] at hNone
        | dualShock4 pad => simp [namedAnalogControls] at hNone
        | wiiUPro pad => simp [namedAnalogControls] at hNone
      rw [analogAgrees_iff_analogTest, hNone]
      exact analogTest_mask hMask

/-- A driver that names the two thumbsticks makes the direction pad analog. -/
theorem dPad_analog_for_thumbsticks :
    ¬ ∀ (handle : UInt32) (data : MFiWConnectPacket) (controls : Finset MFiButtons),
      AnalogAgrees (controllerForHandle handle
        { data with analogControls := analogMask controls }) controls := by
  intro hAgrees
  have hTests := (analogAgrees_iff_analogTest 1).mp (hAgrees 1
    ⟨Vector.replicate 256 0, mfiAllElements, 0⟩ {.leftThumbstick, .rightThumbstick})
  exact absurd (hTests .dPad) (by decide)

end Frontend
end MFiWrapper
