import MFiWrapper.Frontend.Controller
import MFiWrapper.Library.BinaryFloat
import MFiWrapper.Library.Runs

/-!
# Input states as the elements show them

Three orders have to agree for a controller to show what a packet says: the
fields of the packet, the array of elements, and the enumeration by which the
gamepads pick their elements.  A direction pad that is given the values it has
already leaves its children alone, so the children are right only because they
were right before.
-/

namespace MFiWrapper
namespace Frontend

open Library

/-! ## What an element shows -/

/-- The number has a finite 32-bit float. -/
def IsFloat (value : ℚ) : Prop := IsBinaryFloat 24 (-149) value

/-- An input state whose scalars are finite floats. -/
abbrev FloatState :=
  { state : MFiWInputStatePacket ℚ // ∀ value ∈ state.fields, IsFloat value }

/-- The fields named after a control. -/
def fieldsOf {α : Type} (state : MFiWInputStatePacket α) : MFiButtons → List α
  | .dPad => [state.dPadX, state.dPadY]
  | .a => [state.a]
  | .b => [state.b]
  | .x => [state.x]
  | .y => [state.y]
  | .leftShoulder => [state.leftShoulder]
  | .rightShoulder => [state.rightShoulder]
  | .leftThumbstick => [state.leftStickX, state.leftStickY]
  | .rightThumbstick => [state.rightStickX, state.rightStickY]
  | .leftTrigger => [state.leftTrigger]
  | .rightTrigger => [state.rightTrigger]
  | .select => [state.select]
  | .start => [state.start]
  | .leftStickButton => [state.leftStickButton]
  | .rightStickButton => [state.rightStickButton]

/-- The properties of a gamepad, each with the control it is named after. -/
def GCGamepad.properties (gamepad : GCGamepad) : List (MFiButtons × ElementRef) :=
  [(.dPad, gamepad.dpad), (.a, gamepad.buttonA), (.b, gamepad.buttonB), (.x, gamepad.buttonX),
    (.y, gamepad.buttonY), (.leftShoulder, gamepad.leftShoulder),
    (.rightShoulder, gamepad.rightShoulder)]

def GCExtendedGamepad.properties (gamepad : GCExtendedGamepad) :
    List (MFiButtons × ElementRef) :=
  [(.dPad, gamepad.dpad), (.leftThumbstick, gamepad.leftThumbstick),
    (.rightThumbstick, gamepad.rightThumbstick), (.a, gamepad.buttonA), (.b, gamepad.buttonB),
    (.x, gamepad.buttonX), (.y, gamepad.buttonY), (.leftShoulder, gamepad.leftShoulder),
    (.rightShoulder, gamepad.rightShoulder), (.leftTrigger, gamepad.leftTrigger),
    (.rightTrigger, gamepad.rightTrigger), (.select, gamepad.select), (.start, gamepad.start),
    (.leftStickButton, gamepad.leftStickButton), (.rightStickButton, gamepad.rightStickButton)]

/-- What can be reached through `gamepad` and `extendedGamepad`. -/
def GCController.properties (tweak : GCController) : List (MFiButtons × ElementRef) :=
  tweak.gamepad.properties ++ (tweak.extendedGamepad.map GCExtendedGamepad.properties).getD []

/-- The button has the value, and is pressed when that is above 0.0001. -/
def GCControllerButtonInput.Shows (input : GCControllerButtonInput) (value : ℚ) : Prop :=
  input.value = value ∧ (input.pressed = true ↔ value > 1 / 10000)

/-- The pad has the values, and its buttons the parts of them on their side. -/
structure GCControllerDirectionPad.Shows (pad : GCControllerDirectionPad) (x y : ℚ) : Prop where
  xAxis : pad.xAxis.value = x
  yAxis : pad.yAxis.value = y
  left : pad.left.Shows (max 0 (-x))
  right : pad.right.Shows (max 0 x)
  up : pad.up.Shows (max 0 (-y))
  down : pad.down.Shows (max 0 y)

def GCControllerElement.Shows : GCControllerElement → List ℚ → Prop
  | .button input, [value] => input.Shows value
  | .directionPad pad, [x, y] => pad.Shows x y
  | _, _ => False

/-- Everything that can be reached shows the fields with its name. -/
def GCController.Shows (tweak : GCController) (state : MFiWInputStatePacket ℚ) : Prop :=
  ∀ control ref, (control, ref) ∈ tweak.properties →
    ∃ element, tweak.tweakElements[ref]? = some element ∧ element.Shows (fieldsOf state control)

/-- One packet in a run; what it consumes and calls is left out. -/
def update (tweak : GCController) (state : FloatState) : Option GCController :=
  (tweak.tweakUpdateButtons state.val).map Prod.fst

/-! ## The invariant of an element -/

/-- The flag is the one for the value. -/
def GCControllerButtonInput.Consistent (input : GCControllerButtonInput) : Prop :=
  input.pressed = decide (input.value > pressThreshold)

/-- The buttons are the ones for the axes. -/
structure GCControllerDirectionPad.Consistent (pad : GCControllerDirectionPad) : Prop where
  leftValue : pad.left.value = max 0 (-pad.xAxis.value)
  rightValue : pad.right.value = max 0 pad.xAxis.value
  upValue : pad.up.value = max 0 (-pad.yAxis.value)
  downValue : pad.down.value = max 0 pad.yAxis.value
  left : pad.left.Consistent
  right : pad.right.Consistent
  up : pad.up.Consistent
  down : pad.down.Consistent

namespace GCControllerElement

def Consistent : GCControllerElement → Prop
  | .button input => input.Consistent
  | .directionPad pad => pad.Consistent

/-- The number of values an element reads. -/
def width {α : Type} : GCControllerElement α → Nat
  | .button _ => 1
  | .directionPad _ => 2

/-- The values last read. -/
def values : GCControllerElement → List ℚ
  | .button input => [input.value]
  | .directionPad pad => [pad.xAxis.value, pad.yAxis.value]

end GCControllerElement

theorem GCControllerButtonInput.buttonWithParent_consistent (isAnalog : Bool) :
    (buttonWithParent isAnalog).Consistent := by
  have hThreshold : ¬ (0 : ℚ) > pressThreshold := by norm_num [pressThreshold]
  simp only [Consistent, buttonWithParent, hThreshold, decide_false]

theorem GCControllerDirectionPad.dpadWithParent_consistent (isAnalog : Bool) :
    (dpadWithParent isAnalog).Consistent := by
  have hButton := GCControllerButtonInput.buttonWithParent_consistent isAnalog
  constructor
  · exact (by simp : (0 : ℚ) = max 0 (-0))
  · exact (by simp : (0 : ℚ) = max 0 0)
  · exact (by simp : (0 : ℚ) = max 0 (-0))
  · exact (by simp : (0 : ℚ) = max 0 0)
  · exact hButton
  · exact hButton
  · exact hButton
  · exact hButton

theorem GCControllerButtonInput.Consistent.tweakSetValue {tweak : GCControllerButtonInput}
    (hConsistent : tweak.Consistent) (value : ℚ) :
    (tweak.tweakSetValue value).1.value = value ∧ (tweak.tweakSetValue value).1.Consistent := by
  unfold GCControllerButtonInput.tweakSetValue
  split_ifs with hChanged
  · exact ⟨rfl, rfl⟩
  · exact ⟨(not_not.mp hChanged).symm, hConsistent⟩

theorem GCControllerAxisInput.tweakSetValue_value (tweak : GCControllerAxisInput) (value : ℚ) :
    (tweak.tweakSetValue value).1.value = value := by
  unfold tweakSetValue
  split_ifs with hChanged
  · rfl
  · exact (not_not.mp hChanged).symm

/-- The magnitude of the part below zero. -/
theorem abs_of_below (value : ℚ) : (if value < 0 then |value| else 0) = max 0 (-value) := by
  split_ifs with hNeg
  · rw [abs_of_neg hNeg, max_eq_right (neg_nonneg.mpr hNeg.le)]
  · rw [max_eq_left (neg_nonpos.mpr (not_lt.mp hNeg))]

theorem part_above (value : ℚ) : (if value > 0 then value else 0) = max 0 value := by
  split_ifs with hPos
  · rw [max_eq_right hPos.le]
  · rw [max_eq_left (not_lt.mp hPos)]

/-- After the early return, too, the pad has the values and its buttons are
the ones for them. -/
theorem GCControllerDirectionPad.Consistent.tweakSetValues {tweak : GCControllerDirectionPad}
    (hConsistent : tweak.Consistent) (x y : ℚ) :
    (tweak.tweakSetValues x y).1.xAxis.value = x ∧
      (tweak.tweakSetValues x y).1.yAxis.value = y ∧
      (tweak.tweakSetValues x y).1.Consistent := by
  by_cases hSame : ¬ Scalar.ne tweak.xAxis.value x ∧ ¬ Scalar.ne tweak.yAxis.value y
  · -- the early return: the buttons are right because they were before
    rw [GCControllerDirectionPad.tweakSetValues, if_pos hSame]
    exact ⟨not_not.mp hSame.1, not_not.mp hSame.2, hConsistent⟩
  · rw [GCControllerDirectionPad.tweakSetValues, if_neg hSame]
    have hX := tweak.xAxis.tweakSetValue_value x
    have hY := tweak.yAxis.tweakSetValue_value y
    obtain ⟨hLeft, hLeft'⟩ := hConsistent.left.tweakSetValue (if x < 0 then |x| else 0)
    obtain ⟨hRight, hRight'⟩ := hConsistent.right.tweakSetValue (if x > 0 then x else 0)
    obtain ⟨hUp, hUp'⟩ := hConsistent.up.tweakSetValue (if y < 0 then |y| else 0)
    obtain ⟨hDown, hDown'⟩ := hConsistent.down.tweakSetValue (if y > 0 then y else 0)
    refine ⟨hX, hY, ?_, ?_, ?_, ?_, hLeft', hRight', hUp', hDown'⟩
    · exact (hLeft.trans (abs_of_below x)).trans (congrArg (fun value => max 0 (-value)) hX.symm)
    · exact (hRight.trans (part_above x)).trans (congrArg (max 0) hX.symm)
    · exact (hUp.trans (abs_of_below y)).trans (congrArg (fun value => max 0 (-value)) hY.symm)
    · exact (hDown.trans (part_above y)).trans (congrArg (max 0) hY.symm)

namespace GCControllerElement

/-- An element reads exactly its slice of the buffer. -/
theorem Consistent.tweakSetValues {tweak : GCControllerElement} (hConsistent : tweak.Consistent)
    {slice : List ℚ} (hWidth : tweak.width = slice.length) (rest : List ℚ) :
    ∃ tweak' calls, tweak.tweakSetValues (slice ++ rest) = some (tweak', slice.length, calls) ∧
      tweak'.values = slice ∧ tweak'.width = slice.length ∧ tweak'.Consistent := by
  cases tweak with
  | button input =>
      obtain ⟨value, rfl⟩ := List.length_eq_one_iff.mp hWidth.symm
      obtain ⟨hValue, hConsistent'⟩ := GCControllerButtonInput.Consistent.tweakSetValue
        hConsistent value
      exact ⟨.button (input.tweakSetValue value).1, _, rfl, congrArg (fun v => [v]) hValue, rfl,
        hConsistent'⟩
  | directionPad pad =>
      obtain ⟨x, y, rfl⟩ := List.length_eq_two.mp hWidth.symm
      obtain ⟨hX, hY, hConsistent'⟩ := GCControllerDirectionPad.Consistent.tweakSetValues
        hConsistent x y
      exact ⟨.directionPad (pad.tweakSetValues x y).1, _, rfl,
        congrArg₂ (fun x y => [x, y]) hX hY, rfl, hConsistent'⟩

/-- A consistent element that has read floats shows them: no float lies between
the rounded constant of the code and 0.0001. -/
theorem Consistent.shows {element : GCControllerElement} (hConsistent : element.Consistent)
    (hFloats : ∀ value ∈ element.values, IsFloat value) : element.Shows element.values := by
  have hPressed {input : GCControllerButtonInput} (hInput : input.Consistent) {value : ℚ}
      (hValue : input.value = value) (hFloat : IsFloat value) : input.Shows value := by
    subst hValue
    -- the code compares with the float next to 0.0001, which is below it
    have hIff : pressThreshold < input.value ↔ 1 / 10000 < input.value :=
      IsBinaryFloat.lt_iff hFloat (by norm_num) (by norm_num) (by norm_num)
    refine ⟨rfl, ?_⟩
    rw [show input.pressed = decide (input.value > pressThreshold) from hInput,
      decide_eq_true_iff]
    exact hIff
  have hPart {value : ℚ} (hFloat : IsFloat value) : IsFloat (max 0 value) := by
    rcases max_choice 0 value with h | h
    · rw [h]
      exact isBinaryFloat_zero
    · rwa [h]
  cases element with
  | button input => exact hPressed hConsistent rfl (hFloats _ (by simp [values]))
  | directionPad pad =>
      have hX : IsFloat pad.xAxis.value := hFloats _ (by simp [values])
      have hY : IsFloat pad.yAxis.value := hFloats _ (by simp [values])
      constructor
      · rfl
      · rfl
      · exact hPressed hConsistent.left hConsistent.leftValue (hPart hX.neg)
      · exact hPressed hConsistent.right hConsistent.rightValue (hPart hX)
      · exact hPressed hConsistent.up hConsistent.upValue (hPart hY.neg)
      · exact hPressed hConsistent.down hConsistent.downValue (hPart hY)

end GCControllerElement

/-- The loop cuts the buffer into the slices of the elements. -/
theorem updateElements_spec {elements : List GCControllerElement}
    (hConsistent : ∀ element ∈ elements, element.Consistent) {slices : List (List ℚ)}
    (hWidths : elements.map GCControllerElement.width = slices.map List.length) :
    ∃ elements' calls, updateElements elements slices.flatten = some (elements', [], calls) ∧
      elements'.map GCControllerElement.values = slices ∧
      elements'.map GCControllerElement.width = slices.map List.length ∧
      ∀ element ∈ elements', element.Consistent := by
  induction elements generalizing slices with
  | nil =>
      obtain rfl : slices = [] := List.map_eq_nil_iff.mp hWidths.symm
      exact ⟨[], [], rfl, rfl, rfl, by simp⟩
  | cons i elements ih =>
      obtain ⟨slice, slices, rfl⟩ : ∃ slice slices', slices = slice :: slices' := by
        cases slices with
        | nil => simp at hWidths
        | cons slice slices => exact ⟨slice, slices, rfl⟩
      obtain ⟨hWidth, hRest⟩ := List.cons_eq_cons.mp hWidths
      obtain ⟨i', calls, hSet, hValues, hWidth', hHead⟩ :=
        (hConsistent i List.mem_cons_self).tweakSetValues hWidth slices.flatten
      obtain ⟨elements', restCalls, hUpdate, hValues', hWidths', hTail⟩ :=
        ih (fun element hMem => hConsistent element (List.mem_cons_of_mem i hMem)) hRest
      refine ⟨i' :: elements', calls :: restCalls, ?_, ?_, ?_, ?_⟩
      · rw [updateElements, List.flatten_cons, hSet]
        simp only [Option.bind_eq_bind, Option.bind_some, List.drop_left, hUpdate]
        rfl
      · rw [List.map_cons, hValues, hValues']
      · rw [List.map_cons, List.map_cons, hWidth', hWidths']
      · exact List.forall_mem_cons.mpr ⟨hHead, hTail⟩

/-! ## Controllers -/

/-- The elements a controller is built with have the widths of the fields, and
its gamepads find the element of a control at the control's position. -/
structure GCController.WellFormed (tweak : GCController) : Prop where
  widths : ∀ state : MFiWInputStatePacket ℚ,
    tweak.tweakElements.map GCControllerElement.width =
      (MFiButtons.all.map (fieldsOf state)).map List.length
  consistent : ∀ element ∈ tweak.tweakElements, element.Consistent
  properties : ∀ control ref, (control, ref) ∈ tweak.properties →
    MFiButtons.all[ref]? = some control

/-- The packet is the concatenation of the fields of the controls. -/
theorem fields_eq {α : Type} (state : MFiWInputStatePacket α) :
    state.fields = (MFiButtons.all.map (fieldsOf state)).flatten := rfl

theorem controllerForHandle_wellFormed (handle : UInt32) (data : MFiWConnectPacket) :
    (controllerForHandle handle data).WellFormed := by
  constructor
  · intro state
    rfl
  · intro element hMem
    have hPad (control : MFiButtons) : (dpad data control).Consistent :=
      GCControllerDirectionPad.dpadWithParent_consistent _
    have hButton (control : MFiButtons) : (button data control).Consistent :=
      GCControllerButtonInput.buttonWithParent_consistent _
    simp only [controllerForHandle, elementsFor, List.mem_cons, List.not_mem_nil, or_false] at hMem
    rcases hMem with rfl | rfl | rfl | rfl | rfl | rfl | rfl | rfl | rfl | rfl | rfl | rfl | rfl |
      rfl | rfl
    all_goals first | exact hPad _ | exact hButton _
  · have hGamepad : ∀ property ∈ GCGamepad.gamepadForController.properties,
        MFiButtons.all[property.2]? = some property.1 := by decide
    have hExtended : ∀ property ∈ GCExtendedGamepad.gamepadForController.properties,
        MFiButtons.all[property.2]? = some property.1 := by decide
    intro control ref hMem
    rcases List.mem_append.mp hMem with hMem | hMem
    · exact hGamepad (control, ref) hMem
    · simp only [controllerForHandle] at hMem
      split_ifs at hMem
      · exact hExtended (control, ref) hMem
      · simp at hMem

namespace GCController.WellFormed

variable {tweak : GCController}

/-- One packet is consumed as a whole, whatever came before it. -/
theorem tweakUpdateButtons (hWellFormed : tweak.WellFormed) (state : MFiWInputStatePacket ℚ) :
    ∃ elements calls, tweak.tweakUpdateButtons state =
        some ({ tweak with tweakElements := elements }, [], calls) ∧
      ({ tweak with tweakElements := elements } : GCController).WellFormed ∧
      elements.map GCControllerElement.values = MFiButtons.all.map (fieldsOf state) := by
  obtain ⟨elements, calls, hUpdate, hValues, hWidths, hConsistent⟩ :=
    updateElements_spec hWellFormed.consistent (hWellFormed.widths state)
  refine ⟨elements, calls, ?_, ?_, hValues⟩
  · rw [GCController.tweakUpdateButtons, fields_eq, hUpdate]
    rfl
  · exact ⟨fun other => hWidths.trans rfl, hConsistent, hWellFormed.properties⟩

/-- A controller whose elements have read the fields shows them. -/
theorem shows (hWellFormed : tweak.WellFormed) {state : FloatState}
    (hValues : tweak.tweakElements.map GCControllerElement.values =
      MFiButtons.all.map (fieldsOf state.val)) : tweak.Shows state.val := by
  intro control ref hMem
  have hControl := hWellFormed.properties control ref hMem
  have hSlice : (tweak.tweakElements.map GCControllerElement.values)[ref]? =
      some (fieldsOf state.val control) := by
    rw [hValues, List.getElem?_map, hControl]
    rfl
  rw [List.getElem?_map] at hSlice
  obtain ⟨element, hElement, hShown⟩ := Option.map_eq_some_iff.mp hSlice
  refine ⟨element, hElement, ?_⟩
  rw [← hShown]
  refine (hWellFormed.consistent element (List.mem_of_getElem? hElement)).shows ?_
  intro value hValue
  refine state.property value ?_
  rw [fields_eq, List.mem_flatten]
  exact ⟨_, List.mem_map_of_mem (List.mem_of_getElem? hControl), hShown ▸ hValue⟩

end GCController.WellFormed

/-- After every packet everything that can be reached through the gamepads of a
controller shows the fields with its name, and nothing of the packet is left
unread. -/
theorem tweakUpdateButtons_shows (handle : UInt32) (data : MFiWConnectPacket)
    (before : List FloatState) (state : FloatState) :
    ∃ tweak tweak' calls,
      run update (controllerForHandle handle data) before = some tweak ∧
      tweak.tweakUpdateButtons state.val = some (tweak', [], calls) ∧
      tweak'.properties = (controllerForHandle handle data).properties ∧
      tweak'.Shows state.val := by
  have hStep (tweak : GCController) (state : FloatState)
      (hInv : tweak.WellFormed ∧
        tweak.properties = (controllerForHandle handle data).properties) :
      ∃ tweak', update tweak state = some tweak' ∧ tweak'.WellFormed ∧
        tweak'.properties = (controllerForHandle handle data).properties := by
    obtain ⟨elements, calls, hUpdate, hWellFormed, -⟩ := hInv.1.tweakUpdateButtons state.val
    exact ⟨_, by rw [update, hUpdate]; rfl, hWellFormed, hInv.2⟩
  obtain ⟨tweak, hRun, hWellFormed, hProperties⟩ :=
    run_invariant hStep ⟨controllerForHandle_wellFormed handle data, rfl⟩ before
  obtain ⟨elements, calls, hUpdate, hWellFormed', hValues⟩ :=
    hWellFormed.tweakUpdateButtons state.val
  exact ⟨tweak, _, calls, hRun, hUpdate, hProperties, hWellFormed'.shows hValues⟩

end Frontend
end MFiWrapper
