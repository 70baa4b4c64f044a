import MFiWrapper.Frontend.Keyboard
import MFiWrapper.Frontend.Notifications
import MFiWrapper.Frontend.ReceivedPackets
import MFiWrapper.Library.Updates

/-!
# Handlers only listen

Which handlers an application has set decides about what it is told and about nothing
else: every operation of the frontend does the same to a frontend without handlers.
-/

namespace MFiWrapper
namespace Frontend

open Library

variable {α : Type}

/-! ## Without handlers -/

def GCControllerButtonInput.quiet (input : GCControllerButtonInput α) :
    GCControllerButtonInput α :=
  { input with valueChangedHandler := false }

def GCControllerAxisInput.quiet (input : GCControllerAxisInput α) : GCControllerAxisInput α :=
  { input with valueChangedHandler := false }

def GCControllerDirectionPad.quiet (pad : GCControllerDirectionPad α) :
    GCControllerDirectionPad α where
  analog := pad.analog
  xAxis := pad.xAxis.quiet
  yAxis := pad.yAxis.quiet
  up := pad.up.quiet
  down := pad.down.quiet
  left := pad.left.quiet
  right := pad.right.quiet
  valueChangedHandler := false

def GCControllerElement.quiet : GCControllerElement α → GCControllerElement α
  | .button input => .button input.quiet
  | .directionPad pad => .directionPad pad.quiet

def GCController.quiet (tweak : GCController α) : GCController α :=
  { tweak with
    tweakElements := tweak.tweakElements.map GCControllerElement.quiet
    controllerPausedHandler := false }

/-- What the application is told without handlers. -/
def Notice.quiet : Notice α → Option (Notice α)
  | .didConnect tweak => some (.didConnect tweak)
  | .didDisconnect tweak => some (.didDisconnect tweak)
  | .valuesChanged tweak calls => some (.valuesChanged tweak (calls.map fun _ => []))
  | .paused _ => none

def State.quiet (frontend : State α) : State α :=
  { frontend with
    created := frontend.created.map GCController.quiet
    notices := frontend.notices.filterMap Notice.quiet }

/-- The application sets or clears the handler of a part of an element. -/
def State.setHandler (ref : ControllerRef) (element : ElementRef) (part : Part) (isSet : Bool)
    (frontend : State α) : State α :=
  { frontend with created := frontend.created.modify ref fun tweak =>
      { tweak with tweakElements :=
          tweak.tweakElements.modify element (GCControllerElement.setHandler part isSet) } }

/-! ## Setting handlers -/

theorem GCControllerElement.setHandler_quiet (part : Part) (isSet : Bool)
    (element : GCControllerElement α) : (element.setHandler part isSet).quiet = element.quiet := by
  cases element with
  | button input => cases part <;> rfl
  | directionPad pad => cases part <;> rfl

theorem State.setHandler_quiet (ref : ControllerRef) (element : ElementRef) (part : Part)
    (isSet : Bool) (frontend : State α) :
    (frontend.setHandler ref element part isSet).quiet = frontend.quiet := by
  simp only [quiet, setHandler]
  rw [map_modify_of_same]
  intro tweak
  simp only [GCController.quiet]
  rw [map_modify_of_same (GCControllerElement.setHandler_quiet part isSet)]

theorem State.setPausedHandler_quiet (ref : ControllerRef) (isSet : Bool) (frontend : State) :
    (frontend.setPausedHandler ref isSet).quiet = frontend.quiet := by
  unfold setPausedHandler
  split
  · rfl
  · rename_i tweak hTweak
    have hSame : (frontend.created.set ref { tweak with controllerPausedHandler := isSet }).map
        GCController.quiet = frontend.created.map GCController.quiet := map_set_of_same hTweak rfl
    simp only [quiet, hSame]

theorem GCControllerElement.quiet_shows (element : GCControllerElement) (values : List ℚ) :
    element.quiet.Shows values ↔ element.Shows values := by
  cases element with
  | button input =>
      rcases values with _ | ⟨value, _ | ⟨other, rest⟩⟩
      · rfl
      · rfl
      · rfl
  | directionPad pad =>
      rcases values with _ | ⟨x, _ | ⟨y, _ | ⟨z, rest⟩⟩⟩
      · rfl
      · rfl
      · exact ⟨fun ⟨hX, hY, hLeft, hRight, hUp, hDown⟩ => ⟨hX, hY, hLeft, hRight, hUp, hDown⟩,
          fun ⟨hX, hY, hLeft, hRight, hUp, hDown⟩ => ⟨hX, hY, hLeft, hRight, hUp, hDown⟩⟩
      · rfl

/-! ## Packets -/

section Values

variable [Scalar α]

theorem GCControllerButtonInput.tweakSetValue_quiet (input : GCControllerButtonInput α)
    (value : α) :
    input.quiet.tweakSetValue value = ((input.tweakSetValue value).1.quiet, []) := by
  unfold tweakSetValue
  by_cases hChanged : Scalar.ne value input.value
  · rw [if_pos hChanged, if_pos (by exact hChanged)]
    rfl
  · rw [if_neg hChanged, if_neg (by exact hChanged)]

theorem GCControllerAxisInput.tweakSetValue_quiet (input : GCControllerAxisInput α) (value : α) :
    input.quiet.tweakSetValue value = ((input.tweakSetValue value).1.quiet, []) := by
  unfold tweakSetValue
  by_cases hChanged : Scalar.ne value input.value
  · rw [if_pos hChanged, if_pos (by exact hChanged)]
    rfl
  · rw [if_neg hChanged, if_neg (by exact hChanged)]

theorem GCControllerDirectionPad.tweakSetValues_quiet (pad : GCControllerDirectionPad α)
    (x y : α) : pad.quiet.tweakSetValues x y = ((pad.tweakSetValues x y).1.quiet, []) := by
  unfold tweakSetValues
  by_cases hSame : ¬ Scalar.ne pad.xAxis.value x ∧ ¬ Scalar.ne pad.yAxis.value y
  · rw [if_pos hSame, if_pos (by exact hSame)]
  · rw [if_neg hSame, if_neg (by exact hSame)]
    simp only [quiet, GCControllerAxisInput.tweakSetValue_quiet,
      GCControllerButtonInput.tweakSetValue_quiet]
    rfl

theorem GCControllerElement.tweakSetValues_quiet (element : GCControllerElement α)
    (values : List α) :
    element.quiet.tweakSetValues values =
      (element.tweakSetValues values).map fun (element, consumed, _) =>
        (element.quiet, consumed, []) := by
  cases element with
  | button input =>
      simp only [quiet, tweakSetValues, GCControllerButtonInput.tweakSetValue_quiet]
      cases values[0]? <;> rfl
  | directionPad pad =>
      simp only [quiet, tweakSetValues, GCControllerDirectionPad.tweakSetValues_quiet]
      cases values[0]? with
      | none => rfl
      | some x => cases values[1]? <;> rfl

theorem updateElements_quiet (elements : List (GCControllerElement α)) (buf : List α) :
    updateElements (elements.map GCControllerElement.quiet) buf =
      (updateElements elements buf).map fun (elements, left, calls) =>
        (elements.map GCControllerElement.quiet, left, calls.map fun _ => []) := by
  induction elements generalizing buf with
  | nil => rfl
  | cons i elements ih =>
      simp only [List.map_cons, updateElements, GCControllerElement.tweakSetValues_quiet]
      cases i.tweakSetValues buf with
      | none => rfl
      | some result =>
          simp only [Option.map_some, Option.bind_eq_bind, Option.bind_some, ih]
          cases updateElements elements (buf.drop result.2.1) <;> rfl

theorem GCController.tweakUpdateButtons_quiet (tweak : GCController α)
    (data : MFiWInputStatePacket α) :
    tweak.quiet.tweakUpdateButtons data =
      (tweak.tweakUpdateButtons data).map fun (tweak, left, calls) =>
        (tweak.quiet, left, calls.map fun _ => []) := by
  simp only [tweakUpdateButtons, quiet, updateElements_quiet]
  cases updateElements tweak.tweakElements data.fields <;> rfl

end Values

namespace State

variable (frontend : State α)

/-- The search only looks at handles. -/
theorem handleOf_quiet : frontend.quiet.handleOf = frontend.handleOf := by
  funext ref
  simp only [handleOf, quiet, List.getElem?_map, Option.map_map]
  rfl

theorem idx_quiet (aHandle : UInt32) : frontend.quiet.idx aHandle = frontend.idx aHandle := by
  unfold idx findControllerByHandle
  rw [handleOf_quiet]
  rfl

theorem tweak_quiet (aHandle : UInt32) : frontend.quiet.tweak aHandle = frontend.tweak aHandle := by
  rw [State.tweak, idx_quiet]
  rfl

theorem created_quiet (ref : ControllerRef) :
    frontend.quiet.created[ref]? = frontend.created[ref]?.map GCController.quiet :=
  List.getElem?_map ..

theorem handles_quiet : frontend.quiet.handles = frontend.handles := by
  rw [handles, handleOf_quiet]
  rfl

theorem setControllerIndex_quiet (aHandle : UInt32) (aIndex : Int32) :
    frontend.quiet.setControllerIndex aHandle aIndex =
      (frontend.setControllerIndex aHandle aIndex).quiet := by
  unfold setControllerIndex
  by_cases hSends : frontend.connection ∧ aHandle ≠ MFiWLocalHandle
  · rw [if_pos hSends, if_pos (by exact hSends)]
    rfl
  · rw [if_neg hSends, if_neg (by exact hSends)]

theorem setPlayerIndex_quiet (ref : ControllerRef) (index : Int64) :
    frontend.quiet.setPlayerIndex ref index = (frontend.setPlayerIndex ref index).quiet := by
  unfold setPlayerIndex
  simp only [quiet, List.getElem?_map]
  cases frontend.created[ref]? with
  | none => rfl
  | some tweak =>
      simp only [Option.map_some]
      rw [← quiet, ← setControllerIndex_quiet]
      simp only [quiet, List.map_set]
      rfl

theorem handlePacketDisconnect_quiet (aHandle : UInt32) :
    frontend.quiet.handlePacketDisconnect aHandle =
      (frontend.handlePacketDisconnect aHandle).map quiet := by
  have hControllers : frontend.quiet.controllers = frontend.controllers := rfl
  unfold handlePacketDisconnect
  rw [idx_quiet, hControllers]
  cases frontend.controllers with
  | none => rfl
  | some controllers =>
      cases frontend.idx aHandle with
      | none => rfl
      | some i =>
          simp only [Option.bind_eq_bind, Option.bind_some]
          cases controllers[i]? with
          | none => rfl
          | some tweak =>
              simp only [Option.bind_some, quiet, Option.map_some, Option.pure_def,
                List.filterMap_append]
              rfl

theorem handlePacketPausePressed_quiet (aHandle : UInt32) :
    frontend.quiet.handlePacketPausePressed aHandle =
      (frontend.handlePacketPausePressed aHandle).quiet := by
  unfold handlePacketPausePressed
  rw [tweak_quiet]
  cases frontend.tweak aHandle with
  | none => rfl
  | some ref =>
      have hQuiet : ((frontend.quiet.created[ref]?.map
          GCController.controllerPausedHandler).getD false) = false := by
        rw [created_quiet]
        cases frontend.created[ref]? <;> rfl
      simp only [hQuiet, Bool.false_eq_true, if_false]
      split_ifs
      · -- the call of the handler is all there is
        have hPaused : [Notice.paused ref].filterMap Notice.quiet = ([] : List (Notice α)) := rfl
        simp only [quiet, List.filterMap_append, hPaused, List.append_nil]
      · rfl

variable [Scalar α]

theorem handlePacketConnect_quiet (aHandle : UInt32) (data : MFiWConnectPacket) :
    frontend.quiet.handlePacketConnect aHandle data =
      (frontend.handlePacketConnect aHandle data).quiet := by
  unfold handlePacketConnect
  rw [setControllerIndex_quiet]
  simp only [quiet, List.length_map, List.map_append, List.filterMap_append]
  rfl

theorem handlePacketInputState_quiet (aHandle : UInt32) (data : MFiWInputStatePacket α) :
    frontend.quiet.handlePacketInputState aHandle data =
      (frontend.handlePacketInputState aHandle data).map quiet := by
  unfold handlePacketInputState
  rw [tweak_quiet]
  cases frontend.tweak aHandle with
  | none => rfl
  | some ref =>
      simp only [created_quiet]
      cases frontend.created[ref]? with
      | none => rfl
      | some tweak =>
          simp only [Option.map_some, Option.bind_eq_bind, Option.bind_some,
            GCController.tweakUpdateButtons_quiet]
          cases tweak.tweakUpdateButtons data with
          | none => rfl
          | some result =>
              simp only [Option.map_some, Option.bind_some, quiet, Option.pure_def,
                List.map_set, List.filterMap_append]
              rfl

/-- A packet does the same to a frontend without handlers. -/
theorem handlePacket_quiet (packet : MFiWPacket α) :
    frontend.quiet.handlePacket packet = (frontend.handlePacket packet).map quiet := by
  cases packet with
  | connect handle data => exact congrArg some (frontend.handlePacketConnect_quiet handle data)
  | disconnect handle => exact frontend.handlePacketDisconnect_quiet handle
  | inputState handle data => exact frontend.handlePacketInputState_quiet handle data
  | setPlayerIndex handle value => rfl
  | pausePressed handle => exact congrArg some (frontend.handlePacketPausePressed_quiet handle)

/-- So do the bytes received. -/
theorem handleDataPacket_quiet (ofBits : UInt32 → α) (aPacket : MFiWDataPacket) :
    frontend.quiet.handleDataPacket ofBits aPacket =
      (frontend.handleDataPacket ofBits aPacket).map quiet := by
  unfold handleDataPacket
  cases aPacket.knownType with
  | none => rfl
  | some type =>
      cases type with
      | connect =>
          simp only [handlePacketConnect_quiet]
          split_ifs <;> rfl
      | disconnect => exact frontend.handlePacketDisconnect_quiet _
      | inputState => exact frontend.handlePacketInputState_quiet _ _
      | pausePressed => exact congrArg some (frontend.handlePacketPausePressed_quiet _)
      | setPlayerIndex => rfl

end State

end Frontend
end MFiWrapper
