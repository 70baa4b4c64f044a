import MFiWrapper.Frontend.HeardChanges

/-!
# Listeners

What a packet does to a value handler: an input state for its controller calls it if the
value of its part changes, and nothing else does.  A handler that the application sets when
the controller connects is there from then on.
-/

namespace MFiWrapper
namespace Frontend

open Library

/-- The application sets such a handler whenever a controller connects, and never clears
it. -/
structure Application.Listens (application : Application) (element : ElementRef) (part : Part) :
    Prop where
  sets : ∀ frontend ref,
    .setHandler ref element part true ∈ application frontend (.didConnect ref)
  keeps : application.Keeps element part

/-- The elements have read the state. -/
def GCController.Holds (tweak : GCController) (state : MFiWInputStatePacket ℚ) : Prop :=
  List.Forall₂ GCControllerElement.Holds tweak.tweakElements (MFiButtons.all.map (fieldsOf state))

theorem GCController.holds_quiet {tweak : GCController} {state : MFiWInputStatePacket ℚ} :
    tweak.quiet.Holds state ↔ tweak.Holds state := by
  simp only [Holds, quiet, List.forall₂_map_left_iff, GCControllerElement.holds_quiet]

theorem GCController.WellFormed.holds {tweak : GCController} (hWellFormed : tweak.WellFormed)
    {state : MFiWInputStatePacket ℚ}
    (hValues : tweak.tweakElements.map GCControllerElement.values =
      MFiButtons.all.map (fieldsOf state)) : tweak.Holds state := by
  rw [Holds, ← hValues, List.forall₂_map_right_iff, List.forall₂_same]
  exact fun element hMem => ⟨hWellFormed.consistent element hMem, rfl⟩

theorem GCControllerElement.handlerSet_set {part : Part} {tweak : GCControllerElement}
    (hPart : (tweak.storedCall part).isSome) :
    (tweak.setHandler part true).handlerSet part = true := by
  cases tweak <;> cases part <;> first | rfl | cases hPart

namespace State

section Part

variable {application : Application} {ref : ControllerRef} {element : ElementRef} {part : Part}
  {frontend frontend' : State}

theorem tell_undisturbed {notice : Notice} (hOther : notice.valuesFor ref element part = [])
    (frontend : State) :
    Undisturbed application ref element part frontend (frontend.tell application notice) := by
  refine ⟨?_, fun hKeeps hSet => tell_handler hKeeps notice hSet⟩
  rw [tell_heard, hOther, List.append_nil]

/-- Nothing was told, and the elements are the same. -/
theorem undisturbed_of_same (hNotices : frontend'.notices = frontend.notices)
    (hElement : ∀ tweak, frontend.elementAt ref element = some tweak →
      frontend'.elementAt ref element = some tweak) :
    Undisturbed application ref element part frontend frontend' := by
  refine ⟨by rw [valuesHeard, hNotices, valuesHeard], fun _ hSet => ?_⟩
  obtain ⟨tweak, hTweak, hHandler⟩ := (Option.any_eq_true ..).mp hSet
  exact (Option.any_eq_true ..).mpr ⟨tweak, hElement tweak hTweak, hHandler⟩

/-! ## Packets that call no value handler -/

theorem handlePacketConnectWith_undisturbed (aHandle : UInt32) (data : MFiWConnectPacket)
    (frontend : State) :
    Undisturbed application ref element part frontend
      (frontend.handlePacketConnectWith application aHandle data) := by
  refine Undisturbed.trans (undisturbed_of_same ?_ fun tweak hTweak => ?_)
    (tell_undisturbed rfl _)
  · exact setControllerIndex_notices _ _ _
  · obtain ⟨controller, hController, hElement⟩ := Option.bind_eq_some_iff.mp hTweak
    have hLt := (List.getElem?_eq_some_iff.mp hController).1
    rw [elementAt]
    simp only [setControllerIndex_created, List.getElem?_append_left hLt, hController]
    exact hElement

theorem handlePacketDisconnectWith_undisturbed {aHandle : UInt32}
    (hStep : frontend.handlePacketDisconnectWith application aHandle = some frontend') :
    Undisturbed application ref element part frontend frontend' := by
  unfold handlePacketDisconnectWith at hStep
  split at hStep
  · exact Option.some.inj hStep ▸ .refl frontend
  next controllers hControllers =>
    obtain ⟨i, -, hRest⟩ := Option.bind_eq_some_iff.mp hStep
    obtain ⟨tweak, -, hReturn⟩ := Option.bind_eq_some_iff.mp hRest
    obtain rfl := Option.some.inj hReturn
    refine Undisturbed.trans ?_ (tell_undisturbed rfl _)
    exact undisturbed_of_same rfl fun _ hSame => hSame

theorem handlePacketPausePressedWith_undisturbed (aHandle : UInt32) (frontend : State) :
    Undisturbed application ref element part frontend
      (frontend.handlePacketPausePressedWith application aHandle) := by
  unfold handlePacketPausePressedWith
  split
  · exact .refl frontend
  · split_ifs
    · exact tell_undisturbed rfl frontend
    · exact .refl frontend

/-- The state is for another controller. -/
theorem handlePacketInputStateWith_undisturbed {aHandle : UInt32}
    {data : MFiWInputStatePacket ℚ} (hOther : frontend.tweak aHandle ≠ some ref)
    (hStep : frontend.handlePacketInputStateWith application aHandle data = some frontend') :
    Undisturbed application ref element part frontend frontend' := by
  unfold handlePacketInputStateWith at hStep
  split at hStep
  · exact Option.some.inj hStep ▸ .refl frontend
  next other hTweak =>
    obtain ⟨tweak, -, hLoop⟩ := Option.bind_eq_some_iff.mp hStep
    refine updateEach_other (fun i _ hSame => hOther ?_) hLoop
    rw [hTweak, (Prod.mk.inj hSame).1]

/-- Only an input state for its controller disturbs a handler. -/
theorem handlePacketWith_undisturbed {packet : MFiWPacket ℚ}
    (hOther : ∀ handle data, packet = .inputState handle data → frontend.tweak handle ≠ some ref)
    (hStep : frontend.handlePacketWith application packet = some frontend') :
    Undisturbed application ref element part frontend frontend' := by
  cases packet with
  | connect handle data =>
      exact Option.some.inj hStep ▸ handlePacketConnectWith_undisturbed handle data frontend
  | disconnect handle => exact handlePacketDisconnectWith_undisturbed hStep
  | inputState handle data =>
      exact handlePacketInputStateWith_undisturbed (hOther handle data rfl) hStep
  | pausePressed handle =>
      exact Option.some.inj hStep ▸ handlePacketPausePressedWith_undisturbed handle frontend
  | setPlayerIndex handle value => exact Option.some.inj hStep ▸ .refl frontend

/-! ## Input states -/

/-- A handler hears what an input state changes about its part. -/
theorem handlePacketInputStateWith_hears {aHandle : UInt32} {last data : MFiWInputStatePacket ℚ}
    {tweak : GCController} (hFound : frontend.tweak aHandle = some ref)
    (hTweak : frontend.created[ref]? = some tweak) (hHolds : tweak.Holds last)
    (hStep : frontend.handlePacketInputStateWith application aHandle data = some frontend')
    (control : MFiButtons) (part : Part) :
    Hears application ref control.index part (callFor part (fieldsOf last control))
      (callFor part (fieldsOf data control)) frontend frontend' := by
  have hFields (state : MFiWInputStatePacket ℚ) :
      (MFiButtons.all.map (fieldsOf state))[control.index]? = some (fieldsOf state control) := by
    cases control <;> rfl
  have hLength : tweak.tweakElements.length = (MFiButtons.all.map (fieldsOf data)).length :=
    hHolds.length_eq
  simp only [handlePacketInputStateWith, hFound, hTweak, Option.bind_eq_bind,
    Option.bind_some, List.range_eq_range', hLength, fields_eq] at hStep
  have hHold (j : Nat) (old : List ℚ) (hOld : (MFiButtons.all.map (fieldsOf last))[j]? = some old) :
      ∃ element, frontend.elementAt ref (0 + j) = some element ∧ element.Holds old := by
    obtain ⟨hLt, rfl⟩ := List.getElem?_eq_some_iff.mp hOld
    have hLt' : j < tweak.tweakElements.length := hHolds.length_eq ▸ hLt
    refine ⟨tweak.tweakElements[j], ?_, hHolds.get hLt' hLt⟩
    rw [elementAt, hTweak, Nat.zero_add]
    exact List.getElem?_eq_getElem hLt'
  have hLengths : (MFiButtons.all.map (fieldsOf last)).map List.length =
      (MFiButtons.all.map (fieldsOf data)).map List.length := rfl
  have hHears := (updateEach_hears hHold hLengths hStep (hFields last) (hFields data) :
    Hears application ref (0 + control.index) part _ _ frontend frontend')
  rwa [Nat.zero_add] at hHears

/-! ## New controllers -/

/-- A handler that is set and not cleared afterwards is there in the end. -/
theorem acts_set {actions : List Action} (hSets : .setHandler ref element part true ∈ actions)
    (hKeeps : .setHandler ref element part false ∉ actions) {tweak : GCControllerElement}
    (hTweak : frontend.elementAt ref element = some tweak)
    (hPart : (tweak.storedCall part).isSome) :
    (actions.foldl act frontend).handlerAt ref element part = true := by
  induction actions generalizing frontend tweak with
  | nil => cases hSets
  | cons action actions ih =>
      have hRest := List.not_mem_of_not_mem_cons hKeeps
      rcases List.mem_cons.mp hSets with rfl | hLater
      · have hSet : (frontend.act (.setHandler ref element part true)).handlerAt ref element
            part = true := by
          show ((frontend.changeElement ref element (.setHandler part true)).elementAt ref
            element).any _ = true
          rw [elementAt_changeElement, hTweak, Option.map_some, if_pos rfl]
          exact GCControllerElement.handlerSet_set hPart
        rw [List.foldl_cons]
        exact acts_handlerAt hRest hSet
      · -- the element is the same but for its handlers
        have hSame : ((frontend.act action).elementAt ref element).map
            GCControllerElement.quiet = some tweak.quiet := by
          rw [elementAt_quiet, act_quietElements, ← elementAt_quiet, hTweak, Option.map_some]
        obtain ⟨tweak', hTweak', hQuiet⟩ := Option.map_eq_some_iff.mp hSame
        refine ih hLater hRest hTweak' ?_
        rw [← tweak'.storedCall_quiet, hQuiet, tweak.storedCall_quiet]
        exact hPart

/-- An application that listens has a handler at each new controller. -/
theorem handlePacketConnectWith_listens {control : MFiButtons}
    (hListens : application.Listens control.index part)
    (hPart : (callFor part (fieldsOf .zero control)).isSome) (aHandle : UInt32)
    (data : MFiWConnectPacket) (frontend : State) :
    (frontend.handlePacketConnectWith application aHandle data).handlerAt
      frontend.created.length control.index part = true := by
  obtain ⟨tweak, hTweak, hCall⟩ : ∃ tweak,
      (controllerForHandle aHandle data).tweakElements[control.index]? = some tweak ∧
        tweak.storedCall part = callFor part (fieldsOf .zero control) := by
    cases control <;> exact ⟨_, rfl, by cases part <;> rfl⟩
  have hPart' : (tweak.storedCall part).isSome := hCall ▸ hPart
  refine acts_set (hListens.sets _ _) (hListens.keeps _ _ _) ?_ hPart'
  rw [elementAt]
  simp only [setControllerIndex_created, List.getElem?_concat_length]
  exact hTweak

end Part

end State

end Frontend
end MFiWrapper
