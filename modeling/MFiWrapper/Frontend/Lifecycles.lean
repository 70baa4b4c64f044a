import MFiWrapper.Frontend.Handlers

/-!
# What an application hears of a controller

An application is told of a controller first that it is there, then of its values and its
pause button, and last that it is gone.  The controllers in the array are those that are
there, in the order in which they came.
-/

namespace MFiWrapper
namespace Frontend

open Library

variable {α : Type}

/-- How far an application has come with a controller. -/
inductive Lifecycle
  | unborn | present | gone
  deriving DecidableEq

/-- One more notice; `none` is for one that makes no sense. -/
def Lifecycle.hear : Lifecycle → Notice α → Option Lifecycle
  | .unborn, .didConnect _ => some .present
  | .present, .valuesChanged _ _ => some .present
  | .present, .paused _ => some .present
  | .present, .didDisconnect _ => some .gone
  | _, _ => none

namespace State

/-- The notices about a controller. -/
def heardOf (frontend : State α) (ref : ControllerRef) : List (Notice α) :=
  frontend.notices.filter fun notice => notice.tweak = ref

/-- Where a controller is. -/
def lifecycle (frontend : State α) (ref : ControllerRef) : Lifecycle :=
  if ref ∈ frontend.elements then .present
  else if ref < frontend.created.length then .gone
  else .unborn

/-- The array lists existing controllers in order, and what was told of each controller
makes sense and ends where the controller is. -/
structure Orderly (frontend : State α) : Prop where
  started : frontend.controllers.isSome
  alive : ∀ ref ∈ frontend.elements, ref < frontend.created.length
  sorted : frontend.elements.Pairwise (· < ·)
  heard : ∀ ref, run Lifecycle.hear .unborn (frontend.heardOf ref) = some (frontend.lifecycle ref)

theorem orderly_initial : (initial : State α).startup.Orderly := by
  constructor
  · rfl
  · exact fun _ hMem => nomatch hMem
  · exact List.Pairwise.nil
  · exact fun _ => rfl

variable {frontend frontend' : State α} {ref : ControllerRef} {aHandle : UInt32}

theorem lifecycle_present (hMem : ref ∈ frontend.elements) :
    frontend.lifecycle ref = .present := if_pos hMem

theorem lifecycle_gone (hNot : ref ∉ frontend.elements) (hLt : ref < frontend.created.length) :
    frontend.lifecycle ref = .gone := by
  rw [lifecycle, if_neg hNot, if_pos hLt]

theorem lifecycle_unborn (hNot : ref ∉ frontend.elements)
    (hLt : ¬ ref < frontend.created.length) : frontend.lifecycle ref = .unborn := by
  rw [lifecycle, if_neg hNot, if_neg hLt]

/-- Nothing was told, and the controllers are the same. -/
theorem Orderly.of_same (hOrderly : frontend.Orderly)
    (hControllers : frontend'.controllers = frontend.controllers)
    (hCreated : frontend'.created.length = frontend.created.length)
    (hNotices : frontend'.notices = frontend.notices) : frontend'.Orderly := by
  have hElements : frontend'.elements = frontend.elements := by
    rw [elements, hControllers]
    rfl
  constructor
  · rw [hControllers]
    exact hOrderly.started
  · rw [hElements, hCreated]
    exact hOrderly.alive
  · rw [hElements]
    exact hOrderly.sorted
  · intro ref
    rw [heardOf, hNotices, lifecycle, hElements, hCreated]
    exact hOrderly.heard ref

/-- One more notice makes sense, and other controllers stay where they are. -/
theorem Orderly.heard_concat (hOrderly : frontend.Orderly) {notice : Notice α}
    (hNotices : frontend'.notices = frontend.notices ++ [notice])
    (hHear : (frontend.lifecycle notice.tweak).hear notice =
      some (frontend'.lifecycle notice.tweak))
    (hOthers : ∀ ref, ref ≠ notice.tweak → frontend'.lifecycle ref = frontend.lifecycle ref)
    (ref : ControllerRef) :
    run Lifecycle.hear .unborn (frontend'.heardOf ref) = some (frontend'.lifecycle ref) := by
  rw [heardOf, hNotices, List.filter_append, run_append]
  have hBefore := hOrderly.heard ref
  rw [heardOf] at hBefore
  rw [hBefore, Option.bind_some]
  by_cases hSame : ref = notice.tweak
  · rw [List.filter_cons_of_pos (by simp [hSame]), List.filter_nil, run_singleton, hSame]
    exact hHear
  · rw [List.filter_cons_of_neg (by simp [Ne.symm hSame]), List.filter_nil, hOthers ref hSame]
    rfl

/-- A notice about a controller that stays. -/
theorem Orderly.of_present (hOrderly : frontend.Orderly) (hMem : ref ∈ frontend.elements)
    {notice : Notice α} (hRef : notice.tweak = ref)
    (hHear : Lifecycle.present.hear notice = some .present)
    (hControllers : frontend'.controllers = frontend.controllers)
    (hCreated : frontend'.created.length = frontend.created.length)
    (hNotices : frontend'.notices = frontend.notices ++ [notice]) : frontend'.Orderly := by
  have hElements : frontend'.elements = frontend.elements := by
    rw [elements, hControllers]
    rfl
  have hLifecycle (other : ControllerRef) :
      frontend'.lifecycle other = frontend.lifecycle other := by
    rw [lifecycle, hElements, hCreated]
    rfl
  constructor
  · rw [hControllers]
    exact hOrderly.started
  · rw [hElements, hCreated]
    exact hOrderly.alive
  · rw [hElements]
    exact hOrderly.sorted
  · refine hOrderly.heard_concat hNotices ?_ fun other _ => hLifecycle other
    rw [hLifecycle, lifecycle_present (hRef ▸ hMem)]
    exact hHear

/-! ## Packets -/

theorem setControllerIndex_notices (frontend : State α) (aHandle : UInt32) (aIndex : Int32) :
    (frontend.setControllerIndex aHandle aIndex).notices = frontend.notices := by
  unfold setControllerIndex
  split_ifs <;> rfl

theorem handlePacketConnect_notices [Scalar α] (aHandle : UInt32) (data : MFiWConnectPacket)
    (frontend : State α) : (frontend.handlePacketConnect aHandle data).notices =
      frontend.notices ++ [.didConnect frontend.created.length] := by
  simp only [handlePacketConnect, setControllerIndex_notices, setControllerIndex_created]

theorem Orderly.disconnect (hOrderly : frontend.Orderly)
    (hStep : frontend.handlePacketDisconnect aHandle = some frontend') : frontend'.Orderly := by
  have hControllers := controllers_eq_some hOrderly.started
  rw [handlePacketDisconnect, hControllers] at hStep
  obtain ⟨i, -, hRest⟩ := Option.bind_eq_some_iff.mp hStep
  obtain ⟨ref, hAt, hReturn⟩ := Option.bind_eq_some_iff.mp hRest
  obtain rfl := Option.some.inj hReturn
  obtain ⟨hLt, rfl⟩ := List.getElem?_eq_some_iff.mp hAt
  have hNodup : frontend.elements.Nodup := hOrderly.sorted.imp fun hLt => Nat.ne_of_lt hLt
  have hMem (other : ControllerRef) : other ∈ frontend.elements.eraseIdx i ↔
      other ≠ frontend.elements[i] ∧ other ∈ frontend.elements := by
    rw [← hNodup.erase_getElem i hLt]
    exact hNodup.mem_erase_iff
  constructor
  · rfl
  · exact fun other hOther => hOrderly.alive other ((hMem other).mp hOther).2
  · exact hOrderly.sorted.sublist (List.eraseIdx_sublist _ _)
  · refine hOrderly.heard_concat rfl ?_ fun other hNe => ?_
    · show (frontend.lifecycle frontend.elements[i]).hear _ = _
      rw [lifecycle_present (List.getElem_mem hLt)]
      refine congrArg some (lifecycle_gone (fun hOther => ?_) ?_).symm
      · exact ((hMem _).mp hOther).1 rfl
      · exact hOrderly.alive _ (List.getElem_mem hLt)
    · show (if other ∈ frontend.elements.eraseIdx i then _ else _) = _
      rw [lifecycle]
      exact if_congr ((hMem other).trans (and_iff_right hNe)) rfl rfl

theorem Orderly.pausePressed (hOrderly : frontend.Orderly) (aHandle : UInt32) :
    (frontend.handlePacketPausePressed aHandle).Orderly := by
  unfold handlePacketPausePressed
  split
  · exact hOrderly
  · rename_i ref hTweak
    split_ifs
    · exact hOrderly.of_present (tweak_eq_some hTweak).1 rfl rfl rfl rfl rfl
    · exact hOrderly

section Values

variable [Scalar α]

theorem Orderly.connect (hOrderly : frontend.Orderly) (aHandle : UInt32)
    (data : MFiWConnectPacket) : (frontend.handlePacketConnect aHandle data).Orderly := by
  have hElements := handlePacketConnect_elements aHandle data hOrderly.started
  have hCreated : (frontend.handlePacketConnect aHandle data).created.length =
      frontend.created.length + 1 := by
    rw [handlePacketConnect_created, List.length_append, List.length_singleton]
  have hNotices := handlePacketConnect_notices aHandle data frontend
  have hFresh : frontend.created.length ∉ frontend.elements :=
    fun hMem => lt_irrefl _ (hOrderly.alive _ hMem)
  constructor
  · rw [handlePacketConnect_controllers aHandle data hOrderly.started]
    rfl
  · exact handlePacketConnect_alive aHandle data hOrderly.started hOrderly.alive
  · rw [hElements, List.pairwise_append]
    exact ⟨hOrderly.sorted, List.pairwise_singleton _ _, fun other hOther last hLast =>
      List.mem_singleton.mp hLast ▸ hOrderly.alive other hOther⟩
  · refine hOrderly.heard_concat hNotices ?_ fun other hNe => ?_
    · show (frontend.lifecycle frontend.created.length).hear _ = _
      rw [lifecycle_unborn hFresh (lt_irrefl _)]
      refine congrArg some (lifecycle_present ?_).symm
      rw [hElements]
      exact List.mem_append_right _ (List.mem_singleton.mpr rfl)
    · have hNe' : other ≠ frontend.created.length := hNe
      rw [lifecycle, hElements, hCreated, lifecycle]
      refine if_congr ?_ rfl (if_congr ?_ rfl rfl)
      · rw [List.mem_append, List.mem_singleton]
        exact or_iff_left hNe'
      · exact ⟨fun hLt => (Nat.lt_succ_iff_lt_or_eq.mp hLt).resolve_right hNe', Nat.lt_succ_of_lt⟩

theorem Orderly.inputState (hOrderly : frontend.Orderly) {data : MFiWInputStatePacket α}
    (hStep : frontend.handlePacketInputState aHandle data = some frontend') :
    frontend'.Orderly := by
  unfold handlePacketInputState at hStep
  split at hStep
  · exact Option.some.inj hStep ▸ hOrderly
  · rename_i ref hTweak
    obtain ⟨tweak, -, hRest⟩ := Option.bind_eq_some_iff.mp hStep
    obtain ⟨⟨updated, left, calls⟩, -, hReturn⟩ := Option.bind_eq_some_iff.mp hRest
    obtain rfl := Option.some.inj hReturn
    exact hOrderly.of_present (tweak_eq_some hTweak).1 rfl rfl rfl (List.length_set ..) rfl

/-- Every packet keeps the order, whatever is in it. -/
theorem Orderly.handleDataPacket (hOrderly : frontend.Orderly) {ofBits : UInt32 → α}
    {aPacket : MFiWDataPacket}
    (hStep : frontend.handleDataPacket ofBits aPacket = some frontend') : frontend'.Orderly := by
  unfold State.handleDataPacket at hStep
  split at hStep
  · split_ifs at hStep
    exact Option.some.inj hStep ▸ hOrderly.connect _ _
  · exact hOrderly.disconnect hStep
  · exact hOrderly.inputState hStep
  · exact Option.some.inj hStep ▸ hOrderly.pausePressed _
  · exact Option.some.inj hStep ▸ hOrderly
  · exact Option.some.inj hStep ▸ hOrderly

end Values

/-! ## The application -/

theorem Orderly.setPlayerIndex (hOrderly : frontend.Orderly) (ref : ControllerRef)
    (index : Int64) : (frontend.setPlayerIndex ref index).Orderly := by
  unfold State.setPlayerIndex
  split
  · exact hOrderly
  · refine hOrderly.of_same ?_ ?_ (setControllerIndex_notices ..)
    · rw [setControllerIndex_controllers]
    · rw [setControllerIndex_created, List.length_set]

theorem Orderly.setHandler (hOrderly : frontend.Orderly) (ref : ControllerRef)
    (element : ElementRef) (part : Part) (isSet : Bool) :
    (frontend.setHandler ref element part isSet).Orderly :=
  hOrderly.of_same rfl (List.length_modify ..) rfl

theorem Orderly.setPausedHandler {frontend : State} (hOrderly : frontend.Orderly)
    (ref : ControllerRef) (isSet : Bool) : (frontend.setPausedHandler ref isSet).Orderly := by
  unfold State.setPausedHandler
  split
  · exact hOrderly
  · exact hOrderly.of_same rfl (List.length_set ..) rfl

end State

end Frontend
end MFiWrapper
