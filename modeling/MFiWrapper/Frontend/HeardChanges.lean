import MFiWrapper.Frontend.Lifecycles
import MFiWrapper.Frontend.PostponedActions
import MFiWrapper.Library.Changes

/-!
# What value handlers hear

An update calls the handler of a part if the value of the part changes, whatever other
handlers do meanwhile, unless one of them clears that handler.
-/

namespace MFiWrapper
namespace Frontend

open Library

/-! ## Calls -/

/-- The call for the value of a button. -/
def buttonCall (value : ℚ) : HandlerCall := .button value (decide (value > Scalar.threshold))

/-- What the handler of a part is called with for the values of its element. -/
def callFor (part : Part) : List ℚ → Option HandlerCall
  | [value] =>
      match part with
      | .self => some (buttonCall value)
      | _ => none
  | [x, y] =>
      match part with
      | .self => some (.directionPad x y)
      | .xAxis => some (.axis x)
      | .yAxis => some (.axis y)
      | .left => some (buttonCall (max 0 (-x)))
      | .right => some (buttonCall (max 0 x))
      | .up => some (buttonCall (max 0 (-y)))
      | .down => some (buttonCall (max 0 y))
  | _ => none

/-- The same for what an element has stored. -/
def GCControllerElement.storedCall (part : Part) : GCControllerElement → Option HandlerCall
  | .button input =>
      match part with
      | .self => some (buttonCall input.value)
      | _ => none
  | .directionPad pad =>
      match part with
      | .self => some (.directionPad pad.xAxis.value pad.yAxis.value)
      | .xAxis => some (.axis pad.xAxis.value)
      | .yAxis => some (.axis pad.yAxis.value)
      | .left => some (buttonCall pad.left.value)
      | .right => some (buttonCall pad.right.value)
      | .up => some (buttonCall pad.up.value)
      | .down => some (buttonCall pad.down.value)

theorem buttonCall_inj {value value' : ℚ} : buttonCall value = buttonCall value' ↔ value = value' :=
  ⟨fun hSame => (HandlerCall.button.inj hSame).1, fun hSame => hSame ▸ rfl⟩

theorem GCControllerButtonInput.tweakSetValue_calls (input : GCControllerButtonInput) (value : ℚ) :
    (input.tweakSetValue value).2 =
      if input.valueChangedHandler = true ∧
          some (buttonCall input.value) ≠ some (buttonCall (input.tweakSetValue value).1.value) then
        (some (buttonCall (input.tweakSetValue value).1.value)).toList
      else [] := by
  unfold tweakSetValue
  by_cases hChanged : Scalar.ne value input.value
  · have hCalls : some (buttonCall input.value) ≠ some (buttonCall value) :=
      fun hSame => hChanged (buttonCall_inj.mp (Option.some.inj hSame)).symm
    rw [if_pos hChanged]
    exact if_congr (and_iff_left hCalls).symm rfl rfl
  · rw [if_neg hChanged]
    exact (if_neg fun hBoth => hBoth.2 rfl).symm

theorem GCControllerAxisInput.tweakSetValue_calls (input : GCControllerAxisInput) (value : ℚ) :
    (input.tweakSetValue value).2 =
      if input.valueChangedHandler = true ∧ some (HandlerCall.axis input.value) ≠
          some (.axis (input.tweakSetValue value).1.value) then
        (some (HandlerCall.axis (input.tweakSetValue value).1.value)).toList
      else [] := by
  unfold tweakSetValue
  by_cases hChanged : Scalar.ne value input.value
  · have hCalls : some (HandlerCall.axis input.value) ≠ some (.axis value) :=
      fun hSame => hChanged (HandlerCall.axis.inj (Option.some.inj hSame)).symm
    rw [if_pos hChanged]
    exact if_congr (and_iff_left hCalls).symm rfl rfl
  · rw [if_neg hChanged]
    exact (if_neg fun hBoth => hBoth.2 rfl).symm

namespace GCControllerElement

/-- The element has read the values. -/
def Holds (tweak : GCControllerElement) (values : List ℚ) : Prop :=
  tweak.Consistent ∧ tweak.values = values

theorem holds_quiet {tweak : GCControllerElement} {values : List ℚ} :
    tweak.quiet.Holds values ↔ tweak.Holds values := by
  cases tweak with
  | button input => rfl
  | directionPad pad =>
      constructor
      · rintro ⟨⟨hLeft, hRight, hUp, hDown, hLeft', hRight', hUp', hDown'⟩, hValues⟩
        exact ⟨⟨hLeft, hRight, hUp, hDown, hLeft', hRight', hUp', hDown'⟩, hValues⟩
      · rintro ⟨⟨hLeft, hRight, hUp, hDown, hLeft', hRight', hUp', hDown'⟩, hValues⟩
        exact ⟨⟨hLeft, hRight, hUp, hDown, hLeft', hRight', hUp', hDown'⟩, hValues⟩

theorem storedCall_holds {tweak : GCControllerElement} {values : List ℚ}
    (hHolds : tweak.Holds values) (part : Part) : tweak.storedCall part = callFor part values := by
  obtain ⟨hConsistent, rfl⟩ := hHolds
  cases tweak with
  | button input => cases part <;> rfl
  | directionPad pad =>
      cases part with
      | self | xAxis | yAxis => rfl
      | left => exact congrArg (some ∘ buttonCall) hConsistent.leftValue
      | right => exact congrArg (some ∘ buttonCall) hConsistent.rightValue
      | up => exact congrArg (some ∘ buttonCall) hConsistent.upValue
      | down => exact congrArg (some ∘ buttonCall) hConsistent.downValue

theorem storedCall_quiet (part : Part) (tweak : GCControllerElement) :
    tweak.quiet.storedCall part = tweak.storedCall part := by
  cases tweak <;> cases part <;> rfl

theorem handlerSet_setHandler {part other : Part} {isSet : Bool} (tweak : GCControllerElement)
    (hSet : tweak.handlerSet part = true) (hOther : ¬ (other = part ∧ isSet = false)) :
    (tweak.setHandler other isSet).handlerSet part = true := by
  cases isSet with
  | true => cases tweak <;> cases other <;> cases part <;> first | rfl | exact hSet
  | false =>
      have hNe : other ≠ part := fun hSame => hOther ⟨hSame, rfl⟩
      cases tweak <;> cases other <;> cases part <;> first | exact hSet | exact absurd rfl hNe

/-- A message to another child changes nothing for a child. -/
theorem storedCall_other {part other : Part} (hChild : part ≠ .self) (hOther : other ≠ part)
    (value : ℚ) (tweak : GCControllerElement) :
    (tweak.tweakSetValue other value).1.storedCall part = tweak.storedCall part := by
  cases tweak <;> cases other <;> cases part <;>
    first | rfl | exact absurd rfl hChild | exact absurd rfl hOther

theorem storedCall_others {part : Part} (hChild : part ≠ .self) (messages : List (Part × ℚ))
    (hOthers : ∀ message ∈ messages, message.1 ≠ part) (tweak : GCControllerElement) :
    (tweak.afterMessages messages).storedCall part = tweak.storedCall part := by
  induction messages generalizing tweak with
  | nil => rfl
  | cons message messages ih =>
      obtain ⟨hOther, hRest⟩ := List.forall_mem_cons.mp hOthers
      exact (ih hRest _).trans (storedCall_other hChild hOther message.2 tweak)

theorem messages_pad (messages : List (Part × ℚ)) (pad : GCControllerDirectionPad) :
    ∃ pad', (GCControllerElement.directionPad pad).afterMessages messages =
      .directionPad pad' := by
  induction messages generalizing pad with
  | nil => exact ⟨pad, rfl⟩
  | cons message messages ih =>
      obtain ⟨part, value⟩ := message
      cases part <;> exact ih _

/-- Messages do not touch handlers. -/
theorem tweakSetValue_handlerSet (part : Part) (value : ℚ) (other : Part)
    (tweak : GCControllerElement) :
    (tweak.tweakSetValue part value).1.handlerSet other = tweak.handlerSet other := by
  have hButton (input : GCControllerButtonInput) :
      (input.tweakSetValue value).1.valueChangedHandler = input.valueChangedHandler := by
    unfold GCControllerButtonInput.tweakSetValue
    split_ifs <;> rfl
  have hAxis (input : GCControllerAxisInput) :
      (input.tweakSetValue value).1.valueChangedHandler = input.valueChangedHandler := by
    unfold GCControllerAxisInput.tweakSetValue
    split_ifs <;> rfl
  cases tweak with
  | button input => cases part <;> cases other <;> simp only [tweakSetValue, handlerSet, hButton]
  | directionPad pad =>
      cases part <;> cases other <;> simp only [tweakSetValue, handlerSet, hButton, hAxis]

/-- A message calls the handler if there is one and the call is another than before. -/
theorem tweakSetValue_calls (part : Part) (value : ℚ) (tweak : GCControllerElement) :
    (tweak.tweakSetValue part value).2 =
      if tweak.handlerSet part = true ∧
          tweak.storedCall part ≠ (tweak.tweakSetValue part value).1.storedCall part then
        ((tweak.tweakSetValue part value).1.storedCall part).toList
      else [] := by
  cases tweak with
  | button input =>
      cases part with
      | self => exact input.tweakSetValue_calls value
      | xAxis | yAxis | up | down | left | right =>
          exact (if_neg fun hBoth => hBoth.2 rfl).symm
  | directionPad pad =>
      cases part with
      | self => exact (if_neg fun hBoth => hBoth.2 rfl).symm
      | xAxis => exact pad.xAxis.tweakSetValue_calls value
      | yAxis => exact pad.yAxis.tweakSetValue_calls value
      | up => exact pad.up.tweakSetValue_calls value
      | down => exact pad.down.tweakSetValue_calls value
      | left => exact pad.left.tweakSetValue_calls value
      | right => exact pad.right.tweakSetValue_calls value

end GCControllerElement

theorem GCControllerButtonInput.tweakSetValue_value (input : GCControllerButtonInput) (value : ℚ) :
    (input.tweakSetValue value).1.value = value := by
  unfold tweakSetValue
  split_ifs with hChanged
  · rfl
  · exact (not_not.mp hChanged).symm

/-- Each child gets one message. -/
theorem padMessages_split {part : Part} (hChild : part ≠ .self) (x y : ℚ) :
    ∃ before value after, padMessages x y = before ++ (part, value) :: after ∧
      (∀ message ∈ before, message.1 ≠ part) ∧ (∀ message ∈ after, message.1 ≠ part) ∧
      ∀ pad : GCControllerDirectionPad,
        ((GCControllerElement.directionPad pad).tweakSetValue part value).1.storedCall part =
          callFor part [x, y] := by
  have hLeft (value : ℚ) : negativePart value = max 0 (-value) := abs_of_below value
  have hRight (value : ℚ) : positivePart value = max 0 value := part_above value
  cases part with
  | self => exact absurd rfl hChild
  | xAxis =>
      refine ⟨[], x, _, rfl, by simp, by simp, fun pad => ?_⟩
      exact congrArg (some ∘ HandlerCall.axis) (pad.xAxis.tweakSetValue_value x)
  | left =>
      refine ⟨[(.xAxis, x)], _, _, rfl, by simp, by simp, fun pad => ?_⟩
      refine congrArg (some ∘ buttonCall) ((pad.left.tweakSetValue_value _).trans (hLeft x))
  | right =>
      refine ⟨[(.xAxis, x), (.left, _)], _, _, rfl, by simp, by simp, fun pad => ?_⟩
      refine congrArg (some ∘ buttonCall) ((pad.right.tweakSetValue_value _).trans (hRight x))
  | yAxis =>
      refine ⟨[(.xAxis, x), (.left, _), (.right, _)], y, _, rfl, by simp, by simp, fun pad => ?_⟩
      exact congrArg (some ∘ HandlerCall.axis) (pad.yAxis.tweakSetValue_value y)
  | up =>
      refine ⟨[(.xAxis, x), (.left, _), (.right, _), (.yAxis, y)], _, _, rfl, by simp, by simp,
        fun pad => ?_⟩
      refine congrArg (some ∘ buttonCall) ((pad.up.tweakSetValue_value _).trans (hLeft y))
  | down =>
      refine ⟨[(.xAxis, x), (.left, _), (.right, _), (.yAxis, y), (.up, _)], _, [], rfl, by simp,
        by simp, fun pad => ?_⟩
      refine congrArg (some ∘ buttonCall) ((pad.down.tweakSetValue_value _).trans (hRight y))

/-! ## One part -/

/-- The application never clears the handler of such a part. -/
def Application.Keeps (application : Application) (element : ElementRef) (part : Part) : Prop :=
  ∀ frontend notice ref, .setHandler ref element part false ∉ application frontend notice

/-- The calls of the handler of a part that a notice is about. -/
def Notice.valuesFor (ref : ControllerRef) (element : ElementRef) (part : Part) :
    Notice → List HandlerCall
  | .valuesChanged tweak calls =>
      if tweak = ref then callsOf part (calls.getD element []) else []
  | .didConnect _ | .didDisconnect _ | .paused _ => []

namespace State

/-- What the handler of a part was called with. -/
def valuesHeard (ref : ControllerRef) (element : ElementRef) (part : Part) (frontend : State) :
    List HandlerCall :=
  frontend.notices.flatMap (Notice.valuesFor ref element part)

/-- The part has a handler. -/
def handlerAt (ref : ControllerRef) (element : ElementRef) (part : Part) (frontend : State) :
    Bool :=
  (frontend.elementAt ref element).any (·.handlerSet part)

section Part

variable {application : Application} {ref : ControllerRef} {element : ElementRef} {part : Part}
  {frontend frontend' frontend'' : State}

theorem act_notices (frontend : State) (action : Action) :
    (frontend.act action).notices = frontend.notices := by
  cases action with
  | setPlayerIndex tweak index =>
      show (frontend.setPlayerIndex tweak index).notices = _
      unfold setPlayerIndex
      split
      · rfl
      · exact setControllerIndex_notices _ _ _
  | setHandler tweak other part isSet => rfl
  | setPausedHandler tweak isSet =>
      simp only [act, setPausedHandler_eq]

theorem acts_notices (actions : List Action) (frontend : State) :
    (actions.foldl act frontend).notices = frontend.notices := by
  induction actions generalizing frontend with
  | nil => rfl
  | cons action actions ih => exact (ih _).trans (act_notices frontend action)

theorem tell_heard (notice : Notice) (frontend : State) :
    (frontend.tell application notice).valuesHeard ref element part =
      frontend.valuesHeard ref element part ++ notice.valuesFor ref element part := by
  rw [valuesHeard, tell, acts_notices, List.flatMap_append, List.flatMap_singleton, valuesHeard]

theorem callHandler_heard (frontend : State) (other : ControllerRef) (element' : ElementRef)
    (part' : Part) (call : HandlerCall) :
    (frontend.callHandler application other element' part' call).valuesHeard ref element part =
      frontend.valuesHeard ref element part ++
        if (other, element', part') = (ref, element, part) then [call] else [] := by
  rw [callHandler, tell_heard, Notice.valuesFor]
  congr 1
  have hCalls : (List.replicate element' [] ++ [[(part', call)]]).getD element [] =
      if element' = element then [(part', call)] else [] := by
    rw [List.getD_eq_getElem?_getD, List.getElem?_append, List.length_replicate]
    split_ifs with hBefore hSame hSame
    · exact absurd hSame (Nat.ne_of_gt hBefore)
    · rw [List.getElem?_replicate_of_lt hBefore]
      rfl
    · rw [hSame, Nat.sub_self]
      rfl
    · have hAfter : element' < element := lt_of_le_of_ne (not_lt.mp hBefore) hSame
      rw [List.getElem?_eq_none (Nat.sub_pos_of_lt hAfter)]
      rfl
  have hOne : callsOf part [(part', call)] = if part' = part then [call] else [] := by
    by_cases hSame : part' = part <;> simp [callsOf, hSame]
  rw [hCalls]
  simp only [Prod.mk.injEq]
  by_cases hRef : other = ref
  · by_cases hElement : element' = element
    · simp only [hRef, hElement, if_true, true_and, hOne]
    · simp only [hRef, hElement, if_true, if_false, true_and, false_and]
      rfl
  · simp only [hRef, if_false, false_and]

theorem elementAt_changeElement (other : ControllerRef) (element' : ElementRef)
    (change : GCControllerElement → GCControllerElement) (frontend : State) :
    (frontend.changeElement other element' change).elementAt ref element =
      (frontend.elementAt ref element).map fun tweak =>
        if (other, element') = (ref, element) then change tweak else tweak := by
  simp only [elementAt, changeElement, Prod.mk.injEq, List.getElem?_modify]
  cases frontend.created[ref]? with
  | none => rfl
  | some controller =>
      by_cases hRef : other = ref
      · simp only [hRef, if_true, true_and, Option.map_eq_map, Option.map_some,
          Option.bind_eq_bind, Option.bind_some, List.getElem?_modify]
      · simp only [hRef, if_false, false_and, Option.map_eq_map, Option.map_some,
          Option.bind_eq_bind, Option.bind_some, Option.map_id']

/-- Elements are read off the controllers' elements. -/
theorem elementAt_congr (hSame : frontend.created.map GCController.tweakElements =
    frontend'.created.map GCController.tweakElements) :
    frontend.elementAt ref element = frontend'.elementAt ref element := by
  have hRead (frontend : State) : frontend.elementAt ref element =
      (frontend.created.map GCController.tweakElements)[ref]?.bind (·[element]?) := by
    rw [elementAt, List.getElem?_map]
    cases frontend.created[ref]? <;> rfl
  rw [hRead, hRead, hSame]

/-- Only an action that clears a handler clears it. -/
theorem act_handlerAt {action : Action} (hAction : action ≠ .setHandler ref element part false)
    (hSet : frontend.handlerAt ref element part = true) :
    (frontend.act action).handlerAt ref element part = true := by
  cases action with
  | setPlayerIndex tweak index =>
      have hElements : (frontend.setPlayerIndex tweak index).created.map
          GCController.tweakElements = frontend.created.map GCController.tweakElements := by
        unfold setPlayerIndex
        split
        · rfl
        next old hOld =>
          rw [setControllerIndex_created]
          exact map_set_of_same hOld rfl
      rw [handlerAt] at hSet ⊢
      exact (elementAt_congr hElements).symm ▸ hSet
  | setPausedHandler tweak isSet =>
      have hElements : (frontend.setPausedHandler tweak isSet).created.map
          GCController.tweakElements = frontend.created.map GCController.tweakElements := by
        unfold setPausedHandler
        split
        · rfl
        next old hOld => exact map_set_of_same hOld rfl
      rw [handlerAt] at hSet ⊢
      exact (elementAt_congr hElements).symm ▸ hSet
  | setHandler other element' part' isSet =>
      show ((frontend.changeElement other element' (.setHandler part' isSet)).elementAt ref
        element).any _ = true
      rw [elementAt_changeElement, Option.any_map]
      rw [handlerAt] at hSet
      obtain ⟨tweak, hTweak, hHandler⟩ := (Option.any_eq_true ..).mp hSet
      rw [hTweak]
      show (if (other, element') = (ref, element) then tweak.setHandler part' isSet
        else tweak).handlerSet part = true
      split_ifs with hSame
      · obtain ⟨rfl, rfl⟩ := Prod.mk.inj hSame
        refine tweak.handlerSet_setHandler hHandler ?_
        rintro ⟨rfl, rfl⟩
        exact hAction rfl
      · exact hHandler

/-- The handler of the part was not called, and is there if it was. -/
structure Undisturbed (application : Application) (ref : ControllerRef) (element : ElementRef)
    (part : Part) (frontend frontend' : State) : Prop where
  heard : frontend'.valuesHeard ref element part = frontend.valuesHeard ref element part
  handler : application.Keeps element part → frontend.handlerAt ref element part = true →
    frontend'.handlerAt ref element part = true

/-- The handler of the part was called if the value changed, and not otherwise; one that
was there and is kept was called. -/
structure Hears (application : Application) (ref : ControllerRef) (element : ElementRef)
    (part : Part) (before now : Option HandlerCall) (frontend frontend' : State) : Prop where
  heard : ∃ calls, frontend'.valuesHeard ref element part =
      frontend.valuesHeard ref element part ++ calls ∧
    (calls = [] ∨ (before ≠ now ∧ calls = now.toList)) ∧
    (application.Keeps element part → frontend.handlerAt ref element part = true →
      before ≠ now → calls = now.toList)
  handler : application.Keeps element part → frontend.handlerAt ref element part = true →
    frontend'.handlerAt ref element part = true

theorem Undisturbed.refl (frontend : State) :
    Undisturbed application ref element part frontend frontend := ⟨rfl, fun _ hSet => hSet⟩

theorem Undisturbed.trans (hFirst : Undisturbed application ref element part frontend frontend')
    (hSecond : Undisturbed application ref element part frontend' frontend'') :
    Undisturbed application ref element part frontend frontend'' :=
  ⟨hSecond.heard.trans hFirst.heard, fun hKeeps hSet =>
    hSecond.handler hKeeps (hFirst.handler hKeeps hSet)⟩

variable {before now : Option HandlerCall}

theorem Undisturbed.hears (hSame : Undisturbed application ref element part frontend frontend')
    (call : Option HandlerCall) :
    Hears application ref element part call call frontend frontend' :=
  ⟨⟨[], hSame.heard.trans (List.append_nil _).symm, .inl rfl, fun _ _ hOther =>
    absurd rfl hOther⟩, hSame.handler⟩

theorem Undisturbed.trans_hears
    (hFirst : Undisturbed application ref element part frontend frontend')
    (hSecond : Hears application ref element part before now frontend' frontend'') :
    Hears application ref element part before now frontend frontend'' := by
  obtain ⟨⟨calls, hHeard, hCalls, hAll⟩, hHandler⟩ := hSecond
  refine ⟨⟨calls, hFirst.heard ▸ hHeard, hCalls, fun hKeeps hSet => ?_⟩, fun hKeeps hSet => ?_⟩
  · exact hAll hKeeps (hFirst.handler hKeeps hSet)
  · exact hHandler hKeeps (hFirst.handler hKeeps hSet)

theorem Hears.trans_undisturbed
    (hFirst : Hears application ref element part before now frontend frontend')
    (hSecond : Undisturbed application ref element part frontend' frontend'') :
    Hears application ref element part before now frontend frontend'' := by
  obtain ⟨⟨calls, hHeard, hCalls, hAll⟩, hHandler⟩ := hFirst
  exact ⟨⟨calls, hSecond.heard.trans hHeard, hCalls, hAll⟩, fun hKeeps hSet =>
    hSecond.handler hKeeps (hHandler hKeeps hSet)⟩

theorem acts_handlerAt {actions : List Action}
    (hNone : .setHandler ref element part false ∉ actions)
    (hSet : frontend.handlerAt ref element part = true) :
    (actions.foldl act frontend).handlerAt ref element part = true := by
  induction actions generalizing frontend with
  | nil => exact hSet
  | cons action actions ih =>
      have hAction := (List.ne_of_not_mem_cons hNone).symm
      exact ih (List.not_mem_of_not_mem_cons hNone) (act_handlerAt hAction hSet)

theorem tell_handler (hKeeps : application.Keeps element part) (notice : Notice)
    (hSet : frontend.handlerAt ref element part = true) :
    (frontend.tell application notice).handlerAt ref element part = true :=
  acts_handlerAt (hKeeps _ notice ref) hSet

theorem callHandler_other {other : ControllerRef} {element' : ElementRef} {part' : Part}
    (hOther : (other, element', part') ≠ (ref, element, part)) (frontend : State)
    (call : HandlerCall) :
    Undisturbed application ref element part frontend
      (frontend.callHandler application other element' part' call) := by
  refine ⟨?_, fun hKeeps hSet => tell_handler hKeeps _ hSet⟩
  rw [callHandler_heard, if_neg hOther, List.append_nil]

theorem handlerAt_message (other : ControllerRef) (element' : ElementRef) (part' : Part)
    (value : ℚ) (frontend : State) :
    (frontend.changeElement other element' fun tweak =>
      (tweak.tweakSetValue part' value).1).handlerAt ref element part =
      frontend.handlerAt ref element part := by
  rw [handlerAt, elementAt_changeElement, Option.any_map, handlerAt]
  cases frontend.elementAt ref element with
  | none => rfl
  | some tweak =>
      simp only [Option.any_some]
      split_ifs
      · exact tweak.tweakSetValue_handlerSet part' value part
      · rfl

/-- A message changes its element, then calls the handler. -/
theorem tweakSetValue_eq {tweak : GCControllerElement}
    (hTweak : frontend.elementAt ref element = some tweak) (part : Part) (value : ℚ) :
    frontend.tweakSetValue application ref element part value =
      (tweak.tweakSetValue part value).2.foldl (callHandler application ref element part)
        (frontend.changeElement ref element fun tweak =>
          (tweak.tweakSetValue part value).1) := by
  rw [tweakSetValue, hTweak]
  exact congrArg (List.foldl _ · _) (changeElement_congr hTweak rfl)

/-- A message to another part. -/
theorem tweakSetValue_other {other : ControllerRef} {element' : ElementRef} {part' : Part}
    (hOther : (other, element', part') ≠ (ref, element, part)) (value : ℚ) (frontend : State) :
    Undisturbed application ref element part frontend
      (frontend.tweakSetValue application other element' part' value) := by
  cases hTweak : frontend.elementAt other element' with
  | none =>
      rw [tweakSetValue, hTweak]
      exact .refl frontend
  | some tweak =>
      have hCalls (calls : List HandlerCall) (frontend : State) :
          Undisturbed application ref element part frontend
            (calls.foldl (callHandler application other element' part') frontend) := by
        induction calls generalizing frontend with
        | nil => exact .refl frontend
        | cons call calls ih => exact (callHandler_other hOther frontend call).trans (ih _)
      have hChanged : Undisturbed application ref element part frontend
          (frontend.changeElement other element' fun tweak =>
            (tweak.tweakSetValue part' value).1) :=
        ⟨rfl, fun _ hSet => (handlerAt_message ..).trans hSet⟩
      rw [tweakSetValue_eq hTweak]
      exact hChanged.trans (hCalls _ _)

/-- A message to the part itself. -/
theorem tweakSetValue_own {tweak : GCControllerElement}
    (hTweak : frontend.elementAt ref element = some tweak) (value : ℚ) :
    Hears application ref element part (tweak.storedCall part)
      ((tweak.tweakSetValue part value).1.storedCall part) frontend
      (frontend.tweakSetValue application ref element part value) := by
  have hCalls (calls : List HandlerCall) (frontend : State) :
      (calls.foldl (callHandler application ref element part) frontend).valuesHeard ref element
          part = frontend.valuesHeard ref element part ++ calls ∧
        (application.Keeps element part → frontend.handlerAt ref element part = true →
          (calls.foldl (callHandler application ref element part) frontend).handlerAt ref element
            part = true) := by
    induction calls generalizing frontend with
    | nil => exact ⟨(List.append_nil _).symm, fun _ hSet => hSet⟩
    | cons call calls ih =>
        obtain ⟨hHeard, hHandler⟩ := ih (frontend.callHandler application ref element part call)
        refine ⟨?_, fun hKeeps hSet => hHandler hKeeps (tell_handler hKeeps _ hSet)⟩
        rw [List.foldl_cons, hHeard, callHandler_heard, if_pos rfl, List.append_assoc,
          List.singleton_append]
  obtain ⟨hHeard, hHandler⟩ := hCalls (tweak.tweakSetValue part value).2
    (frontend.changeElement ref element fun tweak => (tweak.tweakSetValue part value).1)
  have hSet : frontend.handlerAt ref element part = tweak.handlerSet part := by
    rw [handlerAt, hTweak]
    rfl
  rw [tweakSetValue_eq hTweak]
  refine ⟨⟨_, hHeard, ?_, fun _ hThere hChanges => ?_⟩, fun hKeeps hThere =>
    hHandler hKeeps ((handlerAt_message ..).trans hThere)⟩
  · rw [tweak.tweakSetValue_calls]
    split_ifs with hCalled
    · exact .inr ⟨hCalled.2, rfl⟩
    · exact .inl rfl
  · rw [tweak.tweakSetValue_calls, if_pos ⟨hSet ▸ hThere, hChanges⟩]

theorem messages_other {other : ControllerRef} {element' : ElementRef}
    {messages : List (Part × ℚ)}
    (hOthers : ∀ message ∈ messages, (other, element', message.1) ≠ (ref, element, part))
    (frontend : State) :
    Undisturbed application ref element part frontend
      (frontend.sendMessages application other element' messages) := by
  induction messages generalizing frontend with
  | nil => exact .refl frontend
  | cons message messages ih =>
      obtain ⟨hOther, hRest⟩ := List.forall_mem_cons.mp hOthers
      exact (tweakSetValue_other hOther message.2 frontend).trans (ih hRest _)

/-- A child of a direction pad hears the message that it gets. -/
theorem messages_child {pad : GCControllerDirectionPad} (hChild : part ≠ .self)
    (hPad : frontend.elementAt ref element = some (.directionPad pad)) (x y : ℚ) :
    Hears application ref element part ((GCControllerElement.directionPad pad).storedCall part)
      (callFor part [x, y]) frontend
      (frontend.sendMessages application ref element (padMessages x y)) := by
  obtain ⟨before, value, after, hSplit, hBefore, hAfter, hCall⟩ := padMessages_split hChild x y
  have hOthers {messages : List (Part × ℚ)} (hNone : ∀ message ∈ messages, message.1 ≠ part) :
      ∀ message ∈ messages, (ref, element, message.1) ≠ (ref, element, part) :=
    fun message hMem hSame => hNone message hMem (Prod.mk.inj (Prod.mk.inj hSame).2).2
  -- the pad when the message comes
  obtain ⟨pad', hPad', hStored⟩ : ∃ pad' : GCControllerDirectionPad,
      (frontend.sendMessages application ref element before).elementAt ref element =
        some (.directionPad pad') ∧
      (GCControllerElement.directionPad pad').storedCall part =
        (GCControllerElement.directionPad pad).storedCall part := by
    have hFollows := (messages_follow (After.refl frontend) before :
      FollowsUp (frontend.sendMessages application ref element before) _).elementAt ref element
    rw [elementAt_changeElement, hPad, Option.map_some, if_pos rfl, Option.map_some] at hFollows
    obtain ⟨tweak, hTweak, hQuiet⟩ := Option.map_eq_some_iff.mp hFollows
    obtain ⟨changed, hChanged⟩ := GCControllerElement.messages_pad before pad
    have hStored : tweak.storedCall part =
        (GCControllerElement.directionPad pad).storedCall part := by
      rw [← tweak.storedCall_quiet, hQuiet, GCControllerElement.storedCall_quiet,
        GCControllerElement.storedCall_others hChild before hBefore]
    rw [hChanged] at hQuiet
    cases tweak with
    | button input => cases hQuiet
    | directionPad pad' => exact ⟨pad', hTweak, hStored⟩
  have hOwn := (tweakSetValue_own hPad' value : Hears application ref element part _ _ _ _)
  rw [hStored, hCall] at hOwn
  rw [hSplit, sendMessages, List.foldl_append, List.foldl_cons]
  exact ((messages_other (hOthers hBefore) frontend).trans_hears hOwn).trans_undisturbed
    (messages_other (hOthers hAfter) _)

/-! ## An element -/

/-- What `tweakSetValues:` does. -/
theorem tweakSetValues_cases {values : List ℚ} {consumed : Nat}
    (hStep : frontend.tweakSetValues application ref element values =
      some (frontend', consumed)) :
    (∃ input value, frontend.elementAt ref element = some (.button input) ∧
      values[0]? = some value ∧ consumed = 1 ∧
      frontend' = frontend.tweakSetValue application ref element .self value) ∨
    ∃ pad x y, frontend.elementAt ref element = some (.directionPad pad) ∧
      values[0]? = some x ∧ values[1]? = some y ∧ consumed = 2 ∧
      (((x = pad.xAxis.value ∧ y = pad.yAxis.value) ∧ frontend' = frontend) ∨
        (¬ (x = pad.xAxis.value ∧ y = pad.yAxis.value) ∧
          frontend' = let sent := frontend.sendMessages application ref element (padMessages x y)
            if sent.handlerAt ref element .self then
              sent.callHandler application ref element .self (.directionPad x y)
            else sent)) := by
  unfold tweakSetValues at hStep
  split at hStep
  · cases hStep
  next input hTweak =>
    obtain ⟨value, hValue, hReturn⟩ := Option.bind_eq_some_iff.mp hStep
    obtain ⟨rfl, rfl⟩ := Prod.mk.inj (Option.some.inj hReturn)
    exact .inl ⟨input, value, hTweak, hValue, rfl, rfl⟩
  next pad hTweak =>
    obtain ⟨x, hX, hRest⟩ := Option.bind_eq_some_iff.mp hStep
    obtain ⟨y, hY, hReturn⟩ := Option.bind_eq_some_iff.mp hRest
    refine .inr ⟨pad, x, y, hTweak, hX, hY, ?_⟩
    have hTest : (¬ Scalar.ne pad.xAxis.value x ∧ ¬ Scalar.ne pad.yAxis.value y) ↔
        x = pad.xAxis.value ∧ y = pad.yAxis.value :=
      and_congr (not_not.trans eq_comm) (not_not.trans eq_comm)
    by_cases hSame : x = pad.xAxis.value ∧ y = pad.yAxis.value
    · rw [if_pos (hTest.mpr hSame)] at hReturn
      obtain ⟨rfl, rfl⟩ := Prod.mk.inj (Option.some.inj hReturn)
      exact ⟨rfl, .inl ⟨hSame, rfl⟩⟩
    · rw [if_neg (mt hTest.mp hSame)] at hReturn
      dsimp only at hReturn
      rw [← handlerAt] at hReturn
      split_ifs at hReturn with hHandler
      · obtain ⟨rfl, rfl⟩ := Prod.mk.inj (Option.some.inj hReturn)
        exact ⟨rfl, .inr ⟨hSame, (if_pos hHandler).symm⟩⟩
      · obtain ⟨rfl, rfl⟩ := Prod.mk.inj (Option.some.inj hReturn)
        exact ⟨rfl, .inr ⟨hSame, (if_neg hHandler).symm⟩⟩

/-- An element reads as many values as it has shown. -/
theorem tweakSetValues_consumed {tweak : GCControllerElement} {old new more : List ℚ}
    {consumed : Nat} (hTweak : frontend.elementAt ref element = some tweak)
    (hHolds : tweak.Holds old) (hLength : old.length = new.length)
    (hStep : frontend.tweakSetValues application ref element (new ++ more) =
      some (frontend', consumed)) : consumed = new.length := by
  rw [← hLength]
  rcases tweakSetValues_cases hStep with
    ⟨input, value, hButton, -, rfl, -⟩ | ⟨pad, x, y, hPad, -, -, rfl, -⟩
  · obtain rfl := Option.some.inj (hTweak.symm.trans hButton)
    exact hHolds.2 ▸ rfl
  · obtain rfl := Option.some.inj (hTweak.symm.trans hPad)
    exact hHolds.2 ▸ rfl

/-- The values of another element. -/
theorem tweakSetValues_other {other : ControllerRef} {element' : ElementRef}
    (hOther : (other, element') ≠ (ref, element)) {values : List ℚ} {consumed : Nat}
    (hStep : frontend.tweakSetValues application other element' values =
      some (frontend', consumed)) :
    Undisturbed application ref element part frontend frontend' := by
  have hOthers (part' : Part) : (other, element', part') ≠ (ref, element, part) :=
    fun hSame => hOther (Prod.ext (Prod.mk.inj hSame).1 (Prod.mk.inj (Prod.mk.inj hSame).2).1)
  rcases tweakSetValues_cases hStep with
    ⟨input, value, -, -, -, rfl⟩ |
    ⟨pad, x, y, -, -, -, -, ⟨-, rfl⟩ | ⟨-, rfl⟩⟩
  · exact tweakSetValue_other (hOthers _) value frontend
  · exact .refl _
  · have hMessages : Undisturbed application ref element part frontend
        (frontend.sendMessages application other element' (padMessages x y)) :=
      messages_other (fun message _ => hOthers message.1) frontend
    dsimp only
    split_ifs
    · exact hMessages.trans (callHandler_other (hOthers _) _ _)
    · exact hMessages

/-- A direction pad, whether or not its values are others. -/
theorem pad_hears {pad : GCControllerDirectionPad} {x₀ y₀ x y : ℚ}
    (hPad : frontend.elementAt ref element = some (.directionPad pad))
    (hHolds : (GCControllerElement.directionPad pad).Holds [x₀, y₀])
    (hCases : ((x = pad.xAxis.value ∧ y = pad.yAxis.value) ∧ frontend' = frontend) ∨
      (¬ (x = pad.xAxis.value ∧ y = pad.yAxis.value) ∧
        frontend' = let sent := frontend.sendMessages application ref element (padMessages x y)
          if sent.handlerAt ref element .self then
            sent.callHandler application ref element .self (.directionPad x y)
          else sent)) :
    Hears application ref element part ((GCControllerElement.directionPad pad).storedCall part)
      (callFor part [x, y]) frontend frontend' := by
  rcases hCases with ⟨⟨hX, hY⟩, rfl⟩ | ⟨hOther, rfl⟩
  · have hSame : (GCControllerElement.directionPad pad).Holds [x, y] := by
      rw [hX, hY]
      exact ⟨hHolds.1, rfl⟩
    rw [GCControllerElement.storedCall_holds hSame]
    exact (Undisturbed.refl _).hears _
  by_cases hPart : part = .self
  · subst hPart
    have hMessages : Undisturbed application ref element .self frontend
        (frontend.sendMessages application ref element (padMessages x y)) := by
      refine messages_other (fun message hMem hSame => ?_) frontend
      have hSelf : message.1 = .self := (Prod.mk.inj (Prod.mk.inj hSame).2).2
      simp only [padMessages, List.mem_cons, List.not_mem_nil, or_false] at hMem
      rcases hMem with rfl | rfl | rfl | rfl | rfl | rfl <;> cases hSelf
    have hChanges : (GCControllerElement.directionPad pad).storedCall .self ≠
        callFor .self [x, y] := by
      intro hSame
      obtain ⟨hX, hY⟩ := HandlerCall.directionPad.inj (Option.some.inj hSame)
      exact hOther ⟨hX.symm, hY.symm⟩
    dsimp only
    split_ifs with hHandler
    · refine ⟨⟨[.directionPad x y], ?_, .inr ⟨hChanges, rfl⟩, fun _ _ _ => rfl⟩,
        fun hKeeps hSet => tell_handler hKeeps _ (hMessages.handler hKeeps hSet)⟩
      rw [callHandler_heard, if_pos rfl, hMessages.heard]
    · exact ⟨⟨[], hMessages.heard.trans (List.append_nil _).symm, .inl rfl,
        fun hKeeps hSet _ => absurd (hMessages.handler hKeeps hSet) hHandler⟩, hMessages.handler⟩
  · have hChild := (messages_child hPart hPad x y :
      Hears application ref element part _ _ frontend _)
    have hSelf : (ref, element, Part.self) ≠ (ref, element, part) :=
      fun hSame => hPart (Prod.mk.inj (Prod.mk.inj hSame).2).2.symm
    dsimp only
    split_ifs
    · exact hChild.trans_undisturbed (callHandler_other hSelf _ _)
    · exact hChild

/-- A part hears that the values of its element change its own. -/
theorem tweakSetValues_hears {tweak : GCControllerElement} {old new more : List ℚ}
    {consumed : Nat} (hTweak : frontend.elementAt ref element = some tweak)
    (hHolds : tweak.Holds old) (hLength : old.length = new.length)
    (hStep : frontend.tweakSetValues application ref element (new ++ more) =
      some (frontend', consumed)) :
    Hears application ref element part (callFor part old) (callFor part new) frontend
      frontend' := by
  rw [← GCControllerElement.storedCall_holds hHolds]
  rcases tweakSetValues_cases hStep with
    ⟨input, value, hButton, hValue, -, rfl⟩ |
    ⟨pad, x, y, hPad, hX, hY, -, hCases⟩
  · obtain rfl := Option.some.inj (hTweak.symm.trans hButton)
    match old, new, hHolds, hLength with
    | [_], [value'], _, _ =>
        obtain rfl := Option.some.inj hValue
        by_cases hPart : part = .self
        · subst hPart
          have hOwn := (tweakSetValue_own hTweak value' :
            Hears application ref element .self _ _ _ _)
          have hCall : ((GCControllerElement.button input).tweakSetValue .self
              value').1.storedCall .self = callFor .self [value'] :=
            congrArg (some ∘ buttonCall) (input.tweakSetValue_value value')
          rw [hCall] at hOwn
          exact hOwn
        · have hOther : (ref, element, Part.self) ≠ (ref, element, part) :=
            fun hSame => hPart (Prod.mk.inj (Prod.mk.inj hSame).2).2.symm
          have hNone : (GCControllerElement.button input).storedCall part =
              callFor part [value'] := by cases part <;> first | rfl | exact absurd rfl hPart
          rw [← hNone]
          exact (tweakSetValue_other hOther value' frontend).hears _
  · obtain rfl := Option.some.inj (hTweak.symm.trans hPad)
    match old, new, hHolds, hLength with
    | [_, _], [x', y'], hHolds, _ =>
        obtain rfl := Option.some.inj hX
        obtain rfl := Option.some.inj hY
        exact pad_hears hTweak hHolds hCases

/-! ## A controller -/

/-- Another element stays what it is, but for its handlers. -/
theorem tweakSetValues_elementAt {other : ControllerRef} {element' : ElementRef}
    (hOther : (other, element') ≠ (ref, element)) {values : List ℚ} {consumed : Nat}
    (hStep : frontend.tweakSetValues application other element' values =
      some (frontend', consumed)) :
    (frontend'.elementAt ref element).map GCControllerElement.quiet =
      (frontend.elementAt ref element).map GCControllerElement.quiet := by
  cases hTweak : frontend.elementAt other element' with
  | none =>
      rw [tweakSetValues, hTweak] at hStep
      cases hStep
  | some tweak =>
      have hRel : Option.Rel _ (frontend.tweakSetValues application other element' values) _ :=
        tweakSetValues_follows (After.refl frontend) hTweak values
      rw [hStep] at hRel
      generalize tweak.tweakSetValues values = plain at hRel
      cases hRel with
      | some hBoth =>
          rw [hBoth.1.elementAt, elementAt_changeElement]
          simp only [if_neg hOther, Option.map_id']

theorem updateEach_other {other : ControllerRef} {is : List ElementRef}
    (hOthers : ∀ i ∈ is, (other, i) ≠ (ref, element)) {buf : List ℚ}
    (hLoop : frontend.updateEach application other is buf = some frontend') :
    Undisturbed application ref element part frontend frontend' := by
  induction is generalizing frontend buf with
  | nil =>
      obtain rfl := Option.some.inj hLoop
      exact .refl _
  | cons i is ih =>
      obtain ⟨hOther, hRest⟩ := List.forall_mem_cons.mp hOthers
      obtain ⟨⟨next, consumed⟩, hStep, hLater⟩ := Option.bind_eq_some_iff.mp hLoop
      exact (tweakSetValues_other hOther hStep).trans (ih hRest hLater)

/-- Each part hears that the loop changes its value. -/
theorem updateEach_hears {olds news : List (List ℚ)} {k : Nat}
    (hHold : ∀ j old, olds[j]? = some old →
      ∃ tweak, frontend.elementAt ref (k + j) = some tweak ∧ tweak.Holds old)
    (hLengths : olds.map List.length = news.map List.length)
    (hLoop : frontend.updateEach application ref (List.range' k news.length) news.flatten =
      some frontend') {j : Nat} {old new : List ℚ} (hOld : olds[j]? = some old)
    (hNew : news[j]? = some new) :
    Hears application ref (k + j) part (callFor part old) (callFor part new) frontend
      frontend' := by
  induction news generalizing olds k j frontend with
  | nil => cases hNew
  | cons first news ih =>
      cases olds with
      | nil => cases hOld
      | cons firstOld olds =>
          obtain ⟨hLength, hLengths⟩ := List.cons.inj hLengths
          rw [List.length_cons, List.range'_succ, List.flatten_cons] at hLoop
          obtain ⟨⟨next, consumed⟩, hStep, hLater⟩ := Option.bind_eq_some_iff.mp hLoop
          obtain ⟨tweak, hTweak, hHolds⟩ := hHold 0 firstOld rfl
          rw [Nat.add_zero] at hTweak
          obtain rfl := tweakSetValues_consumed hTweak hHolds hLength hStep
          dsimp only at hLater
          rw [List.drop_left] at hLater
          cases j with
          | zero =>
              obtain rfl := Option.some.inj hOld
              obtain rfl := Option.some.inj hNew
              refine (tweakSetValues_hears hTweak hHolds hLength hStep).trans_undisturbed ?_
              refine updateEach_other (fun i hMem hSame => ?_) hLater
              obtain ⟨hFrom, -⟩ := List.mem_range'_1.mp hMem
              exact absurd (Prod.mk.inj hSame).2 (Nat.ne_of_gt hFrom)
          | succ j =>
              have hElsewhere (j : Nat) : (ref, k) ≠ (ref, k + 1 + j) := fun hSame => by
                have hPlace := (Prod.mk.inj hSame).2
                omega
              have hPlace (j : Nat) : k + (j + 1) = k + 1 + j := by omega
              rw [hPlace]
              refine (tweakSetValues_other (hElsewhere j) hStep).trans_hears ?_
              refine ih (fun j' old' hOld' => ?_) hLengths hLater hOld hNew
              obtain ⟨other, hAt, hHolds'⟩ := hHold (j' + 1) old' hOld'
              have hSame := tweakSetValues_elementAt (hElsewhere j') hStep
              rw [← hPlace, hAt, Option.map_some] at hSame
              obtain ⟨other', hAt', hQuiet⟩ := Option.map_eq_some_iff.mp hSame
              refine ⟨other', hPlace j' ▸ hAt', ?_⟩
              rw [← GCControllerElement.holds_quiet, hQuiet, GCControllerElement.holds_quiet]
              exact hHolds'

end Part

end State

end Frontend
end MFiWrapper
