import MFiWrapper.Frontend.Callbacks
import MFiWrapper.Library.Postponement

/-!
# Actions of handlers come after the packet

A message to an element stores the same whatever handlers are set, and actions change
nothing but handlers and player indices.  So what handlers do while a packet is handled can
be thought to come after it; only the handlers that the packet calls may be others.
-/

namespace MFiWrapper
namespace Frontend

open Library

/-! ## Handlers and values -/

theorem GCControllerButtonInput.tweakSetValue_handler (input : GCControllerButtonInput)
    (isSet : Bool) (value : ℚ) :
    (tweakSetValue { input with valueChangedHandler := isSet } value).1 =
      { (input.tweakSetValue value).1 with valueChangedHandler := isSet } := by
  unfold tweakSetValue
  by_cases hChanged : Scalar.ne value input.value
  · rw [if_pos hChanged, if_pos hChanged]
  · rw [if_neg hChanged, if_neg hChanged]

theorem GCControllerAxisInput.tweakSetValue_handler (input : GCControllerAxisInput)
    (isSet : Bool) (value : ℚ) :
    (tweakSetValue { input with valueChangedHandler := isSet } value).1 =
      { (input.tweakSetValue value).1 with valueChangedHandler := isSet } := by
  unfold tweakSetValue
  by_cases hChanged : Scalar.ne value input.value
  · rw [if_pos hChanged, if_pos hChanged]
  · rw [if_neg hChanged, if_neg hChanged]

/-- Which handlers are set does not matter for what is stored. -/
theorem GCControllerElement.tweakSetValue_setHandler (part : Part) (value : ℚ) (other : Part)
    (isSet : Bool) (tweak : GCControllerElement) :
    ((tweak.setHandler other isSet).tweakSetValue part value).1 =
      (tweak.tweakSetValue part value).1.setHandler other isSet := by
  cases tweak with
  | button input =>
      cases part <;> cases other <;>
        simp only [setHandler, tweakSetValue, GCControllerButtonInput.tweakSetValue_handler]
  | directionPad pad =>
      cases part <;> cases other <;>
        simp only [setHandler, tweakSetValue, GCControllerButtonInput.tweakSetValue_handler,
          GCControllerAxisInput.tweakSetValue_handler]

/-- What messages make of an element. -/
def GCControllerElement.afterMessages (messages : List (Part × ℚ)) (tweak : GCControllerElement) :
    GCControllerElement :=
  messages.foldl (fun tweak (part, value) => (tweak.tweakSetValue part value).1) tweak

/-- The messages of a direction pad make of it what it makes of itself. -/
theorem GCControllerDirectionPad.padMessages_eq {pad : GCControllerDirectionPad} {x y : ℚ}
    (hOther : ¬ (¬ Scalar.ne pad.xAxis.value x ∧ ¬ Scalar.ne pad.yAxis.value y)) :
    (GCControllerElement.directionPad pad).afterMessages (padMessages x y) =
      .directionPad (pad.tweakSetValues x y).1 := by
  unfold tweakSetValues
  rw [if_neg hOther]
  rfl

theorem GCControllerDirectionPad.tweakSetValues_same {pad : GCControllerDirectionPad} {x y : ℚ}
    (hSame : ¬ Scalar.ne pad.xAxis.value x ∧ ¬ Scalar.ne pad.yAxis.value y) :
    (pad.tweakSetValues x y).1 = pad := by
  unfold tweakSetValues
  rw [if_pos hSame]

/-- The notice is about values. -/
def Notice.isValues : Notice → Bool
  | .valuesChanged _ _ => true
  | .didConnect _ | .didDisconnect _ | .paused _ => false

namespace State

/-! ## Apart from what value handlers are told -/

/-- The frontend, without the calls of the value handlers on record. -/
def unheard (frontend : State) : State :=
  { frontend with notices := frontend.notices.filter fun notice => !notice.isValues }

/-- The second frontend after some actions, but for the calls of value handlers. -/
abbrev FollowsUp : State → State → Prop := After act unheard

theorem unheard_notices (frontend : State) (tweak : ControllerRef)
    (calls : List (List (Part × HandlerCall))) :
    ({ frontend with
      notices := frontend.notices ++ [.valuesChanged tweak calls] } : State).unheard =
      frontend.unheard := by
  have hNone : [Notice.valuesChanged tweak calls].filter (fun notice => !notice.isValues) =
      ([] : List Notice) := rfl
  simp only [unheard, List.filter_append, hNone, List.append_nil]

theorem setControllerIndex_unheard (aHandle : UInt32) (aIndex : Int32) (frontend : State) :
    (frontend.setControllerIndex aHandle aIndex).unheard =
      frontend.unheard.setControllerIndex aHandle aIndex := by
  unfold setControllerIndex
  by_cases hSends : frontend.connection ∧ aHandle ≠ MFiWLocalHandle
  · rw [if_pos hSends, if_pos (by exact hSends)]
    rfl
  · rw [if_neg hSends, if_neg (by exact hSends)]

theorem act_unheard (frontend : State) (action : Action) :
    (frontend.act action).unheard = frontend.unheard.act action := by
  cases action with
  | setPlayerIndex tweak index =>
      simp only [act, setPlayerIndex]
      have hCreated : frontend.unheard.created = frontend.created := rfl
      rw [hCreated]
      cases frontend.created[tweak]? with
      | none => rfl
      | some old => exact setControllerIndex_unheard _ _ _
  | setHandler tweak element part isSet => rfl
  | setPausedHandler tweak isSet =>
      simp only [act, setPausedHandler]
      have hCreated : frontend.unheard.created = frontend.created := rfl
      rw [hCreated]
      cases frontend.created[tweak]? <;> rfl

theorem act_congr (frontend frontend' : State) (action : Action)
    (hSame : frontend.unheard = frontend'.unheard) :
    (frontend.act action).unheard = (frontend'.act action).unheard := by
  rw [act_unheard, act_unheard, hSame]

/-! ## Actions and changes of elements -/

theorem changeElement_unheard (ref : ControllerRef) (element : ElementRef)
    (change : GCControllerElement → GCControllerElement) (frontend : State) :
    (frontend.changeElement ref element change).unheard =
      frontend.unheard.changeElement ref element change := rfl

theorem setPlayerIndex_some {frontend : State} {ref : ControllerRef} {old : GCController}
    (hOld : frontend.created[ref]? = some old) (index : Int64) :
    frontend.setPlayerIndex ref index =
      ({ frontend with created := frontend.created.modify ref fun tweak =>
          { tweak with playerIndex := index } } : State).setControllerIndex
        old.tweakHandle index.toInt32 := by
  rw [setPlayerIndex, hOld]
  dsimp only
  rw [set_eq_modify hOld fun tweak => { tweak with playerIndex := index }]

theorem setPausedHandler_eq (frontend : State) (ref : ControllerRef) (isSet : Bool) :
    frontend.setPausedHandler ref isSet =
      { frontend with created := frontend.created.modify ref fun tweak =>
          { tweak with controllerPausedHandler := isSet } } := by
  unfold setPausedHandler
  split
  next hNone => rw [List.modify_eq_self (List.getElem?_eq_none_iff.mp hNone)]
  next tweak hTweak =>
    rw [set_eq_modify hTweak fun tweak => { tweak with controllerPausedHandler := isSet }]

section Change

variable (ref : ControllerRef) (element : ElementRef)
  {change : GCControllerElement → GCControllerElement}

theorem changeElement_setControllerIndex (aHandle : UInt32) (aIndex : Int32) (frontend : State) :
    (frontend.setControllerIndex aHandle aIndex).changeElement ref element change =
      (frontend.changeElement ref element change).setControllerIndex aHandle aIndex := by
  unfold setControllerIndex
  by_cases hSends : frontend.connection ∧ aHandle ≠ MFiWLocalHandle
  · rw [if_pos hSends, if_pos (by exact hSends)]
    rfl
  · rw [if_neg hSends, if_neg (by exact hSends)]

theorem act_sent (frontend : State) (action : Action) :
    frontend.sent <+: (frontend.act action).sent := by
  cases action with
  | setPlayerIndex tweak index =>
      show _ <+: (frontend.setPlayerIndex tweak index).sent
      cases hOld : frontend.created[tweak]? with
      | none => rw [setPlayerIndex, hOld]
      | some old =>
          obtain ⟨packets, hSent, -⟩ := setControllerIndex_sent
            { frontend with created := frontend.created.modify tweak fun tweak =>
                { tweak with playerIndex := index } } old.tweakHandle index.toInt32
          rw [setPlayerIndex_some hOld, hSent]
          exact List.prefix_append _ _
  | setHandler tweak element part isSet => exact List.prefix_rfl
  | setPausedHandler tweak isSet =>
      simp only [act, setPausedHandler_eq]
      exact List.prefix_rfl

/-- A change that leaves handlers alone commutes with the actions. -/
theorem changeElement_act
    (hChange : ∀ part isSet tweak, change (tweak.setHandler part isSet) =
      (change tweak).setHandler part isSet) (frontend : State) (action : Action) :
    (frontend.act action).changeElement ref element change =
      (frontend.changeElement ref element change).act action := by
  cases action with
  | setPlayerIndex tweak index =>
      show (frontend.setPlayerIndex tweak index).changeElement ref element change =
        (frontend.changeElement ref element change).setPlayerIndex tweak index
      cases hOld : frontend.created[tweak]? with
      | none =>
          have hNone : (frontend.changeElement ref element change).created[tweak]? = none := by
            rw [changeElement, List.getElem?_modify, hOld]
            rfl
          rw [setPlayerIndex, hOld, setPlayerIndex, hNone]
      | some old =>
          obtain ⟨old', hOld', hHandle⟩ : ∃ old' : GCController,
              (frontend.changeElement ref element change).created[tweak]? = some old' ∧
                old'.tweakHandle = old.tweakHandle := by
            rw [changeElement, List.getElem?_modify, hOld]
            refine ⟨_, rfl, ?_⟩
            split_ifs <;> rfl
          rw [setPlayerIndex_some hOld, setPlayerIndex_some hOld', hHandle,
            changeElement_setControllerIndex]
          have hCreated := modify_comm
            (g := fun tweak : GCController => { tweak with playerIndex := index })
            (h := fun tweak => { tweak with
              tweakElements := tweak.tweakElements.modify element change })
            (fun _ => rfl) frontend.created tweak ref
          exact congrArg (fun created => ({ frontend with created := created } : State)
            |>.setControllerIndex old.tweakHandle index.toInt32) hCreated
  | setHandler tweak other part isSet =>
      have hCreated := modify_comm
        (g := fun controller : GCController => { controller with
          tweakElements := controller.tweakElements.modify other (.setHandler part isSet) })
        (h := fun controller => { controller with
          tweakElements := controller.tweakElements.modify element change })
        (fun controller => congrArg
          (fun elements => ({ controller with tweakElements := elements } : GCController))
          (modify_comm (hChange part isSet) controller.tweakElements other element))
        frontend.created tweak ref
      exact congrArg (fun created => ({ frontend with created := created } : State)) hCreated
  | setPausedHandler tweak isSet =>
      have hCreated := modify_comm
        (g := fun controller : GCController =>
          { controller with controllerPausedHandler := isSet })
        (h := fun controller => { controller with
          tweakElements := controller.tweakElements.modify element change })
        (fun _ => rfl) frontend.created tweak ref
      simp only [act, setPausedHandler_eq]
      exact congrArg (fun created => ({ frontend with created := created } : State)) hCreated

end Change

/-! ## One message -/

/-- What a message makes of an element. -/
def changeValue (part : Part) (value : ℚ) (ref : ControllerRef) (element : ElementRef)
    (frontend : State) : State :=
  frontend.changeElement ref element fun tweak => (tweak.tweakSetValue part value).1

section Messages

variable {application : Application} {frontend frontend' : State} {ref : ControllerRef}
  {element : ElementRef}

theorem FollowsUp.changeElement (hFollows : FollowsUp frontend frontend')
    {change : GCControllerElement → GCControllerElement}
    (hChange : ∀ part isSet tweak, change (tweak.setHandler part isSet) =
      (change tweak).setHandler part isSet) :
    FollowsUp (frontend.changeElement ref element change)
      (frontend'.changeElement ref element change) := by
  refine After.step act_congr (fun s t hSame => ?_) (fun s action => ?_) hFollows
  · rw [changeElement_unheard, changeElement_unheard, hSame]
  · rw [changeElement_act ref element hChange]

theorem callHandler_follows (part : Part) (frontend : State) (call : HandlerCall) :
    FollowsUp (frontend.callHandler application ref element part call) frontend :=
  ⟨_, After.foldl_congr act_congr (unheard_notices frontend ref _) _⟩

theorem callHandlers_follow (part : Part) (calls : List HandlerCall) (frontend : State) :
    FollowsUp (calls.foldl (callHandler application ref element part) frontend) frontend := by
  induction calls generalizing frontend with
  | nil => exact After.refl frontend
  | cons call calls ih => exact (ih _).trans act_congr (callHandler_follows part frontend call)

theorem changeElement_congr {tweak : GCControllerElement}
    (hTweak : frontend.elementAt ref element = some tweak)
    {change change' : GCControllerElement → GCControllerElement}
    (hSame : change tweak = change' tweak) :
    frontend.changeElement ref element change = frontend.changeElement ref element change' := by
  obtain ⟨controller, hController, hElement⟩ := Option.bind_eq_some_iff.mp hTweak
  unfold changeElement
  rw [modify_congr hController]
  simp only [modify_congr hElement hSame]

theorem changeElement_none (hNone : frontend.elementAt ref element = none)
    (change : GCControllerElement → GCControllerElement) :
    frontend.changeElement ref element change = frontend := by
  unfold changeElement
  cases hController : frontend.created[ref]? with
  | none => rw [List.modify_eq_self (List.getElem?_eq_none_iff.mp hController)]
  | some controller =>
      have hElement : controller.tweakElements[element]? = none := by
        rw [elementAt, hController] at hNone
        exact hNone
      have hSame : (fun tweak : GCController =>
          { tweak with tweakElements := tweak.tweakElements.modify element change }) controller =
          id controller := by
        dsimp only [id]
        rw [List.modify_eq_self (List.getElem?_eq_none_iff.mp hElement)]
      rw [modify_congr hController hSame, List.modify_id]

/-- A message changes its part, whatever the handler does. -/
theorem tweakSetValue_follows (part : Part) (value : ℚ) (frontend : State) :
    FollowsUp (frontend.tweakSetValue application ref element part value)
      (frontend.changeValue part value ref element) := by
  unfold tweakSetValue changeValue
  split
  next hNone =>
    rw [changeElement_none hNone]
    exact After.refl frontend
  next tweak hTweak =>
    refine (callHandlers_follow part _ _).view_right act_congr ?_
    rw [changeElement_congr hTweak]
    rfl

/-! ## An element -/

/-- The elements without their handlers. -/
def quietElements (frontend : State) : List (List GCControllerElement) :=
  frontend.created.map fun tweak => tweak.tweakElements.map GCControllerElement.quiet

theorem elementAt_quiet (ref : ControllerRef) (element : ElementRef) (frontend : State) :
    (frontend.elementAt ref element).map GCControllerElement.quiet =
      frontend.quietElements[ref]?.bind (·[element]?) := by
  rw [State.elementAt, quietElements, List.getElem?_map]
  cases frontend.created[ref]? with
  | none => rfl
  | some tweak => exact (List.getElem?_map ..).symm

theorem act_quietElements (frontend : State) (action : Action) :
    (frontend.act action).quietElements = frontend.quietElements := by
  cases action with
  | setPlayerIndex tweak index =>
      show (frontend.setPlayerIndex tweak index).quietElements = _
      cases hOld : frontend.created[tweak]? with
      | none => rw [setPlayerIndex, hOld]
      | some old =>
          rw [setPlayerIndex_some hOld, quietElements, setControllerIndex_created]
          dsimp only
          rw [map_modify_of_same]
          · rfl
          · exact fun _ => rfl
  | setHandler tweak other part isSet =>
      refine map_modify_of_same (fun controller => ?_) _ _
      exact map_modify_of_same (GCControllerElement.setHandler_quiet part isSet) _ _
  | setPausedHandler tweak isSet =>
      simp only [act, setPausedHandler_eq, quietElements]
      rw [map_modify_of_same]
      exact fun _ => rfl

/-- Neither actions nor what is on record change elements but for their handlers. -/
theorem FollowsUp.elementAt (hFollows : FollowsUp frontend frontend') (ref : ControllerRef)
    (element : ElementRef) :
    (frontend.elementAt ref element).map GCControllerElement.quiet =
      (frontend'.elementAt ref element).map GCControllerElement.quiet := by
  have hSame : frontend.quietElements = frontend'.quietElements := by
    refine After.kept (fun s t hView => ?_) act_quietElements hFollows
    exact (congrArg quietElements hView : s.unheard.quietElements = t.unheard.quietElements)
  rw [elementAt_quiet, elementAt_quiet, hSame]

theorem changeElement_changeElement (change change' : GCControllerElement → GCControllerElement)
    (frontend : State) :
    (frontend.changeElement ref element change).changeElement ref element change' =
      frontend.changeElement ref element (change' ∘ change) := by
  simp only [State.changeElement, List.modify_modify_eq]
  congr 2
  funext tweak
  simp only [Function.comp_apply, List.modify_modify_eq]

theorem changeElement_id (frontend : State) :
    frontend.changeElement ref element id = frontend := by
  have hController : (fun tweak : GCController =>
      { tweak with tweakElements := tweak.tweakElements.modify element id }) = id := by
    funext tweak
    rw [List.modify_id]
    rfl
  rw [State.changeElement, hController, List.modify_id]

theorem changeElement_self {tweak : GCControllerElement}
    (hTweak : frontend.elementAt ref element = some tweak) :
    frontend.changeElement ref element (fun _ => tweak) = frontend := by
  rw [changeElement_congr hTweak (show (fun _ => tweak) tweak = id tweak from rfl),
    changeElement_id]

/-- Messages change their parts, one after the other. -/
theorem messages_follow (hFollows : FollowsUp frontend frontend') (messages : List (Part × ℚ)) :
    FollowsUp (frontend.sendMessages application ref element messages)
      (frontend'.changeElement ref element (.afterMessages messages)) := by
  induction messages generalizing frontend frontend' with
  | nil =>
      refine hFollows.view_right act_congr ?_
      exact congrArg unheard (changeElement_id frontend').symm
  | cons message messages ih =>
      obtain ⟨part, value⟩ := message
      have hFirst : FollowsUp (frontend.tweakSetValue application ref element part value)
          (frontend'.changeValue part value ref element) :=
        (tweakSetValue_follows part value frontend).trans act_congr
          (hFollows.changeElement fun other isSet tweak =>
            tweak.tweakSetValue_setHandler part value other isSet)
      refine (ih hFirst).view_right act_congr ?_
      rw [changeValue, changeElement_changeElement]
      rfl

/-- An element stores the values, whatever its handlers do. -/
theorem tweakSetValues_follows (hFollows : FollowsUp frontend frontend')
    {tweak : GCControllerElement} (hTweak : frontend'.elementAt ref element = some tweak)
    (values : List ℚ) :
    Option.Rel (fun (result : State × Nat) plain =>
        FollowsUp result.1 (frontend'.changeElement ref element fun _ => plain.1) ∧
          result.2 = plain.2.1)
      (frontend.tweakSetValues application ref element values) (tweak.tweakSetValues values) := by
  obtain ⟨tweak', hTweak', hQuiet⟩ : ∃ tweak', frontend.elementAt ref element = some tweak' ∧
      tweak'.quiet = tweak.quiet := by
    have hSame := hFollows.elementAt ref element
    rw [hTweak] at hSame
    exact Option.map_eq_some_iff.mp hSame
  unfold State.tweakSetValues GCControllerElement.tweakSetValues
  rw [hTweak']
  cases tweak with
  | button input =>
      cases tweak' with
      | directionPad pad' => cases hQuiet
      | button input' =>
          cases values[0]? with
          | none => exact .none
          | some value =>
              have hMessage : FollowsUp
                  (frontend.tweakSetValue application ref element .self value) _ :=
                messages_follow hFollows [(.self, value)]
              refine .some ⟨hMessage.view_right act_congr ?_, rfl⟩
              rw [changeElement_congr hTweak]
              rfl
  | directionPad pad =>
      cases tweak' with
      | button input' => cases hQuiet
      | directionPad pad' =>
          have hX : pad'.xAxis.value = pad.xAxis.value :=
            congrArg (·.xAxis.value) (GCControllerElement.directionPad.inj hQuiet)
          have hY : pad'.yAxis.value = pad.yAxis.value :=
            congrArg (·.yAxis.value) (GCControllerElement.directionPad.inj hQuiet)
          cases values[0]? with
          | none => exact .none
          | some x =>
              cases values[1]? with
              | none => exact .none
              | some y =>
                  simp only [Option.bind_eq_bind, Option.bind_some, hX, hY]
                  by_cases hSame : ¬ Scalar.ne pad.xAxis.value x ∧ ¬ Scalar.ne pad.yAxis.value y
                  · rw [if_pos hSame]
                    refine .some ⟨hFollows.view_right act_congr ?_, rfl⟩
                    rw [GCControllerDirectionPad.tweakSetValues_same hSame,
                      changeElement_self hTweak]
                  · rw [if_neg hSame]
                    have hMessages : FollowsUp
                        (frontend.sendMessages application ref element (padMessages x y))
                        (frontend'.changeElement ref element fun _ =>
                          .directionPad (pad.tweakSetValues x y).1) := by
                      refine (messages_follow hFollows (padMessages x y)).view_right act_congr ?_
                      exact congrArg unheard (changeElement_congr hTweak
                        (GCControllerDirectionPad.padMessages_eq hSame))
                    split_ifs
                    · exact .some ⟨(callHandler_follows .self _ _).trans act_congr hMessages, rfl⟩
                    · exact .some ⟨hMessages, rfl⟩

/-! ## A controller -/

/-- The loop over the rest of the elements stores what the plain one stores. -/
theorem updateEach_follows (hFollows : FollowsUp frontend frontend') {tweak : GCController}
    (hTweak : frontend'.created[ref]? = some tweak) {before rest : List GCControllerElement}
    (hElements : tweak.tweakElements = before ++ rest) (buf : List ℚ) :
    Option.Rel (fun result plain => FollowsUp result
        { frontend' with created :=
            frontend'.created.set ref { tweak with tweakElements := before ++ plain.1 } })
      (frontend.updateEach application ref (List.range' before.length rest.length) buf)
      (updateElements rest buf) := by
  induction rest generalizing frontend frontend' tweak before buf with
  | nil =>
      refine .some (hFollows.view_right act_congr ?_)
      have hSame : ({ tweak with tweakElements := before ++ [] } : GCController) = tweak := by
        rw [← hElements]
      obtain ⟨hLt, hValue⟩ := List.getElem?_eq_some_iff.mp hTweak
      rw [hSame, ← hValue, List.set_getElem_self]
  | cons i rest ih =>
      have hAt : frontend'.elementAt ref before.length = some i := by
        rw [State.elementAt, hTweak, Option.bind_eq_bind, Option.bind_some, hElements]
        rw [List.getElem?_append_right le_rfl, Nat.sub_self]
        rfl
      have hElement : Option.Rel _ (frontend.tweakSetValues application ref before.length buf)
          (i.tweakSetValues buf) := tweakSetValues_follows hFollows hAt buf
      rw [List.length_cons, List.range'_succ, updateEach, updateElements]
      generalize frontend.tweakSetValues application ref before.length buf = result at hElement
      generalize i.tweakSetValues buf = plain at hElement
      cases hElement with
      | none => exact .none
      | some hBoth =>
          rename_i result plain
          obtain ⟨changed, consumed⟩ := result
          obtain ⟨i', consumed', calls⟩ := plain
          obtain ⟨hChanged, rfl⟩ := hBoth
          have hSet : tweak.tweakElements.modify before.length (fun _ => i') =
              before ++ i' :: rest := by
            rw [hElements, ← set_eq_modify (a := i) (by simp) fun _ => i',
              List.set_append_right _ _ le_rfl, Nat.sub_self]
            rfl
          have hCreated : (frontend'.changeElement ref before.length fun _ => i').created =
              frontend'.created.set ref { tweak with tweakElements := before ++ i' :: rest } := by
            rw [← hSet, set_eq_modify hTweak fun tweak : GCController => { tweak with
              tweakElements := tweak.tweakElements.modify before.length fun _ => i' }]
            rfl
          have hTweak' : (frontend'.changeElement ref before.length fun _ => i').created[ref]? =
              some { tweak with tweakElements := before ++ i' :: rest } := by
            rw [hCreated, List.getElem?_set_self (List.getElem?_eq_some_iff.mp hTweak).1]
          have hRest := ih hChanged hTweak' (List.append_assoc before [i'] rest).symm
            (buf.drop consumed)
          rw [List.length_append, List.length_singleton] at hRest
          simp only [Option.bind_eq_bind, Option.bind_some]
          generalize changed.updateEach application ref
            (List.range' (before.length + 1) rest.length) (buf.drop consumed) = last at hRest
          generalize updateElements rest (buf.drop consumed) = plain at hRest
          cases hRest with
          | none => exact .none
          | some hLast =>
              rename_i last plain
              refine .some (hLast.view_right act_congr ?_)
              rw [hCreated, List.set_set, List.append_assoc]
              rfl

/-! ## The plain frontend -/

theorem handlePacketConnect_unheard (aHandle : UInt32) (data : MFiWConnectPacket)
    (frontend : State) :
    (frontend.handlePacketConnect aHandle data).unheard =
      (frontend.unheard.handlePacketConnect aHandle data).unheard := by
  unfold handlePacketConnect
  rw [← setControllerIndex_unheard]
  simp only [unheard, List.filter_append, List.filter_filter, Bool.and_self]

theorem handlePacketDisconnect_unheard (aHandle : UInt32) (frontend : State) :
    (frontend.handlePacketDisconnect aHandle).map unheard =
      (frontend.unheard.handlePacketDisconnect aHandle).map unheard := by
  have hIdx : frontend.unheard.idx aHandle = frontend.idx aHandle := rfl
  have hControllers : frontend.unheard.controllers = frontend.controllers := rfl
  unfold handlePacketDisconnect
  rw [hIdx, hControllers]
  cases frontend.controllers with
  | none => simp only [Option.map_some, unheard, List.filter_filter, Bool.and_self]
  | some controllers =>
      cases frontend.idx aHandle with
      | none => rfl
      | some i =>
          simp only [Option.bind_eq_bind, Option.bind_some]
          cases controllers[i]? with
          | none => rfl
          | some tweak =>
              simp only [Option.bind_some, Option.pure_def, Option.map_some, unheard,
                List.filter_append, List.filter_filter, Bool.and_self]

theorem handlePacketInputState_unheard (aHandle : UInt32) (data : MFiWInputStatePacket ℚ)
    (frontend : State) :
    (frontend.handlePacketInputState aHandle data).map unheard =
      (frontend.unheard.handlePacketInputState aHandle data).map unheard := by
  have hTweak : frontend.unheard.tweak aHandle = frontend.tweak aHandle := rfl
  have hCreated : frontend.unheard.created = frontend.created := rfl
  unfold handlePacketInputState
  rw [hTweak, hCreated]
  cases frontend.tweak aHandle with
  | none => simp only [Option.map_some, unheard, List.filter_filter, Bool.and_self]
  | some ref =>
      dsimp only
      cases frontend.created[ref]? with
      | none => rfl
      | some tweak =>
          simp only [Option.bind_eq_bind, Option.bind_some]
          cases tweak.tweakUpdateButtons data with
          | none => rfl
          | some result =>
              simp only [Option.bind_some, Option.pure_def, Option.map_some, unheard,
                List.filter_append, List.filter_filter, Bool.and_self]

theorem handlePacketPausePressed_unheard (aHandle : UInt32) (frontend : State) :
    (frontend.handlePacketPausePressed aHandle).unheard =
      (frontend.unheard.handlePacketPausePressed aHandle).unheard := by
  have hTweak : frontend.unheard.tweak aHandle = frontend.tweak aHandle := rfl
  have hCreated : frontend.unheard.created = frontend.created := rfl
  unfold handlePacketPausePressed
  rw [hTweak, hCreated]
  cases frontend.tweak aHandle with
  | none => simp only [unheard, List.filter_filter, Bool.and_self]
  | some ref =>
      dsimp only
      split_ifs <;>
        simp only [unheard, List.filter_append, List.filter_filter, Bool.and_self]

/-- The plain frontend does not look at what is on record. -/
theorem handleDataPacket_unheard (ofBits : UInt32 → ℚ) (aPacket : MFiWDataPacket)
    (frontend : State) :
    (frontend.handleDataPacket ofBits aPacket).map unheard =
      (frontend.unheard.handleDataPacket ofBits aPacket).map unheard := by
  have hIdle : (some frontend).map unheard = (some frontend.unheard).map unheard := by
    simp only [Option.map_some, unheard, List.filter_filter, Bool.and_self]
  unfold handleDataPacket
  cases aPacket.knownType with
  | none => exact hIdle
  | some type =>
      cases type with
      | connect =>
          dsimp only
          split_ifs
          · exact congrArg some (handlePacketConnect_unheard _ _ frontend)
          · rfl
      | disconnect => exact handlePacketDisconnect_unheard _ frontend
      | inputState => exact handlePacketInputState_unheard _ _ frontend
      | pausePressed => exact congrArg some (handlePacketPausePressed_unheard _ frontend)
      | setPlayerIndex => exact hIdle

/-- Packets are sent after those that were sent before. -/
theorem handleDataPacket_sent {ofBits : UInt32 → ℚ} {aPacket : MFiWDataPacket}
    (hHandle : frontend.handleDataPacket ofBits aPacket = some frontend') :
    frontend.sent <+: frontend'.sent := by
  unfold handleDataPacket at hHandle
  split at hHandle
  · split_ifs at hHandle
    obtain rfl := Option.some.inj hHandle
    obtain ⟨packets, hSent, -⟩ := frontend.setControllerIndex_sent aPacket.aHandle
      gcControllerPlayerIndexUnset.toInt32
    show _ <+: (frontend.setControllerIndex _ _).sent
    rw [hSent]
    exact List.prefix_append _ _
  · unfold handlePacketDisconnect at hHandle
    split at hHandle
    · exact Option.some.inj hHandle ▸ List.prefix_rfl
    · obtain ⟨i, -, hRest⟩ := Option.bind_eq_some_iff.mp hHandle
      obtain ⟨tweak, -, hReturn⟩ := Option.bind_eq_some_iff.mp hRest
      exact Option.some.inj hReturn ▸ List.prefix_rfl
  · unfold handlePacketInputState at hHandle
    split at hHandle
    · exact Option.some.inj hHandle ▸ List.prefix_rfl
    · obtain ⟨tweak, -, hRest⟩ := Option.bind_eq_some_iff.mp hHandle
      obtain ⟨result, -, hReturn⟩ := Option.bind_eq_some_iff.mp hRest
      exact Option.some.inj hReturn ▸ List.prefix_rfl
  · obtain rfl := Option.some.inj hHandle
    unfold handlePacketPausePressed
    split
    · exact List.prefix_rfl
    · split_ifs <;> exact List.prefix_rfl
  · exact Option.some.inj hHandle ▸ List.prefix_rfl
  · exact Option.some.inj hHandle ▸ List.prefix_rfl

/-! ## Packets -/

theorem handlePacketConnectWith_follows (aHandle : UInt32) (data : MFiWConnectPacket)
    (frontend : State) :
    FollowsUp (frontend.handlePacketConnectWith application aHandle data)
      (frontend.handlePacketConnect aHandle data) :=
  After.foldl _ _

theorem handlePacketDisconnectWith_follows (aHandle : UInt32) (frontend : State) :
    Option.Rel FollowsUp (frontend.handlePacketDisconnectWith application aHandle)
      (frontend.handlePacketDisconnect aHandle) := by
  unfold handlePacketDisconnectWith handlePacketDisconnect
  cases frontend.controllers with
  | none => exact .some (After.refl frontend)
  | some controllers =>
      cases frontend.idx aHandle with
      | none => exact .none
      | some i =>
          simp only [Option.bind_eq_bind, Option.bind_some]
          cases controllers[i]? with
          | none => exact .none
          | some tweak => exact .some (After.foldl _ _)

theorem handlePacketInputStateWith_follows (aHandle : UInt32) (data : MFiWInputStatePacket ℚ)
    (frontend : State) :
    Option.Rel FollowsUp (frontend.handlePacketInputStateWith application aHandle data)
      (frontend.handlePacketInputState aHandle data) := by
  unfold handlePacketInputStateWith handlePacketInputState
  cases frontend.tweak aHandle with
  | none => exact .some (After.refl frontend)
  | some ref =>
      cases hTweak : frontend.created[ref]? with
      | none => simp only [hTweak]; exact .none
      | some tweak =>
          have hLoop : Option.Rel _ (frontend.updateEach application ref
              (List.range' 0 tweak.tweakElements.length) data.fields)
              (updateElements tweak.tweakElements data.fields) :=
            updateEach_follows (After.refl frontend) hTweak (List.nil_append _).symm data.fields
          simp only [hTweak, Option.bind_eq_bind, Option.bind_some, List.range_eq_range',
            GCController.tweakUpdateButtons]
          generalize frontend.updateEach application ref
            (List.range' 0 tweak.tweakElements.length) data.fields = result at hLoop
          generalize updateElements tweak.tweakElements data.fields = plain at hLoop
          cases hLoop with
          | none => exact .none
          | some hUpdated =>
              -- the plain update records the calls of the handlers
              exact .some (hUpdated.view_right act_congr (unheard_notices _ _ _).symm)

theorem handlePacketPausePressedWith_follows (aHandle : UInt32) (frontend : State) :
    FollowsUp (frontend.handlePacketPausePressedWith application aHandle)
      (frontend.handlePacketPausePressed aHandle) := by
  unfold handlePacketPausePressedWith handlePacketPausePressed
  cases frontend.tweak aHandle with
  | none => exact After.refl frontend
  | some ref =>
      dsimp only
      split_ifs
      · exact After.foldl _ _
      · exact After.refl frontend

/-- What the handlers do while a packet is handled can be thought to come after it. -/
theorem handleDataPacketWith_follows (ofBits : UInt32 → ℚ) (aPacket : MFiWDataPacket)
    (frontend : State) :
    Option.Rel FollowsUp (frontend.handleDataPacketWith application ofBits aPacket)
      (frontend.handleDataPacket ofBits aPacket) := by
  unfold handleDataPacketWith handleDataPacket
  cases aPacket.knownType with
  | none => exact .some (After.refl frontend)
  | some type =>
      cases type with
      | connect =>
          dsimp only
          split_ifs
          · exact .some (handlePacketConnectWith_follows _ _ frontend)
          · exact .none
      | disconnect => exact handlePacketDisconnectWith_follows _ frontend
      | inputState => exact handlePacketInputStateWith_follows _ _ frontend
      | pausePressed => exact .some (handlePacketPausePressedWith_follows _ frontend)
      | setPlayerIndex => exact .some (After.refl frontend)

end Messages

end State

end Frontend
end MFiWrapper
