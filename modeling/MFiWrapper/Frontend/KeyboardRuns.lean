import MFiWrapper.Frontend.Keyboard

/-!
# Which comes first, the keyboard or the array

The keyboard registers its controller with the first key event, the array of
controllers is created by the first call of the application.  Either may be first;
a controller that is registered while there is no array is never seen again.
-/

namespace MFiWrapper
namespace Frontend

open Library

/-- The key event gets to the controller: its elements are updated with the state
packet or, for START, its pause handler is called if it is set. -/
structure Reaches (ref : ControllerRef) (tweak : GCController) (key : ICadeKey)
    (before after : ICade) : Prop where
  start : key.button = .start → after.frontend.notices = before.frontend.notices ++
    if tweak.controllerPausedHandler then [.paused ref] else []
  elements : key.button ≠ .start → ∃ tweakElements left calls,
    tweak.tweakUpdateButtons after.state =
      some ({ tweak with tweakElements := tweakElements }, left, calls) ∧
    after.frontend.created[ref]? = some { tweak with tweakElements := tweakElements } ∧
    after.frontend.notices = before.frontend.notices ++ [.valuesChanged ref calls]

/-- There is one local controller in the array, and every key event gets to it. -/
structure Registered (iCade : ICade) : Prop where
  once : iCade.frontend.handles.count MFiWLocalHandle = 1
  reached : ∃ ref tweak, ref ∈ iCade.frontend.elements ∧
    iCade.frontend.created[ref]? = some tweak ∧ tweak.tweakHandle = MFiWLocalHandle ∧
    ∀ aCode key, iCadeKey true aCode = some key →
      ∃ after, iCade.event true aCode = some after ∧ Reaches ref tweak key iCade after

/-- The build, and whether there was an `Event` or a `Startup` yet. -/
structure ICadeTrace where
  iCade : ICade
  events : Bool
  startups : Bool

namespace ICadeTrace

def initial : ICadeTrace := ⟨.initial, false, false⟩

def step (trace : ICadeTrace) (call : ICadeCall) : Option ICadeTrace := do
  let iCade ← trace.iCade.step call
  return match call with
    | .event _ _ => { trace with iCade := iCade, events := true }
    | .startup => { trace with iCade := iCade, startups := true }
    | _ => { trace with iCade := iCade }

/-- Once there were both, the controller is registered. -/
def RegisteredByNow (trace : ICadeTrace) : Prop :=
  trace.events = true → trace.startups = true → Registered trace.iCade

/-- The call is not a first `Startup` that comes after an `Event`. -/
def StartsInTime (trace : ICadeTrace) : ICadeCall → Prop
  | .startup => trace.events = true → trace.startups = true
  | _ => True

/-- The invariant of the runs that start in time. -/
structure Inv (trace : ICadeTrace) : Prop where
  initialized : trace.iCade.initialized = trace.events
  handle : trace.events = true → trace.iCade.handle = MFiWLocalHandle
  controllers : trace.iCade.frontend.controllers =
    if trace.startups then some (if trace.events then [0] else []) else none
  created : trace.iCade.frontend.created.map GCController.tweakHandle =
    if trace.events then [MFiWLocalHandle] else []
  built : ∀ tweak ∈ trace.iCade.frontend.created, tweak.Built

variable {trace : ICadeTrace}

theorem inv_initial : initial.Inv :=
  ⟨rfl, fun hEvents => (nomatch hEvents), rfl, rfl, fun _ hMem => (nomatch hMem)⟩

theorem Inv.sound (hInv : trace.Inv) : trace.iCade.frontend.Sound := by
  refine ⟨fun ref hRef => ?_, hInv.built⟩
  have hLength := congrArg List.length hInv.created
  rw [List.length_map] at hLength
  rw [State.elements, hInv.controllers] at hRef
  rw [hLength]
  cases hStartups : trace.startups with
  | false => simp [hStartups] at hRef
  | true =>
      cases hEvents : trace.events with
      | false => simp [hStartups, hEvents] at hRef
      | true =>
          obtain rfl : ref = 0 := by simpa [hStartups, hEvents] using hRef
          exact Nat.zero_lt_one

/-- What leaves the array and the handles alone leaves the invariant alone. -/
theorem Inv.keeps (hInv : trace.Inv) {iCade : ICade}
    (hKeeps : State.Keeps trace.iCade.frontend iCade.frontend)
    (hInitialized : iCade.initialized = trace.iCade.initialized)
    (hHandle : iCade.handle = trace.iCade.handle) : Inv { trace with iCade := iCade } where
  initialized := hInitialized.trans hInv.initialized
  handle hEvents := hHandle.trans (hInv.handle hEvents)
  controllers := hKeeps.controllers.trans hInv.controllers
  created := hKeeps.created.trans hInv.created
  built := hKeeps.built hInv.built

/-- The first part of an event. -/
theorem Inv.register (hInv : trace.Inv) :
    Inv { trace with iCade := trace.iCade.register, events := true } := by
  unfold ICade.register
  split_ifs with hInitialized
  · have hEvents : trace.events = true := hInv.initialized ▸ hInitialized
    rw [← hEvents]
    exact hInv
  · have hEvents : trace.events = false := by
      rw [← hInv.initialized]
      exact Bool.not_eq_true _ ▸ hInitialized
    have hCreated : trace.iCade.frontend.created = [] := by
      have hNone := hInv.created
      rw [hEvents] at hNone
      exact List.map_eq_nil_iff.mp hNone
    refine ⟨rfl, fun _ => rfl, ?_, ?_, ?_⟩
    · have hControllers := hInv.controllers
      rw [hEvents] at hControllers
      simp only [State.handlePacketConnect, State.setControllerIndex_controllers, hControllers,
        hCreated, List.length_nil]
      cases trace.startups
      · rfl
      · rfl
    · rw [State.handlePacketConnect_created, hCreated]
      rfl
    · intro tweak hMem
      rw [State.handlePacketConnect_created, hCreated, List.nil_append, List.mem_singleton] at hMem
      rw [hMem]
      exact GCController.controllerForHandle_built MFiWLocalHandle iCadeConnect

/-- A call that comes in time keeps the invariant. -/
theorem Inv.step (hInv : trace.Inv) {call : ICadeCall} (hInTime : trace.StartsInTime call) :
    ∃ after, trace.step call = some after ∧ after.Inv := by
  cases call with
  | event aDown aCode =>
      have hRegistered := hInv.register
      simp only [ICadeTrace.step, ICade.step, ICade.event]
      cases iCadeKey aDown aCode with
      | none => exact ⟨_, rfl, hRegistered⟩
      | some key =>
          obtain ⟨after, hPress, hKeeps, hInitialized, hHandle, -⟩ :=
            ICade.press_completes hRegistered.sound key
          refine ⟨{ trace with iCade := after, events := true }, ?_,
            hRegistered.keeps hKeeps hInitialized hHandle⟩
          show (trace.iCade.register.press key).bind _ = _
          rw [hPress]
          rfl
  | startup =>
      refine ⟨_, rfl, hInv.initialized, hInv.handle, ?_, hInv.created, hInv.built⟩
      show some trace.iCade.frontend.elements = some _
      rw [State.elements, hInv.controllers]
      cases hEvents : trace.events with
      | false => cases trace.startups <;> rfl
      | true =>
          have hStartups : trace.startups = true := hInTime hEvents
          rw [hStartups]
          rfl
  | setPausedHandler tweak isSet =>
      exact ⟨_, rfl, hInv.keeps (State.keeps_setPausedHandler tweak isSet _) rfl rfl⟩
  | setPlayerIndex tweak index =>
      exact ⟨_, rfl, hInv.keeps (State.keeps_setPlayerIndex tweak index _) rfl rfl⟩

/-- With the controller in the array it is the one that the packets are for. -/
theorem Inv.registered (hInv : trace.Inv) (hEvents : trace.events = true)
    (hStartups : trace.startups = true) : Registered trace.iCade := by
  have hControllers : trace.iCade.frontend.controllers = some [0] := by
    rw [hInv.controllers, hStartups, hEvents]
    rfl
  have hElements : trace.iCade.frontend.elements = [0] := by
    rw [State.elements, hControllers]
    rfl
  obtain ⟨tweak, hCreated, hHandle⟩ : ∃ tweak, trace.iCade.frontend.created = [tweak] ∧
      tweak.tweakHandle = MFiWLocalHandle := by
    have hMap := hInv.created
    rw [hEvents] at hMap
    obtain ⟨tweak, hCreated, hHandle⟩ := List.map_eq_singleton_iff.mp hMap
    exact ⟨tweak, hCreated, hHandle⟩
  have hTweak : trace.iCade.frontend.created[0]? = some tweak := by
    rw [hCreated]
    rfl
  obtain ⟨hHandleOf, hRef⟩ := State.tweak_first hElements hTweak hHandle
  have hRegister : trace.iCade.register = trace.iCade :=
    if_pos (hInv.initialized.trans hEvents)
  refine ⟨?_, 0, tweak, by rw [hElements]; exact List.mem_singleton_self 0, hTweak, hHandle, ?_⟩
  · rw [State.handles, hElements, List.map_singleton, hHandleOf]
    rfl
  · intro aCode key hKey
    simp only [ICade.event, hKey, hRegister, ICade.press]
    split_ifs with hStart
    · refine ⟨_, rfl, fun _ => ?_, fun hNot => absurd hStart hNot⟩
      simp only [State.handlePacketPausePressed, hRef, hTweak, Option.map_some, Option.getD_some]
      cases tweak.controllerPausedHandler
      · exact (List.append_nil _).symm
      · rfl
    · obtain ⟨tweakElements, left, calls, hUpdate, -, hStep⟩ :=
        State.handlePacketInputState_found hRef hTweak
          (hInv.built tweak (List.mem_of_getElem? hTweak)) (key.assign trace.iCade.state)
      rw [hInv.handle hEvents, hStep]
      refine ⟨_, rfl, fun hAbsurd => absurd hAbsurd hStart, fun _ => ?_⟩
      refine ⟨tweakElements, left, calls, hUpdate, ?_, rfl⟩
      show (trace.iCade.frontend.created.set 0 _)[0]? = _
      rw [hCreated]
      rfl

/-- A first `Startup` after an `Event` finds no controller to keep. -/
theorem Inv.late (hInv : trace.Inv) {call : ICadeCall} (hLate : ¬ trace.StartsInTime call)
    {after : ICadeTrace} (hStep : trace.step call = some after) : ¬ after.RegisteredByNow := by
  cases call with
  | event aDown aCode => exact absurd trivial hLate
  | setPausedHandler tweak isSet => exact absurd trivial hLate
  | setPlayerIndex tweak index => exact absurd trivial hLate
  | startup =>
      obtain ⟨hEvents, hNone⟩ : trace.events = true ∧ ¬ trace.startups = true := by
        simpa [StartsInTime] using hLate
      obtain rfl := Option.some.inj hStep
      intro hRegistered
      have hOnce := (hRegistered hEvents rfl).once
      have hElements : trace.iCade.frontend.startupICade.elements = [] := by
        show trace.iCade.frontend.elements = []
        rw [State.elements, hInv.controllers, if_neg hNone]
        rfl
      rw [State.handles, hElements] at hOnce
      cases hOnce

/-- In every run of the iCade build, the controller is registered as soon as there were
both a key event and a `Startup`, if and only if a `Startup` comes before the first key
event or not at all. -/
theorem registered_iff_starts_in_time (calls : List ICadeCall) :
    Throughout ICadeTrace.step RegisteredByNow initial calls ↔
      Along ICadeTrace.step StartsInTime initial calls := by
  have hGood : ∀ trace, Inv trace → RegisteredByNow trace := fun _ hInv => hInv.registered
  refine throughout_iff_along hGood ?_ ?_ inv_initial calls
  · intro trace call hInv hInTime
    exact hInv.step hInTime
  · intro trace call hInv hLate after hStep
    exact hInv.late hLate hStep

theorem step_event {aDown : Bool} {aCode : UInt32} {after : ICadeTrace}
    (hStep : trace.step (.event aDown aCode) = some after) :
    after.events = true ∧ after.startups = trace.startups := by
  obtain ⟨iCade, -, hAfter⟩ := Option.bind_eq_some_iff.mp hStep
  obtain rfl := Option.some.inj hAfter
  exact ⟨rfl, rfl⟩

/-- The key A, and then the application asks for the controllers: there are none. -/
theorem keyboard_lost :
    ¬ Throughout ICadeTrace.step RegisteredByNow initial [.event true 0x0E, .startup] := by
  intro hAll
  obtain ⟨after, hRun, hRegistered⟩ := hAll _ (List.prefix_refl _)
  have hInTime : initial.StartsInTime (.event true 0x0E) := trivial
  obtain ⟨pressed, hPressed, hInv⟩ := inv_initial.step hInTime
  obtain ⟨hEvents, hStartups⟩ := step_event hPressed
  have hLate : ¬ pressed.StartsInTime .startup := fun hNow => by
    have hBoth := hStartups.symm.trans (hNow hEvents)
    cases hBoth
  rw [run_cons, hPressed] at hRun
  exact hInv.late hLate ((run_singleton _ _ _).symm.trans hRun) hRegistered

end ICadeTrace

end Frontend
end MFiWrapper
