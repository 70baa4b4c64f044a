import MFiWrapper.Frontend.Keyboard

/-!
# START on the keyboard

The calls of the `controllerPausedHandler` of the local controller, key event by key
event.  Every control has a key for going down and another for coming up; the case of
START in `Event` is the only one that does not ask which of the two it was.
-/

namespace MFiWrapper
namespace Frontend

open Library

/-- The key that START sends when it goes down. -/
def startPress : ICadeKey := ⟨false, .start⟩

/-- The key that START sends when it comes up. -/
def startRelease : ICadeKey := ⟨true, .start⟩

/-- The controllers whose `controllerPausedHandler` was called, in order. -/
def pausesOf (notices : List Notice) : List ControllerRef :=
  notices.filterMap fun
    | .paused tweak => some tweak
    | _ => none

/-- The local controller is in the array and has a `controllerPausedHandler`. -/
def ICade.PauseHandler (iCade : ICade) (ref : ControllerRef) : Prop :=
  ref ∈ iCade.frontend.elements ∧ ∃ tweak, iCade.frontend.created[ref]? = some tweak ∧
    tweak.tweakHandle = MFiWLocalHandle ∧ tweak.controllerPausedHandler = true

/-- The handler is called once for the key that START sends going down and for no other
key, and neither key of START changes the state packet. -/
structure PausesAsPressed (aDown : Bool) (aCode : UInt32) (before after : ICade) : Prop where
  handler : ∀ ref, before.PauseHandler ref → ∃ notices,
    after.frontend.notices = before.frontend.notices ++ notices ∧
      pausesOf notices = if iCadeKey aDown aCode = some startPress then [ref] else []
  state : ∀ key, iCadeKey aDown aCode = some key → key.button = .start →
    after.state = before.state

/-- A call, if it is a key event, completes and pauses as it should. -/
def OnePause (iCade : ICade) : ICadeCall → Prop
  | .event aDown aCode =>
      ∃ after, iCade.event aDown aCode = some after ∧ PausesAsPressed aDown aCode iCade after
  | _ => True

/-- START does not come up while there is a handler. -/
def NotReleased (iCade : ICade) : ICadeCall → Prop
  | .event aDown aCode =>
      (∃ ref, iCade.PauseHandler ref) → iCadeKey aDown aCode ≠ some startRelease
  | _ => True

/-! ## The local controller -/

namespace ICade

/-- No controller but the local one has been created, and that by the first key event. -/
structure Local (iCade : ICade) : Prop where
  sound : iCade.frontend.Sound
  created : iCade.frontend.created.map GCController.tweakHandle =
    if iCade.initialized then [MFiWLocalHandle] else []

variable {iCade : ICade}

theorem local_initial : initial.Local :=
  ⟨⟨fun _ hRef => (nomatch hRef), fun _ hMem => (nomatch hMem)⟩, rfl⟩

theorem Local.keeps (hLocal : iCade.Local) {after : ICade}
    (hKeeps : State.Keeps iCade.frontend after.frontend)
    (hInitialized : after.initialized = iCade.initialized) : after.Local where
  sound := hKeeps.sound hLocal.sound
  created := by rw [hKeeps.created, hLocal.created, hInitialized]

/-- The first part of an event. -/
theorem Local.register (hLocal : iCade.Local) : iCade.register.Local := by
  refine ⟨register_sound hLocal.sound, ?_⟩
  have hCreated := hLocal.created
  by_cases hInitialized : iCade.initialized = true
  · rw [ICade.register, if_pos hInitialized]
    exact hCreated
  · rw [if_neg hInitialized, List.map_eq_nil_iff] at hCreated
    rw [ICade.register, if_neg hInitialized, State.handlePacketConnect_created, hCreated]
    rfl

/-- Every call completes and keeps the invariant. -/
theorem Local.step (hLocal : iCade.Local) (call : ICadeCall) :
    ∃ after, iCade.step call = some after ∧ after.Local := by
  cases call with
  | event aDown aCode =>
      have hRegistered := hLocal.register
      simp only [ICade.step, ICade.event]
      cases iCadeKey aDown aCode with
      | none => exact ⟨_, rfl, hRegistered⟩
      | some key =>
          obtain ⟨after, hPress, hKeeps, hInitialized, -⟩ :=
            press_completes hRegistered.sound key
          exact ⟨after, hPress, hRegistered.keeps hKeeps hInitialized⟩
  | startup => exact ⟨_, rfl, hLocal.sound.startupICade, hLocal.created⟩
  | setPausedHandler tweak isSet =>
      exact ⟨_, rfl, hLocal.keeps (State.keeps_setPausedHandler tweak isSet _) rfl⟩
  | setPlayerIndex tweak index =>
      exact ⟨_, rfl, hLocal.keeps (State.keeps_setPlayerIndex tweak index _) rfl⟩

/-- The controller with the handler is the one that the packets are for, and the next
event does not register another. -/
theorem Local.found (hLocal : iCade.Local) {ref : ControllerRef}
    (hHandler : iCade.PauseHandler ref) :
    iCade.register = iCade ∧ iCade.frontend.tweak MFiWLocalHandle = some ref := by
  obtain ⟨hElement, tweak, hTweak, hHandle, -⟩ := hHandler
  have hLength := congrArg List.length hLocal.created
  rw [List.length_map] at hLength
  have hOnly (other : ControllerRef) (hOther : other ∈ iCade.frontend.elements) :
      iCade.initialized = true ∧ other = 0 := by
    have hAlive := hLocal.sound.alive other hOther
    rw [hLength] at hAlive
    split_ifs at hAlive with hInitialized
    · exact ⟨hInitialized, Nat.lt_one_iff.mp hAlive⟩
    · cases hAlive
  obtain ⟨hInitialized, rfl⟩ := hOnly ref hElement
  refine ⟨if_pos hInitialized, ?_⟩
  cases hElements : iCade.frontend.elements with
  | nil =>
      rw [hElements] at hElement
      cases hElement
  | cons first rest =>
      obtain ⟨-, rfl⟩ := hOnly first (hElements ▸ List.mem_cons_self)
      exact (State.tweak_first hElements hTweak hHandle).2

/-! ## One event -/

/-- An input state calls no `controllerPausedHandler`. -/
theorem inputState_silent {frontend : State} (hSound : frontend.Sound) (handle : UInt32)
    (data : MFiWInputStatePacket ℚ) :
    ∃ frontend' notices, frontend.handlePacketInputState handle data = some frontend' ∧
      frontend'.notices = frontend.notices ++ notices ∧ pausesOf notices = [] := by
  cases hRef : frontend.tweak handle with
  | none =>
      exact ⟨frontend, [], by rw [State.handlePacketInputState, hRef], (List.append_nil _).symm, rfl⟩
  | some ref =>
      have hLt := hSound.alive ref (State.tweak_eq_some hRef).1
      obtain ⟨tweakElements, left, calls, -, -, hStep⟩ := State.handlePacketInputState_found hRef
        (List.getElem?_eq_getElem hLt) (hSound.built _ (List.getElem_mem hLt)) data
      exact ⟨_, [.valuesChanged ref calls], hStep, rfl, rfl⟩

/-- Either key of START calls the handler. -/
theorem Local.pauses (hLocal : iCade.Local) {ref : ControllerRef}
    (hHandler : iCade.PauseHandler ref) {aDown : Bool} {aCode : UInt32} {key : ICadeKey}
    (hKey : iCadeKey aDown aCode = some key) (hStart : key.button = .start) :
    ∃ after, iCade.event aDown aCode = some after ∧
      after.frontend.notices = iCade.frontend.notices ++ [.paused ref] := by
  obtain ⟨hRegister, hRef⟩ := hLocal.found hHandler
  obtain ⟨-, tweak, hTweak, -, hSet⟩ := hHandler
  simp only [ICade.event, hKey, hRegister, ICade.press, if_pos hStart]
  refine ⟨_, rfl, ?_⟩
  simp only [State.handlePacketPausePressed, hRef, hTweak, Option.map_some, Option.getD_some, hSet,
    if_true]

/-- Any other event does not. -/
theorem Local.silent (hLocal : iCade.Local) {ref : ControllerRef}
    (hHandler : iCade.PauseHandler ref) {aDown : Bool} {aCode : UInt32}
    (hOther : ∀ key, iCadeKey aDown aCode = some key → key.button ≠ .start) :
    ∃ after notices, iCade.event aDown aCode = some after ∧
      after.frontend.notices = iCade.frontend.notices ++ notices ∧ pausesOf notices = [] := by
  obtain ⟨hRegister, hRef⟩ := hLocal.found hHandler
  cases hKey : iCadeKey aDown aCode with
  | none =>
      simp only [ICade.event, hKey, hRegister]
      exact ⟨iCade, [], rfl, (List.append_nil _).symm, rfl⟩
  | some key =>
      obtain ⟨frontend, notices, hStep, hNotices, hSilent⟩ :=
        inputState_silent hLocal.sound iCade.handle (key.assign iCade.state)
      simp only [ICade.event, hKey, hRegister, ICade.press, if_neg (hOther key hKey), hStep]
      exact ⟨_, notices, rfl, hNotices, hSilent⟩

end ICade

theorem start_key {key : ICadeKey} (hStart : key.button = .start) :
    key = startPress ∨ key = startRelease := by
  obtain ⟨up, button⟩ := key
  obtain rfl : button = .start := hStart
  cases up
  · exact .inl rfl
  · exact .inr rfl

/-- START does not change the state packet. -/
theorem start_keeps_state {iCade after : ICade} (hLocal : iCade.Local) {aDown : Bool}
    {aCode : UInt32} (hEvent : iCade.event aDown aCode = some after) (key : ICadeKey)
    (hKey : iCadeKey aDown aCode = some key) (hStart : key.button = .start) :
    after.state = iCade.state := by
  obtain ⟨other, hOther, -, hState⟩ := ICade.step_completes hLocal.sound (.event aDown aCode)
  obtain rfl := Option.some.inj (hEvent.symm.trans hOther)
  rw [hState]
  simp only [ICadeCall.key, hKey, ICadeKey.assign, hStart]

/-- A call pauses as it should exactly if it is not START coming up. -/
theorem onePause_iff {iCade : ICade} (hLocal : iCade.Local) (call : ICadeCall) :
    OnePause iCade call ↔ NotReleased iCade call := by
  cases call with
  | startup => exact Iff.rfl
  | setPausedHandler tweak isSet => exact Iff.rfl
  | setPlayerIndex tweak index => exact Iff.rfl
  | event aDown aCode =>
      constructor
      · rintro ⟨after, hEvent, hPauses⟩ ⟨ref, hHandler⟩ hKey
        obtain ⟨notices, hNotices, hNone⟩ := hPauses.handler ref hHandler
        obtain ⟨other, hOther, hPaused⟩ := hLocal.pauses hHandler hKey rfl
        obtain rfl := Option.some.inj (hEvent.symm.trans hOther)
        obtain rfl := List.append_cancel_left (hNotices.symm.trans hPaused)
        rw [hKey, if_neg (by decide)] at hNone
        cases hNone
      · intro hNotReleased
        obtain ⟨after, hEvent, -⟩ := hLocal.step (.event aDown aCode)
        refine ⟨after, hEvent, fun ref hHandler => ?_, start_keeps_state hLocal hEvent⟩
        by_cases hStart : ∃ key, iCadeKey aDown aCode = some key ∧ key.button = .start
        · obtain ⟨key, hKey, hButton⟩ := hStart
          obtain ⟨other, hOther, hPaused⟩ := hLocal.pauses hHandler hKey hButton
          obtain rfl := Option.some.inj (hEvent.symm.trans hOther)
          refine ⟨_, hPaused, ?_⟩
          rcases start_key hButton with rfl | rfl
          · rw [hKey, if_pos rfl]
            rfl
          · exact absurd hKey (hNotReleased ⟨ref, hHandler⟩)
        · obtain ⟨other, notices, hOther, hNotices, hSilent⟩ := hLocal.silent hHandler
            fun key hKey hButton => hStart ⟨key, hKey, hButton⟩
          obtain rfl := Option.some.inj (hEvent.symm.trans hOther)
          have hNotPress : iCadeKey aDown aCode ≠ some startPress := fun hKey =>
            hStart ⟨startPress, hKey, rfl⟩
          exact ⟨notices, hNotices, by rw [hSilent, if_neg hNotPress]⟩

/-! ## Runs -/

/-- Whatever has been called before, and whatever is called from then on: every key event
calls the pause handler as it should if and only if START never comes up while there is
a handler. -/
theorem pauses_as_pressed_iff (before calls : List ICadeCall) :
    ∃ iCade, run ICade.step ICade.initial before = some iCade ∧
      (Along ICade.step OnePause iCade calls ↔ Along ICade.step NotReleased iCade calls) := by
  obtain ⟨iCade, hRun, hLocal⟩ :=
    run_invariant (fun _ call hLocal => hLocal.step call) ICade.local_initial before
  have hIff (iCade : ICade) (call : ICadeCall) (hLocal : iCade.Local) :
      OnePause iCade call ↔ NotReleased iCade call := onePause_iff hLocal call
  have hKept (iCade : ICade) (call : ICadeCall) (after : ICade) (hLocal : iCade.Local)
      (_ : NotReleased iCade call) (hStep : iCade.step call = some after) : after.Local := by
    obtain ⟨other, hOther, hLocal'⟩ := hLocal.step call
    obtain rfl := Option.some.inj (hStep.symm.trans hOther)
    exact hLocal'
  exact ⟨iCade, hRun, along_iff_along hIff hKept hLocal calls⟩

/-- START goes down, the application sets a handler, and START comes up: the handler is
called. -/
theorem release_pauses :
    ∃ iCade, run ICade.step ICade.initial
        [.startup, .event true 0x18, .setPausedHandler 0 true] = some iCade ∧
      iCade.PauseHandler 0 ∧ ¬ OnePause iCade (.event true 0x09) := by
  obtain ⟨iCade, hRun, hLocal⟩ := run_invariant (fun _ call hLocal => hLocal.step call)
    ICade.local_initial [.startup, .event true 0x18, .setPausedHandler 0 true]
  have hHandler : iCade.PauseHandler 0 := by
    obtain rfl := Option.some.inj hRun
    exact ⟨by decide, _, rfl, rfl, rfl⟩
  refine ⟨iCade, hRun, hHandler, fun hOne => ?_⟩
  exact (onePause_iff hLocal _).mp hOne ⟨0, hHandler⟩ (by decide)

end Frontend
end MFiWrapper
