import MFiWrapper.Frontend.ReceivedPackets

/-!
# `keyboard.mm`: the iCade keyboard

A controller that is a keyboard: each control has one key for going down and
another for coming up again.  There is no backend in this build; the keyboard hands
its packets to the frontend itself.
-/

namespace MFiWrapper
namespace Frontend

open Library

inductive ICade8BittySym
  | up | down | left | right | upLf | upRt | lwLf | lwRt | l1 | r1 | select | start
  deriving DecidableEq

/-- An entry of `iCadeMap` whose button is not -1. -/
structure ICadeKey where
  up : Bool
  button : ICade8BittySym
  deriving DecidableEq

/-- The table, indexed by keyboard usage codes; `none` for a button of -1. -/
def iCadeMap : List (Option ICadeKey) :=
  [none, none, none, none,
    some ⟨false, .left⟩, none, some ⟨true, .right⟩, some ⟨false, .right⟩,
    some ⟨true, .up⟩, some ⟨true, .start⟩, some ⟨true, .upRt⟩, some ⟨false, .l1⟩,
    some ⟨false, .upLf⟩, some ⟨false, .r1⟩, some ⟨false, .lwLf⟩, some ⟨false, .lwRt⟩,
    some ⟨true, .upLf⟩, some ⟨true, .r1⟩, some ⟨false, .upRt⟩, some ⟨true, .lwLf⟩,
    some ⟨true, .left⟩, some ⟨true, .l1⟩, none, some ⟨true, .select⟩,
    some ⟨false, .start⟩, some ⟨true, .lwRt⟩, some ⟨false, .up⟩, some ⟨false, .down⟩,
    some ⟨false, .select⟩, some ⟨true, .down⟩, none, none]

/-- The key that an event is about, if `Event` reacts to it. -/
def iCadeKey (aDown : Bool) (aCode : UInt32) : Option ICadeKey :=
  if aDown ∧ aCode < 0x20 then (iCadeMap[aCode.toNat]?).join else none

/-- `CHECK(X)`. -/
def ICadeKey.check (key : ICadeKey) (x : ℚ) : ℚ := if key.up then 0 else x

/-- The assignments of the `switch`; SELECT has no case. -/
def ICadeKey.assign (key : ICadeKey) (state : MFiWInputStatePacket ℚ) : MFiWInputStatePacket ℚ :=
  match key.button with
  | .lwLf => { state with a := key.check 1 }
  | .lwRt => { state with b := key.check 1 }
  | .upLf => { state with x := key.check 1 }
  | .upRt => { state with y := key.check 1 }
  | .l1 => { state with leftShoulder := key.check 1 }
  | .r1 => { state with rightShoulder := key.check 1 }
  | .up => { state with dPadY := key.check (-1) }
  | .down => { state with dPadY := key.check 1 }
  | .left => { state with dPadX := key.check (-1) }
  | .right => { state with dPadX := key.check 1 }
  | .select | .start => state

/-- "iCade Device". -/
def iCadeDevice : List UInt8 :=
  [0x69, 0x43, 0x61, 0x64, 0x65, 0x20, 0x44, 0x65, 0x76, 0x69, 0x63, 0x65]

def iCadeConnect : MFiWConnectPacket where
  vendorName := ⟨(iCadeDevice ++ List.replicate 244 0).toArray, by
    rw [List.size_toArray, List.length_append, List.length_replicate]
    rfl⟩
  presentControls := mfiNormalElements
  analogControls := 0

/-- The frontend, and the static variables of `keyboard.mm`: `initialized`, and of
`dataPacket` the members that are used. -/
structure ICade where
  frontend : State
  initialized : Bool
  handle : UInt32
  state : MFiWInputStatePacket ℚ

/-- `Startup` without a backend. -/
def State.startupICade (frontend : State) : State :=
  { frontend with controllers := some frontend.elements }

namespace ICade

def initial : ICade := ⟨.initial, false, 0, .zero⟩

/-- The first part of `Event`. -/
def register (iCade : ICade) : ICade :=
  if iCade.initialized then iCade
  else
    { iCade with
      frontend := iCade.frontend.handlePacketConnect MFiWLocalHandle iCadeConnect
      initialized := true
      handle := MFiWLocalHandle }

/-- The second part, for a key. -/
def press (key : ICadeKey) (iCade : ICade) : Option ICade :=
  if key.button = .start then
    some { iCade with frontend := iCade.frontend.handlePacketPausePressed MFiWLocalHandle }
  else do
    let state := key.assign iCade.state
    let frontend ← iCade.frontend.handlePacketInputState iCade.handle state
    return { iCade with frontend := frontend, state := state }

/-- `Event`. -/
def event (aDown : Bool) (aCode : UInt32) (iCade : ICade) : Option ICade :=
  match iCadeKey aDown aCode with
  | none => some iCade.register
  | some key => iCade.register.press key

end ICade

/-- What happens to the iCade build. -/
inductive ICadeCall
  | event (aDown : Bool) (aCode : UInt32)
  /-- `GetControllers`, `StartWirelessControllerDiscovery` or
  `StopWirelessControllerDiscovery`. -/
  | startup
  /-- The application sets or clears a `controllerPausedHandler`. -/
  | setPausedHandler (tweak : ControllerRef) (isSet : Bool)
  /-- The application assigns a `playerIndex`. -/
  | setPlayerIndex (tweak : ControllerRef) (index : Int64)

def State.setPausedHandler (ref : ControllerRef) (isSet : Bool) (frontend : State) : State :=
  match frontend.created[ref]? with
  | none => frontend
  | some tweak =>
      { frontend with
        created := frontend.created.set ref { tweak with controllerPausedHandler := isSet } }

def ICade.step (iCade : ICade) : ICadeCall → Option ICade
  | .event aDown aCode => iCade.event aDown aCode
  | .startup => some { iCade with frontend := iCade.frontend.startupICade }
  | .setPausedHandler tweak isSet =>
      some { iCade with frontend := iCade.frontend.setPausedHandler tweak isSet }
  | .setPlayerIndex tweak index =>
      some { iCade with frontend := iCade.frontend.setPlayerIndex tweak index }

/-- The key that a call is about. -/
def ICadeCall.key : ICadeCall → Option ICadeKey
  | .event aDown aCode => iCadeKey aDown aCode
  | _ => none

/-! ## What the calls leave alone -/

namespace State

variable {frontend frontend' : State}

/-- The controllers of the array exist, and those that exist can be updated. -/
structure Sound (frontend : State) : Prop where
  alive : ∀ ref ∈ frontend.elements, ref < frontend.created.length
  built : ∀ tweak ∈ frontend.created, tweak.Built

/-- The array is the same, and so are the controllers but for their values, handlers
and player indexes. -/
structure Keeps (frontend frontend' : State) : Prop where
  controllers : frontend'.controllers = frontend.controllers
  created : frontend'.created.map GCController.tweakHandle =
    frontend.created.map GCController.tweakHandle
  built : (∀ tweak ∈ frontend.created, tweak.Built) → ∀ tweak ∈ frontend'.created, tweak.Built

theorem Keeps.refl (frontend : State) : Keeps frontend frontend := ⟨rfl, rfl, id⟩

theorem Keeps.elements (hKeeps : Keeps frontend frontend') :
    frontend'.elements = frontend.elements := congrArg (·.getD []) hKeeps.controllers

theorem Keeps.length (hKeeps : Keeps frontend frontend') :
    frontend'.created.length = frontend.created.length := by
  have hLength := congrArg List.length hKeeps.created
  rwa [List.length_map, List.length_map] at hLength

theorem Keeps.sound (hKeeps : Keeps frontend frontend') (hSound : frontend.Sound) :
    frontend'.Sound := by
  refine ⟨fun ref hRef => ?_, hKeeps.built hSound.built⟩
  rw [hKeeps.length]
  exact hSound.alive ref (hKeeps.elements ▸ hRef)

/-- One controller is replaced by another with its handle. -/
theorem keeps_of_set {ref : ControllerRef} {tweak : GCController} (tweak' : GCController)
    (hTweak : frontend.created[ref]? = some tweak)
    (hHandle : tweak'.tweakHandle = tweak.tweakHandle) (hBuilt : tweak.Built → tweak'.Built)
    (hControllers : frontend'.controllers = frontend.controllers)
    (hCreated : frontend'.created = frontend.created.set ref tweak') :
    Keeps frontend frontend' := by
  refine ⟨hControllers, ?_, fun hAll other hMem => ?_⟩
  · rw [hCreated, List.map_set, hHandle]
    apply List.ext_getElem?
    intro i
    rw [List.getElem?_set]
    split_ifs with hSame hLt
    · rw [← hSame, List.getElem?_map, hTweak]
      rfl
    · rw [← hSame, List.getElem?_eq_none (not_lt.mp hLt)]
    · rfl
  · rw [hCreated] at hMem
    rcases List.mem_or_eq_of_mem_set hMem with hOld | rfl
    · exact hAll other hOld
    · exact hBuilt (hAll tweak (List.mem_of_getElem? hTweak))

theorem keeps_setPausedHandler (ref : ControllerRef) (isSet : Bool) (frontend : State) :
    Keeps frontend (frontend.setPausedHandler ref isSet) := by
  cases hTweak : frontend.created[ref]? with
  | none =>
      rw [setPausedHandler, hTweak]
      exact .refl frontend
  | some tweak =>
      rw [setPausedHandler, hTweak]
      exact keeps_of_set { tweak with controllerPausedHandler := isSet } hTweak rfl id rfl rfl

theorem keeps_setPlayerIndex (ref : ControllerRef) (index : Int64) (frontend : State) :
    Keeps frontend (frontend.setPlayerIndex ref index) := by
  cases hTweak : frontend.created[ref]? with
  | none =>
      rw [setPlayerIndex, hTweak]
      exact .refl frontend
  | some tweak =>
      refine keeps_of_set { tweak with playerIndex := index } hTweak rfl id ?_ ?_
      · simp only [setPlayerIndex, hTweak, setControllerIndex_controllers]
      · simp only [setPlayerIndex, hTweak, setControllerIndex_created]

theorem keeps_pausePressed (handle : UInt32) (frontend : State) :
    Keeps frontend (frontend.handlePacketPausePressed handle) := by
  unfold handlePacketPausePressed
  split
  · exact .refl frontend
  · split_ifs
    · exact ⟨rfl, rfl, id⟩
    · exact .refl frontend

/-- What `HandlePacketInputState` makes of the controller it finds. -/
theorem handlePacketInputState_found {handle : UInt32} {ref : ControllerRef}
    {tweak : GCController} (hRef : frontend.tweak handle = some ref)
    (hTweak : frontend.created[ref]? = some tweak) (hBuilt : tweak.Built)
    (data : MFiWInputStatePacket ℚ) :
    ∃ tweakElements left calls,
      tweak.tweakUpdateButtons data =
        some ({ tweak with tweakElements := tweakElements }, left, calls) ∧
      ({ tweak with tweakElements := tweakElements } : GCController).Built ∧
      frontend.handlePacketInputState handle data = some { frontend with
        created := frontend.created.set ref { tweak with tweakElements := tweakElements }
        notices := frontend.notices ++ [.valuesChanged ref calls] } := by
  obtain ⟨tweakElements, left, calls, hUpdate, hBuilt'⟩ := hBuilt.tweakUpdateButtons data
  refine ⟨tweakElements, left, calls, hUpdate, hBuilt', ?_⟩
  simp only [handlePacketInputState, hRef, hTweak, Option.bind_eq_bind, Option.bind_some, hUpdate]
  rfl

theorem Sound.inputState (hSound : frontend.Sound) (handle : UInt32)
    (data : MFiWInputStatePacket ℚ) :
    ∃ frontend', frontend.handlePacketInputState handle data = some frontend' ∧
      Keeps frontend frontend' := by
  cases hRef : frontend.tweak handle with
  | none => exact ⟨frontend, by rw [handlePacketInputState, hRef], .refl frontend⟩
  | some ref =>
      have hLt := hSound.alive ref (tweak_eq_some hRef).1
      have hTweak := List.getElem?_eq_getElem hLt
      obtain ⟨tweakElements, left, calls, -, hBuilt, hStep⟩ := handlePacketInputState_found hRef
        hTweak (hSound.built _ (List.getElem_mem hLt)) data
      exact ⟨_, hStep, keeps_of_set { frontend.created[ref] with tweakElements := tweakElements }
        hTweak rfl (fun _ => hBuilt) rfl rfl⟩

/-- The first controller of the array, if it is the local one, is found under its handle. -/
theorem tweak_first {ref : ControllerRef} {rest : List ControllerRef} {tweak : GCController}
    (hElements : frontend.elements = ref :: rest) (hTweak : frontend.created[ref]? = some tweak)
    (hHandle : tweak.tweakHandle = MFiWLocalHandle) :
    frontend.handleOf ref = MFiWLocalHandle ∧ frontend.tweak MFiWLocalHandle = some ref := by
  have hHandleOf : frontend.handleOf ref = MFiWLocalHandle := by
    rw [handleOf, hTweak]
    exact hHandle
  have hIdx : frontend.idx MFiWLocalHandle = some 0 := by
    rw [idx, if_pos (by decide), findControllerByHandle, hElements, List.findIdx?_cons, hHandleOf]
    rfl
  refine ⟨hHandleOf, ?_⟩
  rw [State.tweak, hIdx, hElements]
  rfl

theorem Sound.startupICade (hSound : frontend.Sound) : frontend.startupICade.Sound :=
  ⟨hSound.alive, hSound.built⟩

/-- Without an array a new controller is in no array. -/
theorem Sound.connect (hSound : frontend.Sound) (handle : UInt32) (data : MFiWConnectPacket) :
    (frontend.handlePacketConnect handle data).Sound := by
  cases hControllers : frontend.controllers with
  | none =>
      have hNone : (frontend.handlePacketConnect handle data).controllers = none := by
        simp [handlePacketConnect, hControllers]
      refine ⟨fun ref hRef => ?_, fun tweak hMem => ?_⟩
      · rw [elements, hNone] at hRef
        cases hRef
      · rcases mem_handlePacketConnect_created handle data hMem with hOld | rfl
        · exact hSound.built tweak hOld
        · exact GCController.controllerForHandle_built handle data
  | some controllers =>
      have hStarted : frontend.Started :=
        ⟨by rw [hControllers]; rfl, hSound.alive, hSound.built⟩
      obtain ⟨hStarted', -, -⟩ := hStarted.connect handle data
      exact ⟨hStarted'.alive, hStarted'.built⟩

end State

/-! ## Every call completes -/

namespace ICade

variable {iCade : ICade}

theorem register_sound (hSound : iCade.frontend.Sound) : iCade.register.frontend.Sound := by
  unfold register
  split_ifs
  · exact hSound
  · exact hSound.connect MFiWLocalHandle iCadeConnect

theorem register_state (iCade : ICade) : iCade.register.state = iCade.state := by
  unfold register
  split_ifs <;> rfl

theorem press_completes (hSound : iCade.frontend.Sound) (key : ICadeKey) :
    ∃ after, iCade.press key = some after ∧ State.Keeps iCade.frontend after.frontend ∧
      after.initialized = iCade.initialized ∧ after.handle = iCade.handle ∧
      after.state = key.assign iCade.state := by
  unfold press
  split_ifs with hStart
  · refine ⟨_, rfl, State.keeps_pausePressed _ _, rfl, rfl, ?_⟩
    rw [ICadeKey.assign, hStart]
  · obtain ⟨frontend, hStep, hKeeps⟩ :=
      hSound.inputState iCade.handle (key.assign iCade.state)
    exact ⟨{ iCade with frontend := frontend, state := key.assign iCade.state },
      by simp only [hStep, Option.bind_eq_bind, Option.bind_some]; rfl, hKeeps, rfl, rfl, rfl⟩

/-- Every call completes, and the state packet changes by the keys alone. -/
theorem step_completes (hSound : iCade.frontend.Sound) (call : ICadeCall) :
    ∃ after, iCade.step call = some after ∧ after.frontend.Sound ∧
      after.state = match call.key with
        | none => iCade.state
        | some key => key.assign iCade.state := by
  cases call with
  | event aDown aCode =>
      have hSound' := register_sound hSound
      simp only [step, event, ICadeCall.key]
      cases iCadeKey aDown aCode with
      | none => exact ⟨_, rfl, hSound', register_state iCade⟩
      | some key =>
          obtain ⟨after, hPress, hKeeps, -, -, hState⟩ := press_completes hSound' key
          exact ⟨after, hPress, hKeeps.sound hSound', by rw [hState, register_state]⟩
  | startup => exact ⟨_, rfl, hSound.startupICade, rfl⟩
  | setPausedHandler tweak isSet =>
      exact ⟨_, rfl, (State.keeps_setPausedHandler tweak isSet _).sound hSound, rfl⟩
  | setPlayerIndex tweak index =>
      exact ⟨_, rfl, (State.keeps_setPlayerIndex tweak index _).sound hSound, rfl⟩

end ICade

end Frontend
end MFiWrapper
