import MFiWrapper.Backend.DeviceRequests
import MFiWrapper.Backend.PadsAlone
import MFiWrapper.Session.Refinement

/-!
# Whole runs of the program

What an application can rely on in every run: the controllers show what the pads have
sent as far as it has been read, their values stay in range, and once the frontend has
read what waits in its socket it has exactly the controllers of the attached pads, each
with the last state of its pad.
-/

namespace MFiWrapper

open Library Frontend

/-! ## Controllers without their handlers -/

namespace Frontend

theorem GCController.shows_of_quiet {tweak : GCController} {state : MFiWInputStatePacket ℚ}
    (hShows : tweak.quiet.Shows state) : tweak.Shows state := by
  intro control ref hMem
  obtain ⟨quiet, hQuiet, hShown⟩ := hShows control ref hMem
  have hElement : tweak.quiet.tweakElements[ref]? =
      tweak.tweakElements[ref]?.map GCControllerElement.quiet := List.getElem?_map ..
  rw [hElement] at hQuiet
  obtain ⟨element, hElement, rfl⟩ := Option.map_eq_some_iff.mp hQuiet
  exact ⟨element, hElement, (element.quiet_shows _).mp hShown⟩

end Frontend

/-! ## States and their rounding -/

namespace System

variable (format : FloatFormat)

theorem stateFor_convert (f : UInt32 → MFiWInputStatePacket (ℚ → ℚ)) (handle : UInt32)
    (packet : MFiWPacket ℚ) :
    stateFor handle (packet.convert f) = (stateFor handle packet).map (f handle).convert := by
  cases packet with
  | inputState other state =>
      simp only [MFiWPacket.convert, stateFor]
      split_ifs with hSame
      · rw [hSame]
        rfl
      · rfl
  | connect _ _ | disconnect _ | setPlayerIndex _ _ | pausePressed _ => rfl

/-- Zeros arrive as zeros. -/
theorem zero_round (handle : UInt32) : (format.round handle).convert .zero = .zero := by
  have hZero : ∀ field ∈ (format.round handle).fields, field 0 = 0 := by
    intro field hMem
    obtain ⟨toBits, hConversion, rfl⟩ := format.round_fields handle field hMem
    exact hConversion.zero
  simp only [MFiWInputStatePacket.fields, List.forall_mem_cons, List.not_mem_nil, false_imp_iff,
    implies_true, and_true] at hZero
  simp only [MFiWInputStatePacket.convert, MFiWInputStatePacket.zero, hZero]

/-- The last of the states as they arrive is the last of the states that were sent. -/
theorem lastState_round (handle : UInt32) (packets : List (MFiWPacket ℚ)) :
    lastState handle (packets.map (MFiWPacket.convert format.round)) =
      (format.round handle).convert (lastState handle packets) := by
  have hStates : (packets.map (MFiWPacket.convert format.round)).filterMap (stateFor handle) =
      (packets.filterMap (stateFor handle)).map (format.round handle).convert := by
    rw [List.filterMap_map, List.map_filterMap]
    exact List.filterMap_congr fun packet _ => stateFor_convert format.round handle packet
  rw [lastState, hStates, List.getLast?_map, lastState]
  cases (packets.filterMap (stateFor handle)).getLast? with
  | none => exact (zero_round format handle).symm
  | some state => rfl

theorem inRange_zero : (MFiWInputStatePacket.zero : MFiWInputStatePacket ℚ).InRange := by
  constructor <;>
    simp [MFiWInputStatePacket.zero, MFiWInputStatePacket.axes, MFiWInputStatePacket.buttons]

theorem lastState_inRange {packets : List (MFiWPacket ℚ)}
    (hPackets : ∀ packet ∈ packets, packet.InRange) (handle : UInt32) :
    (lastState handle packets).InRange := by
  rw [lastState]
  cases hLast : (packets.filterMap (stateFor handle)).getLast? with
  | none => exact inRange_zero
  | some state =>
      obtain ⟨packet, hMem, hState⟩ := List.mem_filterMap.mp (List.mem_of_getLast? hLast)
      have hRange := hPackets packet hMem
      cases packet with
      | inputState other sent =>
          simp only [stateFor] at hState
          split_ifs at hState
          obtain rfl := Option.some.inj hState
          exact hRange
      | connect _ _ | disconnect _ | setPlayerIndex _ _ | pausePressed _ => cases hState

/-- States in range arrive as floats. -/
theorem isFloat_round {state : MFiWInputStatePacket ℚ} (hRange : state.InRange)
    (handle : UInt32) :
    ∀ value ∈ ((format.round handle).convert state).fields, IsFloat value := by
  rw [MFiWInputStatePacket.fields_convert]
  refine MFiWInputStatePacket.forall_mem_converted fun field hField value hValue => ?_
  obtain ⟨toBits, hConversion, rfl⟩ := format.round_fields handle field hField
  exact hConversion.isFloat value (hRange.abs_le_one value hValue)

end System

/-! ## What holds at any time -/

namespace Process

open HIDPad

variable {format : FloatFormat} {process : Process} {system : System}

/-- A pad is attached and sends a report, the frontend reads what it was sent piece by
piece, and the application chooses a player index, which the backend reads. -/
def firstRun : List Event :=
  [.deviceAttached ⟨false, fun _ => ⟨0, 0, 0, 0⟩⟩
      ⟨"PLAYSTATION(R)3 Controller", 0x54C, 0x268⟩,
    .appSetsHandler 0 0 .self true, .frontendReads 9, .frontendReads 1000,
    .deviceReport 0 [1, 0, 0, 0x40, 0, 0, 0xFF, 0x80, 0x80, 0x80], .frontendReads 4,
    .appSetsPlayerIndex 0 2, .backendReads 16]

/-- The roundings of the code in this run, whose one pad inverts its Y axes. -/
def firstFormat : FloatFormat := .perOperation fun _ => true

/-- The packets that the frontend has processed. -/
theorem Refines.processed (hRefines : Refines format process system) :
    system.processed = (process.manager.backend.sent.take system.frontendProcessed).map
      (MFiWPacket.convert format.round) := by
  rw [System.processed, hRefines.backend.sent, List.map_take]
  rfl

theorem Refines.lastState_inRange (hRefines : Refines format process system) (handle : UInt32) :
    (System.lastState handle
      (process.manager.backend.sent.take system.frontendProcessed)).InRange :=
  System.lastState_inRange
    (fun packet hMem => hRefines.serves.states packet (List.mem_of_mem_take hMem)) handle

/-- A controller shows the last state that was processed under its handle. -/
theorem Refines.shows (hRefines : Refines format process system) {tweak : GCController}
    (hTweak : tweak ∈ process.frontend.created) :
    tweak.Shows ((format.round tweak.tweakHandle).convert (System.lastState tweak.tweakHandle
      (process.manager.backend.sent.take system.frontendProcessed))) := by
  have hQuiet : tweak.quiet ∈ system.frontend.created := by
    rw [hRefines.frontend]
    exact List.mem_map_of_mem hTweak
  have hReads := hRefines.current.values tweak.quiet hQuiet
  rw [hRefines.processed, System.lastState_round] at hReads
  let state : FloatState :=
    ⟨_, System.isFloat_round format (hRefines.lastState_inRange tweak.tweakHandle)
      tweak.tweakHandle⟩
  have hShows : tweak.quiet.Shows state.val :=
    (hRefines.inv.frontend.wellFormed tweak.quiet hQuiet).shows hReads
  exact GCController.shows_of_quiet hShows

/-- The values of an element are in range, those of the buttons of a direction pad too. -/
def InRange : GCControllerElement → Prop
  | .button input => 0 ≤ input.value ∧ input.value ≤ 1
  | .directionPad pad => (|pad.xAxis.value| ≤ 1 ∧ |pad.yAxis.value| ≤ 1) ∧
      ∀ input ∈ [pad.up, pad.down, pad.left, pad.right], 0 ≤ input.value ∧ input.value ≤ 1

/-- In every run every attached pad has the driver, the packets and the requests of a pad of
its class that is connected alone and given only the calls on this one, but for the colour
in what a DualShock 4 is asked while its player index is outside of 0 to 3. -/
theorem pads_served_alone (format : FloatFormat) (events : List Event)
    (hFew : (events.map Event.attaches).sum < 2 ^ 32 - 2) :
    ∃ process, run (Process.step format) initial events = some process ∧
      ∀ interface ∈ process.manager.backend.interfaces, interface.attached = true →
        ∃ platform kind pad, process.manager.Alone interface platform kind pad := by
  obtain ⟨process, system, hRun, -, hRefines⟩ := refines_run format events hFew
  refine ⟨process, hRun, fun interface hMem hAttached => ?_⟩
  obtain ⟨platform, kind, pad, hServed⟩ := hRefines.serves.served interface hMem hAttached
  exact ⟨platform, kind, hRefines.serves.alone hServed⟩

theorem pads_served_alone_firstRun :
    ∃ process, run (Process.step .binary32) initial firstRun = some process ∧
      ∀ interface ∈ process.manager.backend.interfaces, interface.attached = true →
        ∃ platform kind pad, process.manager.Alone interface platform kind pad :=
  pads_served_alone .binary32 firstRun (by decide)

/-- In every run nothing is ever asked of the device of an attached pad that is not in the
vocabulary of its class, whatever the devices report and the application chooses. -/
theorem pads_asked_within_vocabulary (format : FloatFormat) (events : List Event)
    (hFew : (events.map Event.attaches).sum < 2 ^ 32 - 2) :
    ∃ process, run (Process.step format) initial events = some process ∧
      ∀ interface ∈ process.manager.backend.interfaces, interface.attached = true →
        ∃ platform kind pad, process.manager.Served interface platform kind pad ∧
          ∀ request ∈ own interface.address process.manager.requests,
            kind.Vocabulary request := by
  obtain ⟨process, system, hRun, -, hRefines⟩ := refines_run format events hFew
  refine ⟨process, hRun, fun interface hMem hAttached => ?_⟩
  obtain ⟨platform, kind, pad, hServed⟩ := hRefines.serves.served interface hMem hAttached
  refine ⟨platform, kind, pad, hServed, ?_⟩
  rw [hServed.requests]
  exact (hRefines.serves.speaks hServed).allows.requests

theorem pads_asked_within_vocabulary_firstRun :
    ∃ process, run (Process.step .binary32) initial firstRun = some process ∧
      ∀ interface ∈ process.manager.backend.interfaces, interface.attached = true →
        ∃ platform kind pad, process.manager.Served interface platform kind pad ∧
          ∀ request ∈ own interface.address process.manager.requests,
            kind.Vocabulary request :=
  pads_asked_within_vocabulary .binary32 firstRun (by decide)

/-! ## Catching up -/

/-- When nothing waits in the socket everything has been processed. -/
theorem Refines.all_processed (hRefines : Refines format process system)
    (hRead : process.toFrontend = []) :
    process.manager.backend.sent.take system.frontendProcessed =
      process.manager.backend.sent := by
  have hExpects := hRefines.toFrontend
  rw [hRead] at hExpects
  have hDrop : process.manager.backend.sent.drop system.frontendProcessed = [] :=
    List.map_eq_nil_iff.mp hExpects.caught_up.2
  rw [← List.take_append_drop system.frontendProcessed process.manager.backend.sent, hDrop,
    List.append_nil, List.take_take, Nat.min_self]

/-- When nothing waits in the socket the controllers are those of the attached pads. -/
theorem Refines.handles_read (hRefines : Refines format process system)
    (hRead : process.toFrontend = []) :
    process.frontend.handles = process.manager.backend.handles := by
  have hExpects := hRefines.toFrontend
  rw [hRead] at hExpects
  obtain ⟨-, hNone⟩ := hExpects.caught_up
  obtain ⟨frontend, hReplay, hSame⟩ := hRefines.inv.agrees.replay
  have hEmpty : system.toFrontend = [] := by
    rw [System.toFrontend, hRefines.backend.sent]
    show (process.manager.backend.sent.map _).drop _ = []
    rw [← List.map_drop, List.map_eq_nil_iff.mp hNone, List.map_nil]
  rw [hEmpty, run_nil] at hReplay
  rw [hRefines.handles.1, hRefines.handles.2, ← hSame, Option.some.inj hReplay]

/-- Then every attached pad has a controller. -/
theorem Refines.controller (hRefines : Refines format process system)
    (hRead : process.toFrontend = []) {interface : Interface}
    (hMem : interface ∈ process.manager.backend.interfaces)
    (hAttached : interface.attached = true) :
    ∃ ref tweak, ref ∈ process.frontend.elements ∧ process.frontend.created[ref]? = some tweak ∧
      tweak.tweakHandle = interface.handle := by
  have hHandle : interface.handle ∈ process.frontend.handles := by
    rw [hRefines.handles_read hRead]
    exact Backend.mem_handles.mpr
      ⟨_, Backend.mem_entries.mpr ⟨interface, hMem, hAttached, rfl, rfl⟩⟩
  obtain ⟨ref, hRef, hHandleOf⟩ := List.mem_map.mp hHandle
  obtain ⟨tweak, hTweak⟩ : ∃ tweak, process.frontend.created[ref]? = some tweak := by
    have hQuiet : ref ∈ system.frontend.elements := by
      rw [hRefines.frontend]
      exact hRef
    have hLt := hRefines.inv.frontend.alive ref hQuiet
    rw [hRefines.frontend] at hLt
    exact ⟨_, List.getElem?_eq_getElem (hLt.trans_eq (List.length_map _))⟩
  refine ⟨ref, tweak, hRef, hTweak, ?_⟩
  rw [← hHandleOf, State.handleOf, hTweak]
  rfl

/-- Every read that could return something makes less of what waits. -/
theorem Refines.reads (hRefines : Refines format process system) {counts : List Nat}
    (hCounts : ∀ count ∈ counts, 0 < count) :
    ∃ process' system', run (Process.step format) process (counts.map .frontendReads) =
        some process' ∧
      Refines format process' system' ∧ process'.manager = process.manager ∧
      process'.toFrontend.length ≤ process.toFrontend.length - counts.length := by
  induction counts generalizing process system with
  | nil => exact ⟨process, system, rfl, hRefines, rfl, le_rfl⟩
  | cons count counts ih =>
      obtain ⟨hCount, hCounts⟩ := List.forall_mem_cons.mp hCounts
      obtain ⟨first, system₁, hStep, -, hRefines₁, -⟩ := hRefines.frontendReads count
      obtain ⟨hManager, hShorter⟩ : first.manager = process.manager ∧
          first.toFrontend.length ≤ process.toFrontend.length - 1 := by
        obtain ⟨handed, connection, result, hReceive, -⟩ := hRefines.toFrontend.receive count
        have hProgress := hRefines.toFrontend.receive_progress hCount hReceive
        simp only [Process.step, hReceive] at hStep
        cases handed with
        | none =>
            obtain rfl := Option.some.inj hStep
            exact ⟨rfl, hProgress⟩
        | some aPacket =>
            obtain ⟨frontend, -, hReturn⟩ := Option.bind_eq_some_iff.mp hStep
            obtain rfl := Option.some.inj hReturn
            exact ⟨rfl, hProgress⟩
      obtain ⟨last, system₂, hRun, hRefines₂, hManager', hShorter'⟩ := ih hRefines₁ hCounts
      refine ⟨last, system₂, ?_, hRefines₂, hManager'.trans hManager, ?_⟩
      · rw [List.map_cons, run_cons, hStep]
        exact hRun
      · rw [List.length_cons]
        omega

/-- The program without handlers. -/
def quiet (process : Process) : Process := { process with frontend := process.frontend.quiet }

/-- The event does more than to set or clear a handler. -/
def Event.acts : Event → Bool
  | .appSetsHandler _ _ _ _ | .appSetsPausedHandler _ _ => false
  | _ => true

theorem step_quiet (format : FloatFormat) (process : Process) (event : Event)
    (hActs : event.acts = true) :
    process.quiet.step format event = (process.step format event).map quiet := by
  cases event with
  | deviceAttached platform device =>
      simp only [step, quiet]
      cases process.manager.deviceAttached platform device <;> rfl
  | deviceRemoved address => rfl
  | deviceReport address report =>
      simp only [step, quiet]
      cases process.manager.deviceReport address report <;> rfl
  | backendReads count =>
      simp only [step, quiet]
      rcases process.backendConnection.receive process.toBackend count with
        _ | ⟨_ | aPacket, connection, result⟩
      · rfl
      · rfl
      · dsimp only
        cases process.manager.handleDataPacket aPacket <;> rfl
  | frontendReads count =>
      simp only [step, quiet]
      rcases process.frontendConnection.receive process.toFrontend count with
        _ | ⟨_ | aPacket, connection, result⟩
      · rfl
      · rfl
      · dsimp only
        rw [State.handleDataPacket_quiet]
        cases process.frontend.handleDataPacket format.ofBits aPacket <;> rfl
  | appSetsPlayerIndex tweak index =>
      simp only [step, quiet, withFrontend, State.setPlayerIndex_quiet]
      rfl
  | appSetsHandler _ _ _ _ | appSetsPausedHandler _ _ => cases hActs

/-- Handlers only listen: whatever handlers the application sets and clears in the course
of a run, whether it completes, what is asked of the devices, what is written to the
sockets and every value of every controller are as if it had set none. -/
theorem handlers_only_listen (format : FloatFormat) (events : List Event) :
    (run (Process.step format) initial events).map quiet =
      run (Process.step format) initial (events.filter Event.acts) := by
  refine run_erase quiet Event.acts (fun process event => step_quiet format process event) ?_
    initial events
  intro process event hActs
  cases event with
  | appSetsHandler tweak element part isSet =>
      simp only [step, quiet, Option.map_some, State.setHandler_quiet]
  | appSetsPausedHandler tweak isSet =>
      simp only [step, quiet, Option.map_some, State.setPausedHandler_quiet]
  | _ => cases hActs

end Process
end MFiWrapper
