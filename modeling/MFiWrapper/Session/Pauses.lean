import MFiWrapper.Frontend.PausePresses
import MFiWrapper.Session.Lifecycles
import MFiWrapper.Session.ProcessedPackets

/-!
# Pause presses from end to end

A press of the pause button that a driver reports calls the `controllerPausedHandler` of
the controller once at most, and exactly once if a handler is set whenever the frontend
reads.
-/

namespace MFiWrapper

open Library HIDPad Frontend

/-! ## What a packet calls -/

namespace Frontend
namespace State

/-- The controller has a `controllerPausedHandler`. -/
def pausedHandlerSet (frontend : State) (ref : ControllerRef) : Bool :=
  (frontend.created[ref]?.map GCController.controllerPausedHandler).getD false

/-- The controllers whose `controllerPausedHandler` a packet calls. -/
def pausedBy (frontend : State) : MFiWPacket ℚ → List ControllerRef
  | .pausePressed handle => (frontend.tweak handle).toList.filter frontend.pausedHandlerSet
  | .connect _ _ | .disconnect _ | .inputState _ _ | .setPlayerIndex _ _ => []

variable {frontend frontend' : State} {packet : MFiWPacket ℚ}

theorem handlePacket_pauses (hStep : frontend.handlePacket packet = some frontend') :
    pausesOf frontend'.notices = pausesOf frontend.notices ++ frontend.pausedBy packet := by
  have hConcat (notice : Notice) : pausesOf (frontend.notices ++ [notice]) =
      pausesOf frontend.notices ++ pausesOf [notice] := List.filterMap_append
  cases packet with
  | connect handle data =>
      obtain rfl := Option.some.inj hStep
      rw [handlePacketConnect_notices, hConcat]
      rfl
  | disconnect handle =>
      simp only [handlePacket, handlePacketDisconnect] at hStep
      split at hStep
      · obtain rfl := Option.some.inj hStep
        exact (List.append_nil _).symm
      · obtain ⟨i, -, hRest⟩ := Option.bind_eq_some_iff.mp hStep
        obtain ⟨tweak, -, hReturn⟩ := Option.bind_eq_some_iff.mp hRest
        obtain rfl := Option.some.inj hReturn
        exact hConcat _
  | inputState handle data =>
      simp only [handlePacket, handlePacketInputState] at hStep
      split at hStep
      · obtain rfl := Option.some.inj hStep
        exact (List.append_nil _).symm
      · obtain ⟨tweak, -, hRest⟩ := Option.bind_eq_some_iff.mp hStep
        obtain ⟨updated, -, hReturn⟩ := Option.bind_eq_some_iff.mp hRest
        obtain rfl := Option.some.inj hReturn
        exact hConcat _
  | pausePressed handle =>
      obtain rfl := Option.some.inj hStep
      rw [pausedBy]
      unfold handlePacketPausePressed
      cases hTweak : frontend.tweak handle with
      | none => exact (List.append_nil _).symm
      | some ref =>
          dsimp only
          rw [Option.toList_some, ← pausedHandlerSet]
          split_ifs with hSet
          · rw [List.filter_cons_of_pos hSet]
            exact hConcat _
          · rw [List.filter_cons_of_neg hSet]
            exact (List.append_nil _).symm
  | setPlayerIndex handle value =>
      obtain rfl := Option.some.inj hStep
      exact (List.append_nil _).symm

/-- Only controllers in the array are called. -/
theorem mem_pausedBy {ref : ControllerRef} (hMem : ref ∈ frontend.pausedBy packet) :
    ref ∈ frontend.elements := by
  cases packet with
  | pausePressed handle =>
      exact (tweak_eq_some (Option.mem_toList.mp (List.mem_of_mem_filter hMem))).1
  | connect _ _ | disconnect _ | inputState _ _ | setPlayerIndex _ _ =>
      exact absurd hMem List.not_mem_nil

/-- A packet changes no handle, and only `Connect` makes a controller. -/
theorem handlePacket_owners (hStep : frontend.handlePacket packet = some frontend') :
    frontend'.created.map GCController.tweakHandle =
      frontend.created.map GCController.tweakHandle ++
        (Backend.connectHandle packet).toList := by
  cases packet with
  | connect handle data =>
      obtain rfl := Option.some.inj hStep
      rw [handlePacketConnect_created, List.map_append]
      rfl
  | disconnect handle =>
      rw [System.disconnect_created hStep]
      exact (List.append_nil _).symm
  | inputState handle data =>
      simp only [handlePacket, handlePacketInputState] at hStep
      refine Eq.trans ?_ (List.append_nil _).symm
      split at hStep
      · obtain rfl := Option.some.inj hStep
        rfl
      · obtain ⟨tweak, hTweak, hRest⟩ := Option.bind_eq_some_iff.mp hStep
        obtain ⟨⟨updated, left, calls⟩, hUpdate, hReturn⟩ := Option.bind_eq_some_iff.mp hRest
        obtain rfl := Option.some.inj hReturn
        obtain ⟨elements, -, hSame⟩ := Option.bind_eq_some_iff.mp hUpdate
        refine map_set_of_same hTweak ?_
        rw [← congrArg Prod.fst (Option.some.inj hSame)]
  | pausePressed handle =>
      obtain rfl := Option.some.inj hStep
      refine Eq.trans ?_ (List.append_nil _).symm
      simp only [handlePacketPausePressed]
      split
      · rfl
      · split_ifs <;> rfl
  | setPlayerIndex handle value =>
      obtain rfl := Option.some.inj hStep
      exact (List.append_nil _).symm

end State
end Frontend

/-! ## Presses -/

namespace System

/-- The handle whose pause button a packet reports. -/
def pauseHandle : MFiWPacket ℚ → Option UInt32
  | .pausePressed handle => some handle
  | .connect _ _ | .disconnect _ | .inputState _ _ | .setPlayerIndex _ _ => none

/-- How often packets report the pause button of a handle. -/
def pausesFor (handle : UInt32) (packets : List (MFiWPacket ℚ)) : Nat :=
  (packets.filterMap pauseHandle).count handle

theorem pausesFor_append (handle : UInt32) (first second : List (MFiWPacket ℚ)) :
    pausesFor handle (first ++ second) = pausesFor handle first + pausesFor handle second := by
  rw [pausesFor, List.filterMap_append, List.count_append, pausesFor, pausesFor]

theorem pausesFor_convert (handle : UInt32) (f : UInt32 → MFiWInputStatePacket (ℚ → ℚ))
    (packets : List (MFiWPacket ℚ)) :
    pausesFor handle (packets.map (MFiWPacket.convert f)) = pausesFor handle packets := by
  have hSame (packet : MFiWPacket ℚ) : pauseHandle (packet.convert f) = pauseHandle packet := by
    cases packet <;> rfl
  rw [pausesFor, List.filterMap_map, pausesFor]
  exact congrArg _ (List.filterMap_congr fun packet _ => hSame packet)

theorem pausesFor_eq_zero {handle : UInt32} {packets : List (MFiWPacket ℚ)}
    (hUnseen : ∀ packet ∈ packets, packet.handle ≠ handle) : pausesFor handle packets = 0 := by
  rw [pausesFor, List.count_eq_zero, List.mem_filterMap]
  rintro ⟨packet, hMem, hPause⟩
  refine hUnseen packet hMem ?_
  cases packet <;> cases hPause
  rfl

end System

namespace Process

variable {format : FloatFormat} {process process' : Process} {system system' : System}

/-! ## What was heard -/

/-- The handles of the controllers, in the order in which they were made. -/
def owners (process : Process) : List UInt32 :=
  process.frontend.created.map GCController.tweakHandle

/-- How often the `controllerPausedHandler` of a controller was called. -/
def pausesHeard (process : Process) (ref : ControllerRef) : Nat :=
  (pausesOf process.frontend.notices).count ref

/-- When the frontend reads, the controller has a handler if it is in the array. -/
def Listens (ref : ControllerRef) (process : Process) : Event → Prop
  | .frontendReads _ =>
      ref ∈ process.frontend.elements → process.frontend.pausedHandlerSet ref = true
  | _ => True

/-- No press that was processed was heard twice, and none was missed if somebody listens. -/
structure Pauses (ref : ControllerRef) (listens : Prop) (process : Process) (system : System) :
    Prop where
  unheard : process.owners.length ≤ ref → process.pausesHeard ref = 0
  atMost : ∀ handle, process.owners[ref]? = some handle →
    process.pausesHeard ref ≤ System.pausesFor handle system.processed
  all : listens → ∀ handle, process.owners[ref]? = some handle →
    process.pausesHeard ref = System.pausesFor handle system.processed

variable {ref : ControllerRef} {listens : Prop}

theorem pauses_initial : Pauses ref listens initial System.initial :=
  ⟨fun _ => rfl, fun _ _ => Nat.zero_le _, fun _ _ hOwner => nomatch hOwner⟩

theorem Refines.owners (hRefines : Refines format process system) :
    system.frontend.created.map GCController.tweakHandle = process.owners := by
  rw [hRefines.frontend, Process.owners]
  show (process.frontend.created.map GCController.quiet).map GCController.tweakHandle = _
  rw [List.map_map]
  rfl

theorem Pauses.of_same (hPauses : Pauses ref listens process system)
    (hOwners : process'.owners = process.owners)
    (hNotices : process'.frontend.notices = process.frontend.notices)
    (hProcessed : system'.processed = system.processed) : Pauses ref listens process' system' := by
  have hHeard : process'.pausesHeard ref = process.pausesHeard ref := by
    rw [pausesHeard, hNotices, pausesHeard]
  constructor
  · rw [hOwners, hHeard]
    exact hPauses.unheard
  · rw [hOwners, hHeard, hProcessed]
    exact hPauses.atMost
  · rw [hOwners, hHeard, hProcessed]
    exact hPauses.all

/-- A packet about a controller finds the one that has its handle. -/
theorem Refines.found (hRefines : Refines format process system) {packet : MFiWPacket ℚ}
    {rest : List (MFiWPacket ℚ)} (hNext : system.toFrontend = packet :: rest)
    (hRefers : packet.refersToAttached = true) :
    process.frontend.tweak packet.handle = some ref ↔
      process.owners[ref]? = some packet.handle := by
  obtain ⟨handles, hAnnounces, -⟩ := (hNext ▸ hRefines.inv.inFlight).next
  obtain ⟨found, quiet, hFound, hQuiet, hHandle⟩ :=
    hRefines.inv.frontend.tweak_eq_some (hAnnounces.mem hRefers)
  rw [hRefines.frontend, State.tweak_quiet] at hFound
  have hOwner : process.owners[found]? = some packet.handle := by
    rw [← hRefines.owners, List.getElem?_map, hQuiet, Option.map_some, hHandle]
  rw [hFound]
  constructor
  · intro hRef
    exact Option.some.inj hRef ▸ hOwner
  · intro hRef
    obtain ⟨hLt, -⟩ := List.getElem?_eq_some_iff.mp hOwner
    have hNodup := hRefines.current.owners_nodup
    rw [hRefines.owners] at hNodup
    exact congrArg some ((List.getElem?_inj hLt hNodup).mp (hOwner.trans hRef.symm))

/-- A packet that is processed calls the handler of a controller as often as it reports
the pause button of the controller, unless there is no handler. -/
theorem Refines.paused_once (hRefines : Refines format process system) {packet : MFiWPacket ℚ}
    {rest : List (MFiWPacket ℚ)} (hNext : system.toFrontend = packet :: rest) {handle : UInt32}
    (hOwner : process.owners[ref]? = some handle) :
    (process.frontend.pausedBy packet).count ref ≤ System.pausesFor handle [packet] ∧
      ((ref ∈ process.frontend.elements → process.frontend.pausedHandlerSet ref = true) →
        (process.frontend.pausedBy packet).count ref = System.pausesFor handle [packet]) := by
  obtain ⟨handles, hAnnounces, -⟩ := (hNext ▸ hRefines.inv.inFlight).next
  cases hAnnounces with
  | connect _ _ _ | disconnect _ | inputState _ _ => exact ⟨le_rfl, fun _ => rfl⟩
  | @pausePressed pressed hMem =>
      have hFor : System.pausesFor handle [.pausePressed pressed] =
          if pressed = handle then 1 else 0 := by
        show [pressed].count handle = _
        rw [List.count_singleton]
        exact if_congr beq_iff_eq rfl rfl
      rw [hFor]
      by_cases hSame : pressed = handle
      · subst hSame
        -- the press is for a controller in the array
        have hFound := (hRefines.found hNext rfl).mpr hOwner
        replace hFound : process.frontend.tweak pressed = some ref := hFound
        rw [if_pos rfl, State.pausedBy, hFound, Option.toList_some]
        constructor
        · exact (List.count_le_length).trans (List.length_filter_le _ _)
        · intro hListens
          rw [List.filter_cons_of_pos (hListens (State.tweak_eq_some hFound).1)]
          exact List.count_singleton_self
      · have hNone : (process.frontend.pausedBy (.pausePressed pressed)).count ref = 0 := by
          refine List.count_eq_zero.mpr fun hPaused => hSame ?_
          have hFound := Option.mem_toList.mp (List.mem_of_mem_filter hPaused)
          exact Option.some.inj (((hRefines.found hNext rfl).mp hFound).symm.trans hOwner)
        rw [hNone, if_neg hSame]
        exact ⟨le_rfl, fun _ => rfl⟩

/-- Nobody has pressed the pause button of a controller that was just made. -/
theorem Refines.unpressed (hRefines : Refines format process system)
    (hRefines' : Refines format process' system') {packet : MFiWPacket ℚ}
    (hProcessed : system'.processed = system.processed ++ [packet]) {handle : UInt32}
    (hNew : Backend.connectHandle packet = some handle) :
    System.pausesFor handle system'.processed = 0 := by
  have hBefore : System.pausesFor handle system.processed = 0 := System.pausesFor_eq_zero
    (hRefines.current.unseen hRefines'.current hProcessed hNew)
  rw [hProcessed, System.pausesFor_append, hBefore]
  cases packet with
  | connect _ _ => rfl
  | disconnect _ | inputState _ _ | pausePressed _ | setPlayerIndex _ _ => cases hNew

/-- The frontend has processed a packet. -/
theorem Pauses.processes (hPauses : Pauses ref listens process system)
    (hRefines : Refines format process system) (hRefines' : Refines format process' system')
    {packet : MFiWPacket ℚ} {rest : List (MFiWPacket ℚ)}
    (hNext : system.toFrontend = packet :: rest)
    (hListens : listens → ref ∈ process.frontend.elements →
      process.frontend.pausedHandlerSet ref = true)
    (hOwners : process'.owners = process.owners ++ (Backend.connectHandle packet).toList)
    (hHeard : process'.pausesHeard ref =
      process.pausesHeard ref + (process.frontend.pausedBy packet).count ref)
    (hProcessed : system'.processed = system.processed ++ [packet]) :
    Pauses ref listens process' system' := by
  -- a controller that was there before
  have hOld {handle : UInt32} (hOwner : process.owners[ref]? = some handle) :
      process'.pausesHeard ref ≤ System.pausesFor handle system'.processed ∧
        (listens → process'.pausesHeard ref = System.pausesFor handle system'.processed) := by
    obtain ⟨hOnce, hExactly⟩ := hRefines.paused_once hNext hOwner
    rw [hHeard, hProcessed, System.pausesFor_append]
    exact ⟨Nat.add_le_add (hPauses.atMost handle hOwner) hOnce, fun hListening => by
      rw [hPauses.all hListening handle hOwner, hExactly (hListens hListening)]⟩
  -- one that was not
  have hUnheard (hLe : process.owners.length ≤ ref) : process'.pausesHeard ref = 0 := by
    rw [hHeard, hPauses.unheard hLe, Nat.zero_add, List.count_eq_zero]
    intro hMem
    have hElement : ref ∈ process.frontend.elements := State.mem_pausedBy hMem
    have hLt := hRefines.inv.frontend.alive ref (by
      rw [hRefines.frontend]
      exact hElement)
    rw [← List.length_map GCController.tweakHandle, hRefines.owners] at hLt
    exact absurd hLt hLe.not_gt
  have hNew {handle : UInt32} (hAfter : process'.owners[ref]? = some handle)
      (hLe : process.owners.length ≤ ref) :
      process'.pausesHeard ref = System.pausesFor handle system'.processed := by
    rw [hOwners, List.getElem?_append_right hLe] at hAfter
    rw [hUnheard hLe, hRefines.unpressed hRefines' hProcessed
      (Option.mem_toList.mp (List.mem_of_getElem? hAfter))]
  have hBefore {handle : UInt32} (hAfter : process'.owners[ref]? = some handle)
      (hLt : ref < process.owners.length) : process.owners[ref]? = some handle := by
    rwa [hOwners, List.getElem?_append_left hLt] at hAfter
  constructor
  · intro hLe
    refine hUnheard (le_trans ?_ hLe)
    rw [hOwners, List.length_append]
    exact Nat.le_add_right _ _
  · intro handle hAfter
    rcases lt_or_ge ref process.owners.length with hLt | hLe
    · exact (hOld (hBefore hAfter hLt)).1
    · exact (hNew hAfter hLe).le
  · intro hListening handle hAfter
    rcases lt_or_ge ref process.owners.length with hLt | hLe
    · exact (hOld (hBefore hAfter hLt)).2 hListening
    · exact hNew hAfter hLe

theorem Pauses.frontendReads (hPauses : Pauses ref listens process system)
    (hRefines : Refines format process system) (hRefines' : Refines format process' system')
    {count : Nat} (hListens : listens → Listens ref process (.frontendReads count))
    (hStep : process.step format (.frontendReads count) = some process')
    (hShadow : run System.step system (shadow format process (.frontendReads count)) =
      some system') : Pauses ref listens process' system' := by
  rcases hRefines.frontendReads_cases hStep hShadow with
    ⟨hFrontend, hProcessed⟩ | ⟨packet, rest, hNext, hHandle, hProcessed⟩
  · exact hPauses.of_same (by rw [owners, hFrontend, owners]) (by rw [hFrontend]) hProcessed
  · refine hPauses.processes hRefines hRefines' hNext hListens
      (State.handlePacket_owners hHandle) ?_ hProcessed
    rw [pausesHeard, State.handlePacket_pauses hHandle, List.count_append]
    rfl

/-- The application changes no handle and presses nothing. -/
theorem app_same (event : Event) (frontend : State) :
    (event.app frontend).created.map GCController.tweakHandle =
        frontend.created.map GCController.tweakHandle ∧
      (event.app frontend).notices = frontend.notices := by
  cases event with
  | appSetsPlayerIndex tweak index =>
      simp only [Event.app, State.setPlayerIndex]
      split
      · exact ⟨rfl, rfl⟩
      next found hFound =>
        rw [State.setControllerIndex_created, State.setControllerIndex_notices]
        exact ⟨map_set_of_same hFound rfl, rfl⟩
  | appSetsHandler tweak element part isSet =>
      exact ⟨map_modify_of_same (fun _ => by rfl) _ _, rfl⟩
  | appSetsPausedHandler tweak isSet =>
      simp only [Event.app, State.setPausedHandler]
      split
      · exact ⟨rfl, rfl⟩
      next found hFound => exact ⟨map_set_of_same hFound rfl, rfl⟩
  | deviceAttached _ _ | deviceRemoved _ | deviceReport _ _ | backendReads _ | frontendReads _ =>
      exact ⟨rfl, rfl⟩

theorem Pauses.step (hPauses : Pauses ref listens process system)
    (hRefines : Refines format process system) (hRefines' : Refines format process' system')
    {event : Event} (hListens : listens → Listens ref process event)
    (hStep : process.step format event = some process')
    (hShadow : run System.step system (shadow format process event) = some system') :
    Pauses ref listens process' system' := by
  by_cases hEvent : ∃ count, event = .frontendReads count
  · obtain ⟨count, rfl⟩ := hEvent
    exact hPauses.frontendReads hRefines hRefines' hListens hStep hShadow
  · rw [not_exists] at hEvent
    obtain ⟨hOwners, hNotices⟩ := app_same event process.frontend
    obtain ⟨hFrontend, hProcessed⟩ := hRefines.app_cases hRefines' hEvent hStep hShadow
    rw [← hFrontend] at hOwners hNotices
    exact hPauses.of_same hOwners hNotices hProcessed

theorem pauses_run {listens : ControllerRef → Prop}
    (hPauses : ∀ ref, Pauses ref (listens ref) process system)
    (hRefines : Refines format process system) {events : List Event}
    (hAlong : ∀ ref, listens ref → Along (Process.step format) (Listens ref) process events)
    (hBudget : system.backend.nextHandle.toNat + (events.map Event.attaches).sum ≤ 2 ^ 32 - 2) :
    ∃ process' system', run (Process.step format) process events = some process' ∧
      Refines format process' system' ∧ ∀ ref, Pauses ref (listens ref) process' system' := by
  induction events generalizing process system with
  | nil => exact ⟨process, system, rfl, hRefines, hPauses⟩
  | cons event events ih =>
      rw [List.map_cons, List.sum_cons] at hBudget
      obtain ⟨next, system₁, hStep, hShadow, hRefines₁, hUsed⟩ :=
        hRefines.step event (by omega)
      have hPauses₁ (ref : ControllerRef) : Pauses ref (listens ref) next system₁ :=
        (hPauses ref).step hRefines hRefines₁ (fun hListening => (hAlong ref hListening).1)
          hStep hShadow
      obtain ⟨last, system₂, hRun, hRefines₂, hPauses₂⟩ := ih hPauses₁ hRefines₁
        (fun ref hListening => (hAlong ref hListening).2 next hStep) (by omega)
      refine ⟨last, system₂, ?_, hRefines₂, hPauses₂⟩
      rw [run_cons, hStep]
      exact hRun

theorem pauses_from_start (format : FloatFormat) (events : List Event)
    (hFew : (events.map Event.attaches).sum < 2 ^ 32 - 2) :
    ∃ process system, run (Process.step format) initial events = some process ∧
      Refines format process system ∧ ∀ ref,
        Pauses ref (Along (Process.step format) (Listens ref) initial events) process system := by
  have hBudget : System.initial.backend.nextHandle.toNat + (events.map Event.attaches).sum ≤
      2 ^ 32 - 2 := by
    rw [show System.initial.backend.nextHandle.toNat = 1 from rfl]
    omega
  exact pauses_run (fun _ => pauses_initial) (refines_initial : Refines format _ _)
    (fun _ hAlong => hAlong) hBudget

/-- In every run the handler of a controller is called at most once for each press of its
pause button that was processed, and exactly once if the controller has a handler whenever
the frontend reads. -/
theorem presses_call_handlers (format : FloatFormat) (events : List Event)
    (hFew : (events.map Event.attaches).sum < 2 ^ 32 - 2) :
    ∃ process processed waiting, run (Process.step format) initial events = some process ∧
      process.manager.backend.sent = processed ++ waiting ∧
      process.frontendConnection.Expects process.toFrontend (encoded format waiting) ∧
      ∀ ref handle, process.owners[ref]? = some handle →
        process.pausesHeard ref ≤ System.pausesFor handle processed ∧
        (Along (Process.step format) (Listens ref) initial events →
          process.pausesHeard ref = System.pausesFor handle processed) := by
  obtain ⟨process, system, hRun, hRefines, hPauses⟩ := pauses_from_start format events hFew
  refine ⟨process, process.manager.backend.sent.take system.frontendProcessed,
    process.manager.backend.sent.drop system.frontendProcessed, hRun,
    (List.take_append_drop _ _).symm, hRefines.toFrontend, fun ref handle hOwner => ?_⟩
  have hSame : System.pausesFor handle system.processed = System.pausesFor handle
      (process.manager.backend.sent.take system.frontendProcessed) := by
    rw [hRefines.processed, System.pausesFor_convert]
  rw [← hSame]
  exact ⟨(hPauses ref).atMost handle hOwner, fun hAlong => (hPauses ref).all hAlong handle hOwner⟩

theorem presses_call_handlers_firstRun :
    ∃ process processed waiting,
      run (Process.step .binary32) initial firstRun = some process ∧
      process.manager.backend.sent = processed ++ waiting ∧
      process.frontendConnection.Expects process.toFrontend (encoded .binary32 waiting) ∧
      ∀ ref handle, process.owners[ref]? = some handle →
        process.pausesHeard ref ≤ System.pausesFor handle processed ∧
        (Along (Process.step .binary32) (Listens ref) initial firstRun →
          process.pausesHeard ref = System.pausesFor handle processed) :=
  presses_call_handlers .binary32 firstRun (by decide)

end Process
end MFiWrapper
