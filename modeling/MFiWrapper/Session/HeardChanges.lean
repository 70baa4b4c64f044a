import MFiWrapper.Frontend.Listeners
import MFiWrapper.Session.Callbacks
import MFiWrapper.Session.Pauses
import Mathlib.Data.List.ReduceOption

/-!
# Value handlers hear changes

A value handler is called with changes of its part from one processed state to the next,
in their order.  A handler that an application sets when the controller connects, and that
is never cleared, is called with all of them, whatever handlers do in the middle of an
update.
-/

namespace MFiWrapper

open Library HIDPad Frontend

/-! ## Changes -/

namespace System

/-- The states for a handle. -/
def statesFor (handle : UInt32) (packets : List (MFiWPacket ℚ)) :
    List (MFiWInputStatePacket ℚ) :=
  packets.filterMap (stateFor handle)

/-- The calls that states make to a handler that is always there. -/
def valueCalls (control : MFiButtons) (part : Part) (states : List (MFiWInputStatePacket ℚ)) :
    List HandlerCall :=
  (changes (callFor part (fieldsOf .zero control))
    (states.map fun state => callFor part (fieldsOf state control))).reduceOption

variable {handle : UInt32} {control : MFiButtons} {part : Part}
  {packets : List (MFiWPacket ℚ)}

theorem statesFor_unseen (hUnseen : ∀ packet ∈ packets, packet.handle ≠ handle) :
    statesFor handle packets = [] := by
  rw [statesFor, List.filterMap_eq_nil_iff]
  exact fun packet hMem => stateFor_eq_none (hUnseen packet hMem)

theorem statesFor_concat_none {packet : MFiWPacket ℚ} (hNone : stateFor handle packet = none) :
    statesFor handle (packets ++ [packet]) = statesFor handle packets := by
  rw [statesFor, List.filterMap_append, List.filterMap_cons, hNone]
  exact List.append_nil _

/-- One more state is one more call, or none. -/
theorem valueCalls_concat (handle : UInt32) (control : MFiButtons) (part : Part)
    (packets : List (MFiWPacket ℚ)) (state : MFiWInputStatePacket ℚ) :
    valueCalls control part (statesFor handle (packets ++ [.inputState handle state])) =
      valueCalls control part (statesFor handle packets) ++
        if callFor part (fieldsOf (lastState handle packets) control) =
            callFor part (fieldsOf state control) then []
        else (callFor part (fieldsOf state control)).toList := by
  have hStates : statesFor handle (packets ++ [.inputState handle state]) =
      statesFor handle packets ++ [state] := by
    rw [statesFor, List.filterMap_append, List.filterMap_cons, stateFor, if_pos rfl]
    rfl
  have hLast : ((statesFor handle packets).map fun state =>
      callFor part (fieldsOf state control)).getLastD (callFor part (fieldsOf .zero control)) =
      callFor part (fieldsOf (lastState handle packets) control) := by
    rw [List.getLastD_eq_getLast?, List.getLast?_map, lastState, ← statesFor]
    cases (statesFor handle packets).getLast? <;> rfl
  rw [valueCalls, hStates, List.map_append, List.map_singleton, changes_concat, hLast,
    List.reduceOption_append]
  congr 1
  split_ifs
  · rfl
  · cases callFor part (fieldsOf state control) <;> rfl

/-- A control without the part makes no calls. -/
theorem valueCalls_none (hNone : callFor part (fieldsOf .zero control) = none)
    (states : List (MFiWInputStatePacket ℚ)) : valueCalls control part states = [] := by
  have hSame (state : MFiWInputStatePacket ℚ) : callFor part (fieldsOf state control) = none := by
    cases control <;> cases part <;> first | rfl | cases hNone
  rw [valueCalls]
  induction states with
  | nil => rfl
  | cons state states ih =>
      rw [List.map_cons, hSame state, ← hNone, changes_cons_same]
      exact ih

end System

namespace Process

variable {format : FloatFormat} {application : Application} {process process' : Process}
  {system system' : System}

/-! ## The program beside the plain program -/

/-- The program is, but for the calls of value handlers, a plain program that refines the
joined queues. -/
def Follows (format : FloatFormat) (process : Process) (system : System) : Prop :=
  ∃ plain, process.unheard = plain.unheard ∧ Refines format plain system

theorem follows_initial : Follows format initial System.initial :=
  ⟨initial, rfl, refines_initial⟩

theorem Follows.owners (hFollows : Follows format process system) :
    process.owners = system.processed.filterMap Backend.connectHandle := by
  obtain ⟨plain, hSame, hRefines⟩ := hFollows
  have hOwners : process.owners = plain.owners := congrArg (·.owners) hSame
  rw [hOwners, ← hRefines.owners, hRefines.current.owners]

/-- Only `Connect` makes a controller. -/
theorem Follows.owners_concat (hFollows : Follows format process system)
    (hFollows' : Follows format process' system') {packet : MFiWPacket ℚ}
    (hProcessed : system'.processed = system.processed ++ [packet]) :
    process'.owners = process.owners ++ (Backend.connectHandle packet).toList := by
  rw [hFollows'.owners, hProcessed, List.filterMap_append, ← hFollows.owners]
  cases hConnect : Backend.connectHandle packet <;> rw [List.filterMap_cons, hConnect] <;> rfl

/-- The controllers have read the last states that were processed. -/
theorem Follows.holds (hFollows : Follows format process system) {ref : ControllerRef}
    {tweak : GCController} (hTweak : process.frontend.created[ref]? = some tweak) :
    tweak.Holds (System.lastState tweak.tweakHandle system.processed) := by
  obtain ⟨plain, hSame, hRefines⟩ := hFollows
  have hCreated : process.frontend.created = plain.frontend.created :=
    congrArg (·.frontend.created) hSame
  have hQuiet : tweak.quiet ∈ system.frontend.created := by
    rw [hRefines.frontend]
    exact List.mem_map_of_mem (hCreated ▸ List.mem_of_getElem? hTweak)
  rw [← GCController.holds_quiet]
  exact (hRefines.inv.frontend.wellFormed _ hQuiet).holds (hRefines.current.values _ hQuiet)

/-- A state is for the controller with its handle. -/
theorem Follows.found (hFollows : Follows format process system) {handle : UInt32}
    {state : MFiWInputStatePacket ℚ} {rest : List (MFiWPacket ℚ)}
    (hNext : system.toFrontend = .inputState handle state :: rest) {ref : ControllerRef} :
    process.frontend.tweak handle = some ref ↔ process.owners[ref]? = some handle := by
  obtain ⟨plain, hSame, hRefines⟩ := hFollows
  have hTweak : process.frontend.tweak handle = plain.frontend.tweak handle :=
    congrArg (·.frontend.tweak handle) hSame
  have hOwners : process.owners = plain.owners := congrArg (·.owners) hSame
  rw [hTweak, hOwners]
  exact hRefines.found hNext rfl

theorem Follows.current (hFollows : Follows format process system) : system.Current := by
  obtain ⟨plain, -, hRefines⟩ := hFollows
  exact hRefines.current

/-- Nothing was sent yet under the handle of a new controller. -/
theorem Follows.statesFor_new (hFollows : Follows format process system)
    (hFollows' : Follows format process' system') {packet : MFiWPacket ℚ}
    (hProcessed : system'.processed = system.processed ++ [packet]) {handle : UInt32}
    (hConnect : Backend.connectHandle packet = some handle) :
    System.statesFor handle system'.processed = [] := by
  have hUnseen : System.statesFor handle system.processed = [] := System.statesFor_unseen
    (hFollows.current.unseen hFollows'.current hProcessed hConnect)
  have hNone : System.stateFor handle packet = none := by
    cases packet <;> first | rfl | cases hConnect
  rw [hProcessed, System.statesFor_concat_none hNone, hUnseen]

/-! ## One event -/

/-- Actions are out of sight of what the frontend has processed. -/
theorem Refines.actions (hRefines : Refines format process system) (actions : List Action)
    (hRoom : system.backend.nextHandle.toNat ≤ 2 ^ 32 - 2) :
    ∃ process' system', run (Process.step format) process (actions.map Action.event) =
        some process' ∧ Refines format process' system' ∧
      system'.processed = system.processed ∧
      system'.backend.nextHandle.toNat = system.backend.nextHandle.toNat := by
  induction actions generalizing process system with
  | nil => exact ⟨process, system, rfl, hRefines, rfl, rfl⟩
  | cons action actions ih =>
      have hNone : action.event.attaches = 0 := by cases action <;> rfl
      have hEvent (count : Nat) : action.event ≠ .frontendReads count := by
        cases action <;> exact fun hSame => nomatch hSame
      obtain ⟨next, system₁, hStep, hShadow, hRefines₁, hUsed₁⟩ :=
        hRefines.step action.event (by omega)
      obtain ⟨-, hProcessed₁⟩ := hRefines.app_cases hRefines₁ hEvent hStep hShadow
      obtain ⟨last, system₂, hRun, hRefines₂, hProcessed₂, hUsed₂⟩ := ih hRefines₁ (by omega)
      refine ⟨last, system₂, ?_, hRefines₂, hProcessed₂.trans hProcessed₁, by omega⟩
      rw [List.map_cons, run_cons, hStep]
      exact hRun

/-- A read in the frontend processes the packet that the plain program processes. -/
theorem Refines.readsWith_cases {plain : Process} (hRefines : Refines format plain system)
    (hSame : process.unheard = plain.unheard) {count : Nat}
    (hWith : process.stepWith application format (.frontendReads count) = some process')
    (hShadow : run System.step system (shadow format plain (.frontendReads count)) =
      some system') :
    (process'.frontend = process.frontend ∧ system'.processed = system.processed) ∨
      ∃ packet rest, system.toFrontend = packet :: rest ∧
        process.frontend.handlePacketWith application packet = some process'.frontend ∧
        system'.processed = system.processed ++ [packet] := by
  have hConnection : process.frontendConnection = plain.frontendConnection :=
    congrArg (·.frontendConnection) hSame
  have hBytes : process.toFrontend = plain.toFrontend := congrArg (·.toFrontend) hSame
  obtain ⟨handed, connection, result, hReceive, -⟩ := hRefines.toFrontend.receive count
  simp only [stepWith, hConnection, hBytes, hReceive] at hWith
  simp only [shadow, completes, hReceive] at hShadow
  cases handed with
  | none =>
      obtain rfl := Option.some.inj hWith
      obtain rfl := Option.some.inj hShadow
      exact .inl ⟨rfl, rfl⟩
  | some aPacket =>
      obtain ⟨sent, rest, -, hNext, -, hContents, hName⟩ := hRefines.handed hReceive
      obtain ⟨frontend, hHandle, hReturn⟩ := Option.bind_eq_some_iff.mp hWith
      rw [State.handleDataPacketWith_eq application format.ofBits hContents hName,
        map_round] at hHandle
      simp only [if_true, run_singleton, System.step, hNext] at hShadow
      obtain ⟨quiet, -, hSystem⟩ := Option.bind_eq_some_iff.mp hShadow
      refine .inr ⟨_, _, hNext, ?_, ?_⟩
      · rw [hHandle, ← Option.some.inj hReturn]
        rfl
      · rw [← Option.some.inj hSystem]
        exact System.processed_succ hNext quiet

/-- What an event does to the frontend, and the packet that it processes. -/
def Moves (application : Application) (event : Event) (process : Process) (system : System)
    (process' : Process) (system' : System) : Prop :=
  (process'.frontend = event.app process.frontend ∧ system'.processed = system.processed) ∨
    ∃ packet rest, system.toFrontend = packet :: rest ∧
      process.frontend.handlePacketWith application packet = some process'.frontend ∧
      system'.processed = system.processed ++ [packet]

/-- Every event completes and follows the plain program. -/
theorem Follows.step (hFollows : Follows format process system) (application : Application)
    (event : Event) (hRoom : system.backend.nextHandle.toNat + event.attaches ≤ 2 ^ 32 - 2) :
    ∃ process' system', process.stepWith application format event = some process' ∧
      Follows format process' system' ∧ Moves application event process system process' system' ∧
      system'.backend.nextHandle.toNat = system.backend.nextHandle.toNat + event.attaches := by
  obtain ⟨plain, hSame, hRefines⟩ := hFollows
  obtain ⟨actions, -, hWith⟩ := @stepWith_follows format application _ _ hSame event
  obtain ⟨plain₁, system₁, hStep, hShadow, hRefines₁, hUsed₁⟩ := hRefines.step event hRoom
  obtain ⟨plain₂, system₂, hRun, hRefines₂, hProcessed, hUsed₂⟩ :=
    hRefines₁.actions actions (by omega)
  rw [run_cons, hStep, Option.bind_some, hRun, Option.map_some] at hWith
  obtain ⟨process', hProcess, hSame'⟩ := Option.map_eq_some_iff.mp hWith
  refine ⟨process', system₂, hProcess, ⟨plain₂, hSame', hRefines₂⟩, ?_, by omega⟩
  rw [Moves, hProcessed]
  by_cases hEvent : ∃ count, event = .frontendReads count
  · obtain ⟨count, rfl⟩ := hEvent
    exact hRefines.readsWith_cases hSame hProcess hShadow
  · rw [not_exists] at hEvent
    rw [stepWith_other hEvent] at hProcess
    exact .inl ⟨step_app hEvent hProcess,
      (hRefines.app_cases hRefines₁ hEvent hStep hShadow).2⟩

/-! ## What was heard -/

/-- What the handler of a part was called with are changes of the states for its
controller; all of them, if somebody listens. -/
structure Heard (ref : ControllerRef) (control : MFiButtons) (part : Part) (listens : Prop)
    (process : Process) (system : System) : Prop where
  unborn : process.owners.length ≤ ref →
    process.frontend.valuesHeard ref control.index part = []
  changes : ∀ handle, process.owners[ref]? = some handle →
    (process.frontend.valuesHeard ref control.index part).Sublist
      (System.valueCalls control part (System.statesFor handle system.processed))
  all : listens → ∀ handle, process.owners[ref]? = some handle →
    process.frontend.handlerAt ref control.index part = true ∧
      process.frontend.valuesHeard ref control.index part =
        System.valueCalls control part (System.statesFor handle system.processed)

variable {ref : ControllerRef} {control : MFiButtons} {part : Part} {listens : Prop}

theorem heard_initial : Heard ref control part listens initial System.initial :=
  ⟨fun _ => rfl, fun _ hOwner => (nomatch hOwner), fun _ _ hOwner => nomatch hOwner⟩

/-- The application does something, or nothing. -/
theorem Heard.app (hHeard : Heard ref control part listens process system) {event : Event}
    (hKept : listens → event ≠ .appSetsHandler ref control.index part false)
    (hFrontend : process'.frontend = event.app process.frontend)
    (hProcessed : system'.processed = system.processed) :
    Heard ref control part listens process' system' := by
  obtain ⟨hOwners, hNotices⟩ := app_same event process.frontend
  have hOwners' : process'.owners = process.owners := by
    rw [Process.owners, hFrontend, hOwners, Process.owners]
  have hSame : process'.frontend.valuesHeard ref control.index part =
      process.frontend.valuesHeard ref control.index part := by
    rw [State.valuesHeard, hFrontend, hNotices, State.valuesHeard]
  constructor
  · rw [hOwners', hSame]
    exact hHeard.unborn
  · rw [hOwners', hSame, hProcessed]
    exact hHeard.changes
  · rw [hOwners', hSame, hProcessed]
    intro hListens handle hOwner
    obtain ⟨hSet, hAll⟩ := hHeard.all hListens handle hOwner
    refine ⟨?_, hAll⟩
    rw [hFrontend]
    have hAct {action : Action} (hAction : event = action.event) :
        (process.frontend.act action).handlerAt ref control.index part = true :=
      State.act_handlerAt (fun hClears => hKept hListens (hAction.trans (hClears ▸ rfl))) hSet
    cases event with
    | appSetsPlayerIndex tweak index =>
        exact hAct (rfl : _ = Action.event (.setPlayerIndex tweak index))
    | appSetsHandler tweak element other isSet =>
        exact hAct (rfl : _ = Action.event (.setHandler tweak element other isSet))
    | appSetsPausedHandler tweak isSet =>
        exact hAct (rfl : _ = Action.event (.setPausedHandler tweak isSet))
    | deviceAttached _ _ | deviceRemoved _ | deviceReport _ _ | backendReads _
    | frontendReads _ => exact hSet

/-- A state for the controller is processed. -/
theorem Heard.hears (hHeard : Heard ref control part listens process system)
    (hKeeps : listens → application.Keeps control.index part) {handle : UInt32}
    {state : MFiWInputStatePacket ℚ} (hOwner : process.owners[ref]? = some handle)
    (hOwners : process'.owners = process.owners)
    (hProcessed : system'.processed = system.processed ++ [.inputState handle state])
    (hHears : State.Hears application ref control.index part
      (callFor part (fieldsOf (System.lastState handle system.processed) control))
      (callFor part (fieldsOf state control)) process.frontend process'.frontend) :
    Heard ref control part listens process' system' := by
  obtain ⟨calls, hCalls, hSome, hAll⟩ := hHears.heard
  constructor
  · intro hLe
    rw [hOwners] at hLe
    exact absurd (List.getElem?_eq_some_iff.mp hOwner).1 hLe.not_gt
  · intro other hOther
    obtain rfl := Option.some.inj (hOwner.symm.trans (hOwners ▸ hOther))
    rw [hCalls, hProcessed, System.valueCalls_concat]
    refine (hHeard.changes handle hOwner).append ?_
    rcases hSome with rfl | ⟨hChanges, rfl⟩
    · exact List.nil_sublist _
    · rw [if_neg hChanges]
  · intro hListens other hOther
    obtain rfl := Option.some.inj (hOwner.symm.trans (hOwners ▸ hOther))
    obtain ⟨hSet, hBefore⟩ := hHeard.all hListens handle hOwner
    refine ⟨hHears.handler (hKeeps hListens) hSet, ?_⟩
    rw [hCalls, hProcessed, System.valueCalls_concat, hBefore]
    congr 1
    split_ifs with hSame
    · rcases hSome with rfl | ⟨hChanges, -⟩
      · rfl
      · exact absurd hSame hChanges
    · exact hAll (hKeeps hListens) hSet hSame

/-- A packet is processed that has no state for the controller. -/
theorem Heard.undisturbed (hHeard : Heard ref control part listens process system)
    (hFollows : Follows format process system) (hFollows' : Follows format process' system')
    (hKeeps : listens → application.Keeps control.index part) {packet : MFiWPacket ℚ}
    (hProcessed : system'.processed = system.processed ++ [packet])
    (hUndisturbed : State.Undisturbed application ref control.index part process.frontend
      process'.frontend)
    (hState : ∀ handle, process.owners[ref]? = some handle →
      System.stateFor handle packet = none)
    (hNew : listens → ∀ handle, Backend.connectHandle packet = some handle →
      ref = process.owners.length → process'.frontend.handlerAt ref control.index part = true) :
    Heard ref control part listens process' system' := by
  have hOwners := hFollows.owners_concat hFollows' hProcessed
  have hBefore {handle : UInt32} (hOwner : process'.owners[ref]? = some handle)
      (hLt : ref < process.owners.length) : process.owners[ref]? = some handle := by
    rwa [hOwners, List.getElem?_append_left hLt] at hOwner
  constructor
  · intro hLe
    rw [hUndisturbed.heard]
    refine hHeard.unborn (le_trans ?_ hLe)
    rw [hOwners, List.length_append]
    exact Nat.le_add_right _ _
  · intro handle hOwner
    rw [hUndisturbed.heard]
    rcases lt_or_ge ref process.owners.length with hLt | hLe
    · have hOld := hBefore hOwner hLt
      rw [hProcessed, System.statesFor_concat_none (hState handle hOld)]
      exact hHeard.changes handle hOld
    · rw [hHeard.unborn hLe]
      exact List.nil_sublist _
  · intro hListens handle hOwner
    rw [hUndisturbed.heard]
    rcases lt_or_ge ref process.owners.length with hLt | hLe
    · have hOld := hBefore hOwner hLt
      obtain ⟨hSet, hAll⟩ := hHeard.all hListens handle hOld
      rw [hProcessed, System.statesFor_concat_none (hState handle hOld)]
      exact ⟨hUndisturbed.handler (hKeeps hListens) hSet, hAll⟩
    · rw [hOwners, List.getElem?_append_right hLe] at hOwner
      have hConnect := Option.mem_toList.mp (List.mem_of_getElem? hOwner)
      have hRef : ref = process.owners.length := by
        obtain ⟨hLt, -⟩ := List.getElem?_eq_some_iff.mp hOwner
        rw [hConnect, Option.toList_some, List.length_singleton] at hLt
        exact le_antisymm (Nat.le_of_sub_eq_zero (Nat.lt_one_iff.mp hLt)) hLe
      refine ⟨hNew hListens handle hConnect hRef, ?_⟩
      rw [hHeard.unborn hLe, hFollows.statesFor_new hFollows' hProcessed hConnect]
      rfl

/-- The frontend has processed a packet. -/
theorem Heard.processes (hHeard : Heard ref control part listens process system)
    (hFollows : Follows format process system) (hFollows' : Follows format process' system')
    (hListens : listens → application.Listens control.index part ∧
      (callFor part (fieldsOf .zero control)).isSome) {packet : MFiWPacket ℚ}
    {rest : List (MFiWPacket ℚ)} (hNext : system.toFrontend = packet :: rest)
    (hHandle : process.frontend.handlePacketWith application packet = some process'.frontend)
    (hProcessed : system'.processed = system.processed ++ [packet]) :
    Heard ref control part listens process' system' := by
  have hKeeps (hListening : listens) := (hListens hListening).1.keeps
  by_cases hFor : ∃ handle state, packet = .inputState handle state ∧
      process.owners[ref]? = some handle
  · obtain ⟨handle, state, rfl, hOwner⟩ := hFor
    have hFound := (hFollows.found hNext).mpr hOwner
    obtain ⟨tweak, hTweak, rfl⟩ := Option.map_eq_some_iff.mp
      ((List.getElem?_map ..).symm.trans hOwner)
    have hOwners : process'.owners = process.owners :=
      (hFollows.owners_concat hFollows' hProcessed).trans (List.append_nil _)
    exact hHeard.hears hKeeps hOwner hOwners hProcessed
      (State.handlePacketInputStateWith_hears hFound hTweak (hFollows.holds hTweak) hHandle
        control part)
  · refine hHeard.undisturbed hFollows hFollows' hKeeps hProcessed
      (State.handlePacketWith_undisturbed ?_ hHandle) ?_ ?_
    · rintro handle state rfl hFound
      exact hFor ⟨handle, state, rfl, (hFollows.found hNext).mp hFound⟩
    · intro handle hOwner
      cases packet with
      | inputState other state =>
          refine if_neg fun hSame => hFor ⟨other, state, rfl, ?_⟩
          rw [hSame]
          exact hOwner
      | connect _ _ | disconnect _ | setPlayerIndex _ _ | pausePressed _ => rfl
    · rintro hListening handle hConnect rfl
      cases packet with
      | connect other data =>
          obtain ⟨hSets, hPart⟩ := hListens hListening
          rw [← Option.some.inj hHandle, Process.owners, List.length_map]
          exact State.handlePacketConnectWith_listens hSets hPart other data process.frontend
      | disconnect _ | inputState _ _ | setPlayerIndex _ _ | pausePressed _ => cases hConnect

/-! ## Runs -/

/-- Somebody listens to the part of a controller all along. -/
structure Listened (application : Application) (events : List Event) (ref : ControllerRef)
    (control : MFiButtons) (part : Part) : Prop where
  listens : application.Listens control.index part
  exists_part : (callFor part (fieldsOf .zero control)).isSome
  kept : ∀ event ∈ events, event ≠ .appSetsHandler ref control.index part false

theorem heard_run {listens : ControllerRef → MFiButtons → Part → Prop}
    (hHeard : ∀ ref control part, Heard ref control part (listens ref control part) process system)
    (hFollows : Follows format process system)
    (hListens : ∀ ref control part, listens ref control part →
      application.Listens control.index part ∧ (callFor part (fieldsOf .zero control)).isSome)
    {events : List Event}
    (hKept : ∀ ref control part, listens ref control part →
      ∀ event ∈ events, event ≠ .appSetsHandler ref control.index part false)
    (hBudget : system.backend.nextHandle.toNat + (events.map Event.attaches).sum ≤ 2 ^ 32 - 2) :
    ∃ process' system', run (Process.stepWith application format) process events = some process' ∧
      Follows format process' system' ∧
      ∀ ref control part, Heard ref control part (listens ref control part) process' system' := by
  induction events generalizing process system with
  | nil => exact ⟨process, system, rfl, hFollows, hHeard⟩
  | cons event events ih =>
      rw [List.map_cons, List.sum_cons] at hBudget
      obtain ⟨next, system₁, hStep, hFollows₁, hMoves, hUsed⟩ :=
        hFollows.step application event (by omega)
      have hHeard₁ (ref : ControllerRef) (control : MFiButtons) (part : Part) :
          Heard ref control part (listens ref control part) next system₁ := by
        rcases hMoves with ⟨hFrontend, hProcessed⟩ | ⟨packet, rest, hNext, hHandle, hProcessed⟩
        · exact (hHeard ref control part).app (fun hListening => hKept ref control part hListening
            event List.mem_cons_self) hFrontend hProcessed
        · exact (hHeard ref control part).processes hFollows hFollows₁ (hListens ref control part)
            hNext hHandle hProcessed
      obtain ⟨last, system₂, hRun, hFollows₂, hHeard₂⟩ := ih hHeard₁ hFollows₁
        (fun ref control part hListening event hMem => hKept ref control part hListening event
          (List.mem_cons_of_mem _ hMem)) (by omega)
      refine ⟨last, system₂, ?_, hFollows₂, hHeard₂⟩
      rw [run_cons, hStep]
      exact hRun

/-- In every run of a program whose handlers may call back, the handler of a part of a
controller is called with changes of the part from one processed state of the controller
to the next, in their order; with all of them, if the application sets such a handler
whenever a controller connects and never clears it. -/
theorem value_handlers_hear_changes (format : FloatFormat) (application : Application)
    (events : List Event) (hFew : (events.map Event.attaches).sum < 2 ^ 32 - 2) :
    ∃ process processed waiting,
      run (Process.stepWith application format) initial events = some process ∧
      process.manager.backend.sent = processed ++ waiting ∧
      process.frontendConnection.Expects process.toFrontend (encoded format waiting) ∧
      ∀ ref handle, process.owners[ref]? = some handle → ∀ control part,
        (process.frontend.valuesHeard ref control.index part).Sublist
          (System.valueCalls control part
            (System.statesFor handle (processed.map (MFiWPacket.convert format.round)))) ∧
        (application.Listens control.index part →
          (∀ event ∈ events, event ≠ .appSetsHandler ref control.index part false) →
          process.frontend.valuesHeard ref control.index part =
            System.valueCalls control part
              (System.statesFor handle (processed.map (MFiWPacket.convert format.round)))) := by
  have hBudget : System.initial.backend.nextHandle.toNat + (events.map Event.attaches).sum ≤
      2 ^ 32 - 2 := by
    rw [show System.initial.backend.nextHandle.toNat = 1 from rfl]
    omega
  have hHeard₀ (ref : ControllerRef) (control : MFiButtons) (part : Part) :
      Heard ref control part (Listened application events ref control part) initial
        System.initial := heard_initial
  obtain ⟨process, system, hRun, ⟨plain, hSame, hRefines⟩, hHeard⟩ :=
    heard_run hHeard₀ (follows_initial : Follows format _ _)
      (fun _ _ _ hListened => ⟨hListened.listens, hListened.exists_part⟩)
      (fun _ _ _ hListened => hListened.kept) hBudget
  have hManager : process.manager = plain.manager := congrArg (·.manager) hSame
  have hConnection : process.frontendConnection = plain.frontendConnection :=
    congrArg (·.frontendConnection) hSame
  have hBytes : process.toFrontend = plain.toFrontend := congrArg (·.toFrontend) hSame
  have hToFrontend := hRefines.toFrontend
  rw [← hConnection, ← hBytes, ← hManager] at hToFrontend
  refine ⟨process, _, _, hRun, (List.take_append_drop system.frontendProcessed _).symm,
    hToFrontend, fun ref handle hOwner control part => ?_⟩
  rw [hManager, ← hRefines.processed]
  have hChanges := (hHeard ref control part).changes handle hOwner
  refine ⟨hChanges, fun hListens hKept => ?_⟩
  cases hPart : callFor part (fieldsOf .zero control) with
  | none =>
      -- there is no such part
      rw [System.valueCalls_none hPart] at hChanges ⊢
      exact List.sublist_nil.mp hChanges
  | some call =>
      exact ((hHeard ref control part).all ⟨hListens, hPart ▸ rfl, hKept⟩ handle hOwner).2

/-- The application hears how far down the A button of its controllers is. -/
def hearing : Application := fun _ notice =>
  match notice with
  | .didConnect ref => [.setHandler ref MFiButtons.a.index .self true]
  | .valuesChanged ref _ => [.setPlayerIndex ref 1]
  | .didDisconnect _ | .paused _ => []

theorem hearing_listens : hearing.Listens MFiButtons.a.index .self where
  sets _ _ := List.mem_singleton.mpr rfl
  keeps _ notice _ hMem := by cases notice <;> simp [hearing] at hMem

theorem value_handlers_hear_changes_firstRun :
    hearing.Listens MFiButtons.a.index .self ∧ ∃ process processed waiting,
      run (Process.stepWith hearing firstFormat) initial firstRun = some process ∧
      process.manager.backend.sent = processed ++ waiting ∧
      process.frontendConnection.Expects process.toFrontend (encoded firstFormat waiting) ∧
      ∀ ref handle, process.owners[ref]? = some handle → ∀ control part,
        (process.frontend.valuesHeard ref control.index part).Sublist
          (System.valueCalls control part
            (System.statesFor handle
              (processed.map (MFiWPacket.convert firstFormat.round)))) ∧
        (hearing.Listens control.index part →
          (∀ event ∈ firstRun, event ≠ .appSetsHandler ref control.index part false) →
          process.frontend.valuesHeard ref control.index part =
            System.valueCalls control part
              (System.statesFor handle
                (processed.map (MFiWPacket.convert firstFormat.round)))) :=
  ⟨hearing_listens, value_handlers_hear_changes firstFormat hearing firstRun (by decide)⟩

end Process
end MFiWrapper
