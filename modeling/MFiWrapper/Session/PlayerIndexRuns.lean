import MFiWrapper.Session.PlayerIndexes

/-!
# Player indices over whole runs

Every event keeps the invariant of the watched runs, and the invariant implies that
devices and controllers agree on their indices.
-/

namespace MFiWrapper
namespace Watched

open Library Frontend

variable {watched : Watched}

/-! ## Runs -/

/-- The application sets 32-bit indices. -/
def SetsInt32 : System.Event → Prop
  | .appSetsPlayerIndex _ index => ∃ value : Int32, index = value.toInt64
  | _ => True

/-- The packet that the backend processes, with the calls that are traced. -/
theorem step_backendProcesses {packet : MFiWPacket ℚ} {rest : List (MFiWPacket ℚ)}
    (hNext : watched.system.toBackend = packet :: rest) :
    watched.step .backendProcesses =
      (watched.system.backend.handlePacketTraced packet).map fun (calls, backend) =>
        watched.withCalls calls backend := by
  simp only [step, hNext]
  cases watched.system.backend.handlePacketTraced packet <;> rfl

/-- Any other event, with what it leaves in the logs. -/
theorem step_other {event : System.Event} (hOther : event ≠ .backendProcesses) :
    watched.step event = (watched.system.step event).map fun system =>
      { watched with
        system := system
        assigned := watched.assigned ++ (watched.assignment event).toList
        attached := watched.attached ++ (watched.attachment event).toList } := by
  cases event with
  | backendProcesses => exact absurd rfl hOther
  | deviceRemoved _ | appSetsPlayerIndex _ _ => rfl
  | deviceAttached _ _ | driverSendsState _ _ | driverSendsPause _ | frontendProcesses =>
      show Option.bind (watched.system.step _) _ = _
      cases watched.system.step _ <;> rfl

/-- A watched step is a step. -/
theorem step_system (watched : Watched) (event : System.Event) :
    (watched.step event).map Watched.system = watched.system.step event := by
  by_cases hBackend : event = .backendProcesses
  · subst hBackend
    cases hNext : watched.system.toBackend with
    | nil => simp only [step, System.step, hNext, Option.map_some]
    | cons packet rest =>
        have hProjection := Backend.handlePacketTraced_snd packet watched.system.backend
        simp only [step_backendProcesses hNext, System.step, hNext, ← hProjection]
        cases watched.system.backend.handlePacketTraced packet <;> rfl
  · rw [step_other hBackend, Option.map_map]
    exact congrFun Option.map_id _

/-- A watched run is a run. -/
theorem run_system (watched : Watched) (events : List System.Event) :
    (run Watched.step watched events).map Watched.system =
      run System.step watched.system events := by
  induction events generalizing watched with
  | nil => rfl
  | cons event events ih =>
      rw [run_cons, run_cons, ← step_system]
      cases watched.step event with
      | none => rfl
      | some next => exact ih next

theorem step_eq {event : System.Event} {system : System} (hOther : event ≠ .backendProcesses)
    (hStep : watched.system.step event = some system) :
    watched.step event = some
      { watched with
        system := system
        assigned := watched.assigned ++ (watched.assignment event).toList
        attached := watched.attached ++ (watched.attachment event).toList } := by
  rw [step_other hOther, hStep]
  rfl

/-- Events that leave no trace in the logs. -/
theorem step_unlogged {event : System.Event} {system : System}
    (hOther : event ≠ .backendProcesses)
    (hStep : watched.system.step event = some system)
    (hAssignment : watched.assignment event = none)
    (hAttachment : watched.attachment event = none) :
    watched.step event = some { watched with system := system } := by
  rw [step_eq hOther hStep, hAssignment, hAttachment, Option.toList_none, Option.toList_none,
    List.append_nil, List.append_nil]

/-- A device of no known kind gets no handle, any other is logged with its own. -/
theorem Inv.deviceAttached (hInv : watched.Inv) {platform : HIDPad.Platform} {aName : String}
    {system : System}
    (hStep : watched.system.step (.deviceAttached platform aName) = some system)
    (hSystem : system.Inv)
    (hRoom : watched.system.backend.nextHandle.toNat +
      (System.Event.deviceAttached platform aName).attaches ≤ 2 ^ 32 - 2) :
    ∃ watched', watched.step (.deviceAttached platform aName) = some watched' ∧ watched'.Inv ∧
      watched'.system = system := by
  obtain ⟨driver, hConnect⟩ := HIDPad.connect_isSome platform aName
  have hAttaches := Backend.connect_attaches hConnect
  obtain rfl : { watched.system with
      backend := watched.system.backend.construct driver } = system := by
    simpa [System.step, Backend.deviceAttached, hConnect] using hStep
  cases hKnown : driver.attaches with
  | true =>
      have hRecognised : Backend.recognised aName = true := hAttaches.symm.trans hKnown
      have hAttachment : watched.attachment (.deviceAttached platform aName) =
          some (watched.system.backend.allocated, watched.system.backend.nextHandle) :=
        if_pos hRecognised
      rw [System.Event.attaches, if_pos hRecognised] at hRoom
      refine ⟨_, step_eq (by simp) hStep, ?_, rfl⟩
      have hAssignment : watched.assignment (.deviceAttached platform aName) = none := rfl
      rw [hAttachment, hAssignment, Option.toList_none, List.append_nil]
      exact hInv.attach hConnect hKnown hSystem hRoom
  | false =>
      have hAttachment : watched.attachment (.deviceAttached platform aName) = none :=
        if_neg (by simp [← hAttaches, hKnown])
      have hConstruct := Backend.construct_plain hKnown watched.system.backend
      refine ⟨_, step_unlogged (by simp) hStep rfl hAttachment, ?_, rfl⟩
      have hSent : (watched.system.backend.construct driver).sent =
          watched.system.backend.sent ++ [] := by
        rw [hConstruct, List.append_nil]
      refine hInv.quiet hSystem hSent rfl ?_ ?_ ?_ (hInv.given_new hConnect (by rw [hConstruct]))
      · rw [hConstruct]
        exact Nat.le_succ _
      · rw [hConstruct]
      · rw [Backend.entries_construct_plain hKnown]
        exact fun _ hEntry => hEntry

theorem Inv.step (hInv : watched.Inv) {event : System.Event} (hInt32 : SetsInt32 event)
    (hRoom : watched.system.backend.nextHandle.toNat + event.attaches ≤ 2 ^ 32 - 2) :
    ∃ watched', watched.step event = some watched' ∧ watched'.Inv ∧
      watched'.system.backend.nextHandle.toNat =
        watched.system.backend.nextHandle.toNat + event.attaches := by
  obtain ⟨system, hStep, hSystem, hNext⟩ := hInv.system.step event hRoom
  cases event with
  | deviceAttached platform aName =>
      obtain ⟨watched', hWatched, hInv', hSame⟩ := hInv.deviceAttached hStep hSystem hRoom
      exact ⟨watched', hWatched, hInv', hSame ▸ hNext⟩
  | deviceRemoved address =>
      cases hStep
      exact ⟨_, step_unlogged (by simp) rfl rfl rfl, hInv.deviceRemoved address hSystem, hNext⟩
  | driverSendsState _ _ | driverSendsPause _ =>
      refine ⟨_, step_unlogged (by simp) hStep rfl rfl, ?_, hNext⟩
      rw [System.step] at hStep
      split at hStep <;> cases hStep
      · exact hInv
      · exact hInv.quiet hSystem rfl rfl le_rfl rfl (fun _ hEntry => hEntry) hInv.given
  | frontendProcesses =>
      refine ⟨_, step_eq (by simp) hStep, ?_, hNext⟩
      have hAttachment : watched.attachment .frontendProcesses = none := rfl
      rw [hAttachment, Option.toList_none, List.append_nil]
      cases hQueue : watched.system.toFrontend with
      | nil =>
          have hAssignment : watched.assignment .frontendProcesses = none := by
            simp only [assignment, hQueue]
          rw [System.step, hQueue] at hStep
          cases hStep
          rw [hAssignment, Option.toList_none, List.append_nil]
          exact hInv
      | cons packet rest =>
          rw [System.step, hQueue] at hStep
          obtain ⟨frontend, hHandle, hReturn⟩ := Option.bind_eq_some_iff.mp hStep
          cases hReturn
          exact hInv.frontendProcesses hQueue hHandle hSystem
  | appSetsPlayerIndex ref index =>
      cases hStep
      have hAttachment : watched.attachment (.appSetsPlayerIndex ref index) = none := rfl
      refine ⟨_, step_eq (by simp) rfl, ?_, hNext⟩
      rw [hAttachment, Option.toList_none, List.append_nil]
      exact hInv.appSetsPlayerIndex hInt32 hSystem
  | backendProcesses =>
      have hSame := watched.step_system .backendProcesses
      rw [hStep] at hSame
      obtain ⟨watched', hWatched, rfl⟩ := Option.map_eq_some_iff.mp hSame
      refine ⟨watched', hWatched, ?_, hNext⟩
      cases hQueue : watched.system.toBackend with
      | nil =>
          simp only [Watched.step, hQueue, Option.some.injEq] at hWatched
          exact hWatched ▸ hInv
      | cons packet rest =>
          rw [step_backendProcesses hQueue] at hWatched
          obtain ⟨⟨calls, backend⟩, hTraced, rfl⟩ := Option.map_eq_some_iff.mp hWatched
          exact hInv.backendProcesses hQueue hTraced hSystem

/-! ## The invariant implies the agreement -/

theorem foldl_some {α : Type} (first second : List α) :
    second.foldl (fun _ a => some a) first.getLast? = (first ++ second).getLast? := by
  induction second generalizing first with
  | nil => rw [List.foldl_nil, List.append_nil]
  | cons a second ih =>
      have hLast : some a = (first ++ [a]).getLast? := List.getLast?_concat.symm
      rw [List.foldl_cons, hLast, ih, List.append_assoc]
      rfl

theorem Inv.owners_nodup (hInv : watched.Inv) : watched.owners.Nodup := by
  rw [hInv.owners]
  refine hInv.handles.sublist ?_
  rw [hInv.connects]
  exact (List.take_sublist _ _).filterMap _

theorem Inv.settled (hInv : watched.Inv) {handle : UInt32} {address : Nat}
    (hEntry : (handle, address) ∈ watched.system.backend.entries)
    (hConnected : handle ∈ watched.connected) :
    ∃ tweak ∈ watched.system.frontend.created, tweak.tweakHandle = handle ∧
      (watched.settles handle address).map Int32.toInt64 = some tweak.playerIndex := by
  obtain ⟨ref, hOwner⟩ := List.mem_iff_getElem?.mp (hInv.owners ▸ hConnected)
  obtain ⟨tweak, hTweak, hHandle⟩ :=
    Option.map_eq_some_iff.mp ((List.getElem?_map ..).symm.trans hOwner)
  refine ⟨tweak, List.mem_of_getElem? hTweak, hHandle, ?_⟩
  -- received and in flight together are all that was sent for the handle
  have hAll : watched.received address ++ watched.inFlight handle =
      (assignedTo ref watched.assigned).map Int64.toInt32 := by
    rw [hInv.received handle address hEntry, Watched.inFlight, System.toBackend,
      ← List.filterMap_append, List.take_append_drop]
    exact hInv.recorded.indexFor hInv.owners_nodup hOwner
  have hLatest := hInv.recorded.latest ref tweak.playerIndex
    (by rw [List.getElem?_map, hTweak, Option.map_some])
  obtain ⟨value, hValue⟩ : ∃ value : Int32, tweak.playerIndex = value.toInt64 := by
    obtain ⟨assignment, hMem, hIndex⟩ := List.mem_map.mp (List.mem_of_getLast? hLatest)
    obtain ⟨value, hValue⟩ := hInv.recorded.int32 assignment (List.mem_of_mem_filter hMem)
    exact ⟨value, hIndex.symm.trans hValue⟩
  rw [settles, foldl_some, hAll, List.getLast?_map, hLatest, hValue]
  simp

theorem Inv.unreachable (hInv : watched.Inv) {handle : UInt32} {value : Int32}
    {rest : List (MFiWPacket ℚ)}
    (hNext : watched.system.toBackend = .setPlayerIndex handle value :: rest)
    (hNot : handle ∉ watched.system.backend.handles) :
    ∃ watched', watched.step .backendProcesses = some watched' ∧ watched'.calls = watched.calls ∧
      watched'.system.backend.interfaces = watched.system.backend.interfaces := by
  have hNowhere := hInv.system.backend.stray handle hNot
  have hTraced : watched.system.backend.handlePacketTraced (.setPlayerIndex handle value) =
      some ([], { watched.system.backend with
        devices := Function.update watched.system.backend.devices handle (some none) }) := by
    simp only [Backend.handlePacketTraced, hNowhere]
  refine ⟨_, (step_backendProcesses hNext).trans (congrArg _ hTraced), ?_, rfl⟩
  exact List.append_nil watched.calls

theorem Inv.agrees (hInv : watched.Inv) : watched.Agrees where
  given := hInv.given
  settled _ _ hEntry hConnected := hInv.settled hEntry hConnected
  unreachable _ _ _ hNext hNot := hInv.unreachable hNext hNot
  own := hInv.own
  distinct := ⟨hInv.addresses, hInv.handles, hInv.owners_nodup⟩

/-- In every interleaving with fewer than 2^32 - 2 attached devices in which the
application sets 32-bit indices, every device settles for the index of its controller,
and no index reaches a removed or another device. -/
theorem player_index_agrees (events : List System.Event)
    (hFew : (events.map System.Event.attaches).sum < 2 ^ 32 - 2)
    (hInt32 : ∀ event ∈ events, SetsInt32 event) :
    ∃ watched, run Watched.step initial events = some watched ∧
      run System.step System.initial events = some watched.system ∧ watched.Agrees := by
  have hBudget : initial.system.backend.nextHandle.toNat +
      (events.map System.Event.attaches).sum ≤ 2 ^ 32 - 2 := by
    rw [show initial.system.backend.nextHandle.toNat = 1 from rfl]
    omega
  obtain ⟨watched, hRun, hInv⟩ := run_invariant_within_of
    (fun watched => watched.system.backend.nextHandle.toNat) System.Event.attaches (2 ^ 32 - 2)
    SetsInt32 (fun watched event hInv hSets hRoom => hInv.step hSets hRoom) inv_initial hInt32
    hBudget
  have hSystem := initial.run_system events
  rw [hRun] at hSystem
  exact ⟨watched, hRun, hSystem.symm, hInv.agrees⟩

/-- A pad is given an index, and a second one while the first is on its way. -/
def twoAssignments : List System.Event :=
  [.deviceAttached ⟨false, fun _ => ⟨0, 0, 0, 0⟩⟩ "Wireless Controller",
    .frontendProcesses, .backendProcesses, .appSetsPlayerIndex 0 2, .backendProcesses,
    .appSetsPlayerIndex 0 3]

theorem player_index_agrees_two_assignments :
    ∃ watched, run Watched.step initial twoAssignments = some watched ∧
      run System.step System.initial twoAssignments = some watched.system ∧ watched.Agrees :=
  player_index_agrees twoAssignments (by decide) (by
    intro event hMem
    simp only [twoAssignments, List.mem_cons, List.not_mem_nil, or_false] at hMem
    rcases hMem with rfl | rfl | rfl | rfl | rfl | rfl
    · trivial
    · trivial
    · trivial
    · exact ⟨2, rfl⟩
    · trivial
    · exact ⟨3, rfl⟩)

end Watched
end MFiWrapper
