import MFiWrapper.Session.ShownPlayers

/-!
# The packets that the frontend has processed

A read in the frontend processes one packet at most; every other event leaves the frontend
to the application.  What packets and the application keep holds of the controllers and
the packets processed after every run.
-/

namespace MFiWrapper

open Library HIDPad Frontend

namespace System

/-- Only the frontend counts the packets that it has processed. -/
theorem run_frontendProcessed {system system' : System} {events : List Event}
    (hEvents : ∀ event ∈ events, event ≠ .frontendProcesses)
    (hRun : run System.step system events = some system') :
    system'.frontendProcessed = system.frontendProcessed := by
  induction events generalizing system with
  | nil =>
      obtain rfl := Option.some.inj hRun
      rfl
  | cons event events ih =>
      obtain ⟨hEvent, hEvents⟩ := List.forall_mem_cons.mp hEvents
      rw [run_cons] at hRun
      obtain ⟨next, hStep, hRest⟩ := Option.bind_eq_some_iff.mp hRun
      rw [ih hEvents hRest]
      cases event with
      | deviceAttached platform aName =>
          obtain ⟨backend, -, hReturn⟩ := Option.bind_eq_some_iff.mp hStep
          obtain rfl := Option.some.inj hReturn
          rfl
      | deviceRemoved _ | appSetsPlayerIndex _ _ =>
          obtain rfl := Option.some.inj hStep
          rfl
      | driverSendsState _ _ | driverSendsPause _ =>
          simp only [step] at hStep
          split at hStep
          · obtain rfl := Option.some.inj hStep
            rfl
          · obtain rfl := Option.some.inj hStep
            rfl
      | frontendProcesses => exact absurd rfl hEvent
      | backendProcesses =>
          simp only [step] at hStep
          split at hStep
          · obtain rfl := Option.some.inj hStep
            rfl
          · obtain ⟨backend, -, hReturn⟩ := Option.bind_eq_some_iff.mp hStep
            obtain rfl := Option.some.inj hReturn
            rfl

/-- Nothing was processed under a handle before its controller is made. -/
theorem Current.unseen {system system' : System} (hCurrent : system.Current)
    (hCurrent' : system'.Current) {packet : MFiWPacket ℚ}
    (hProcessed : system'.processed = system.processed ++ [packet]) {handle : UInt32}
    (hNew : Backend.connectHandle packet = some handle) :
    ∀ other ∈ system.processed, other.handle ≠ handle := by
  intro other hOther hSame
  have hNodup := hCurrent'.owners_nodup
  rw [hCurrent'.owners, hProcessed, List.filterMap_append, ← hCurrent.owners,
    List.filterMap_cons, hNew] at hNodup
  exact List.disjoint_of_nodup_append hNodup (hSame ▸ hCurrent.about other hOther)
    (List.mem_singleton.mpr rfl)

end System

namespace Process

variable {format : FloatFormat} {process process' : Process} {system system' : System}

/-! ## What is sent -/

/-- The backend only adds to what it has sent. -/
theorem step_sent {event : Event} (hStep : process.step format event = some process') :
    process.manager.backend.sent <+: process'.manager.backend.sent := by
  cases event with
  | deviceAttached platform device =>
      obtain ⟨manager, hAttached, hReturn⟩ := Option.bind_eq_some_iff.mp hStep
      obtain rfl := Option.some.inj hReturn
      obtain ⟨made, -, hManager⟩ := Option.bind_eq_some_iff.mp hAttached
      obtain rfl := Option.some.inj hManager
      obtain ⟨packets, hSent, -⟩ := construct_sent made.1 process.manager.backend
      exact ⟨packets, hSent.symm⟩
  | deviceRemoved address =>
      obtain rfl := Option.some.inj hStep
      obtain ⟨packets, hSent, -⟩ := deviceRemoved_sent address process.manager.backend
      exact ⟨packets, hSent.symm⟩
  | deviceReport address report =>
      obtain ⟨manager, hReport, hReturn⟩ := Option.bind_eq_some_iff.mp hStep
      obtain rfl := Option.some.inj hReturn
      unfold HIDManager.deviceReport at hReport
      split at hReport
      · obtain rfl := Option.some.inj hReport
        exact List.prefix_rfl
      · obtain ⟨interface, -, hRest⟩ := Option.bind_eq_some_iff.mp hReport
        obtain ⟨called, hCall, hManager⟩ := Option.bind_eq_some_iff.mp hRest
        obtain rfl := Option.some.inj hManager
        obtain ⟨caller, -, hRest⟩ := Option.bind_eq_some_iff.mp hCall
        obtain ⟨⟨statics, driver, calls⟩, -, hCalled⟩ := Option.bind_eq_some_iff.mp hRest
        obtain rfl := Option.some.inj hCalled
        show _ <+: (calls.foldl (Backend.perform caller) _).sent
        rw [Backend.foldl_perform]
        exact List.prefix_append _ _
  | backendReads count =>
      simp only [step] at hStep
      split at hStep
      · cases hStep
      · split at hStep
        · obtain rfl := Option.some.inj hStep
          exact List.prefix_rfl
        · obtain ⟨manager, hHandle, hReturn⟩ := Option.bind_eq_some_iff.mp hStep
          obtain rfl := Option.some.inj hReturn
          show _ <+: manager.backend.sent
          rw [HIDManager.handleDataPacket_sent hHandle]
  | frontendReads count =>
      simp only [step] at hStep
      split at hStep
      · cases hStep
      · split at hStep
        · obtain rfl := Option.some.inj hStep
          exact List.prefix_rfl
        · obtain ⟨frontend, -, hReturn⟩ := Option.bind_eq_some_iff.mp hStep
          obtain rfl := Option.some.inj hReturn
          exact List.prefix_rfl
  | appSetsPlayerIndex _ _ | appSetsHandler _ _ _ _ | appSetsPausedHandler _ _ =>
      obtain rfl := Option.some.inj hStep
      exact List.prefix_rfl

/-- What the shadow of an event other than a read in the frontend leaves processed. -/
theorem Refines.processed_same (hRefines : Refines format process system)
    (hRefines' : Refines format process' system')
    (hSent : process.manager.backend.sent <+: process'.manager.backend.sent)
    (hProcessed : system'.frontendProcessed = system.frontendProcessed) :
    system'.processed = system.processed := by
  have hLe : system.frontendProcessed ≤ process.manager.backend.sent.length := by
    rw [← hRefines.sent_length]
    exact hRefines.inv.frontendProcessed
  obtain ⟨packets, hPackets⟩ := hSent
  rw [hRefines'.processed, hProcessed, hRefines.processed, ← hPackets,
    List.take_append_of_le_length hLe]

/-- The shadow of any other event processes no packet. -/
theorem shadow_processes {event : Event} (hEvent : ∀ count, event ≠ .frontendReads count) :
    ∀ shadowed ∈ shadow format process event, shadowed ≠ .frontendProcesses := by
  intro shadowed hMem
  cases event with
  | deviceReport address report =>
      obtain ⟨packet, hSends⟩ := shadow_deviceReport hMem
      cases packet <;> cases hSends <;> simp
  | backendReads count =>
      simp only [shadow] at hMem
      split_ifs at hMem
      · obtain rfl := List.mem_singleton.mp hMem
        simp
      · cases hMem
  | frontendReads count => exact absurd rfl (hEvent count)
  | deviceAttached _ _ | deviceRemoved _ | appSetsPlayerIndex _ _ =>
      obtain rfl := List.mem_singleton.mp hMem
      simp
  | appSetsHandler _ _ _ _ | appSetsPausedHandler _ _ => cases hMem

/-! ## One event -/

/-- What an event other than a read in the frontend does to the frontend. -/
def Event.app (frontend : State) : Event → State
  | .appSetsPlayerIndex tweak index => frontend.setPlayerIndex tweak index
  | .appSetsHandler tweak element part isSet => frontend.setHandler tweak element part isSet
  | .appSetsPausedHandler tweak isSet => frontend.setPausedHandler tweak isSet
  | .deviceAttached _ _ | .deviceRemoved _ | .deviceReport _ _ | .backendReads _
  | .frontendReads _ => frontend

theorem step_app {event : Event} (hEvent : ∀ count, event ≠ .frontendReads count)
    (hStep : process.step format event = some process') :
    process'.frontend = event.app process.frontend := by
  cases event with
  | deviceAttached _ _ | deviceReport _ _ =>
      obtain ⟨manager, -, hReturn⟩ := Option.bind_eq_some_iff.mp hStep
      exact Option.some.inj hReturn ▸ rfl
  | backendReads count =>
      simp only [step] at hStep
      split at hStep
      · cases hStep
      · split at hStep
        · exact Option.some.inj hStep ▸ rfl
        · obtain ⟨manager, -, hReturn⟩ := Option.bind_eq_some_iff.mp hStep
          exact Option.some.inj hReturn ▸ rfl
  | frontendReads count => exact absurd rfl (hEvent count)
  | deviceRemoved _ | appSetsPlayerIndex _ _ | appSetsHandler _ _ _ _
  | appSetsPausedHandler _ _ => exact Option.some.inj hStep ▸ rfl

/-- Any other event leaves the frontend to the application, and processes nothing. -/
theorem Refines.app_cases (hRefines : Refines format process system)
    (hRefines' : Refines format process' system') {event : Event}
    (hEvent : ∀ count, event ≠ .frontendReads count)
    (hStep : process.step format event = some process')
    (hShadow : run System.step system (shadow format process event) = some system') :
    process'.frontend = event.app process.frontend ∧
      system'.processed = system.processed :=
  ⟨step_app hEvent hStep, hRefines.processed_same hRefines' (step_sent hStep)
    (System.run_frontendProcessed (shadow_processes hEvent) hShadow)⟩

/-- A read in the frontend processes the next packet, or none. -/
theorem Refines.frontendReads_cases (hRefines : Refines format process system) {count : Nat}
    (hStep : process.step format (.frontendReads count) = some process')
    (hShadow : run System.step system (shadow format process (.frontendReads count)) =
      some system') :
    (process'.frontend = process.frontend ∧ system'.processed = system.processed) ∨
      ∃ packet rest, system.toFrontend = packet :: rest ∧
        process.frontend.handlePacket packet = some process'.frontend ∧
        system'.processed = system.processed ++ [packet] := by
  obtain ⟨handed, connection, result, hReceive, -⟩ := hRefines.toFrontend.receive count
  simp only [Process.step, hReceive] at hStep
  simp only [shadow, completes, hReceive] at hShadow
  cases handed with
  | none =>
      obtain rfl := Option.some.inj hStep
      obtain rfl := Option.some.inj hShadow
      exact .inl ⟨rfl, rfl⟩
  | some aPacket =>
      obtain ⟨sent, rest, -, hNext, -, hContents, hName⟩ := hRefines.handed hReceive
      obtain ⟨frontend, hHandle, hReturn⟩ := Option.bind_eq_some_iff.mp hStep
      rw [handleDataPacket_round hContents hName] at hHandle
      simp only [if_true, run_singleton, System.step, hNext] at hShadow
      obtain ⟨quiet, -, hSystem⟩ := Option.bind_eq_some_iff.mp hShadow
      refine .inr ⟨_, _, hNext, ?_, ?_⟩
      · rw [hHandle, ← Option.some.inj hReturn]
        rfl
      · rw [← Option.some.inj hSystem]
        exact System.processed_succ hNext quiet

/-! ## Runs -/

section Kept

variable {good : State → List (MFiWPacket ℚ) → Prop}

/-- What packets and the application keep, every event keeps. -/
theorem Refines.kept (hRefines : Refines format process system)
    (hRefines' : Refines format process' system')
    (hApp : ∀ event frontend packets, good frontend packets →
      good (Event.app frontend event) packets)
    (hPacket : ∀ packet frontend frontend' packets, good frontend packets →
      frontend.handlePacket packet = some frontend' → good frontend' (packets ++ [packet]))
    {event : Event} (hStep : process.step format event = some process')
    (hShadow : run System.step system (shadow format process event) = some system')
    (hGood : good process.frontend system.processed) :
    good process'.frontend system'.processed := by
  by_cases hEvent : ∃ count, event = .frontendReads count
  · obtain ⟨count, rfl⟩ := hEvent
    rcases hRefines.frontendReads_cases hStep hShadow with
      ⟨hFrontend, hProcessed⟩ | ⟨packet, rest, -, hHandle, hProcessed⟩
    · rw [hFrontend, hProcessed]
      exact hGood
    · rw [hProcessed]
      exact hPacket _ _ _ _ hGood hHandle
  · rw [not_exists] at hEvent
    obtain ⟨hFrontend, hProcessed⟩ := hRefines.app_cases hRefines' hEvent hStep hShadow
    rw [hFrontend, hProcessed]
    exact hApp _ _ _ hGood

end Kept

end Process
end MFiWrapper
