import MFiWrapper.Session.System

/-!
# The two sides agree

In every interleaving, the packets in flight lead from the frontend's array of
controllers to the interfaces attached to the backend.
-/

namespace MFiWrapper
namespace System

open Library Frontend

/-- The frontend's array is behind the attached interfaces by exactly what is in
flight, and the next packet finds the controller it is about. -/
structure Agrees (system : System) : Prop where
  nodup : system.backend.handles.Nodup
  replay : ∃ frontend, run State.handlePacket system.frontend system.toFrontend = some frontend ∧
    frontend.handles = system.backend.handles
  found : ∀ packet rest, system.toFrontend = packet :: rest → packet.refersToAttached = true →
    ∃ ref tweak, system.frontend.tweak packet.handle = some ref ∧
      system.frontend.created[ref]? = some tweak ∧ tweak.tweakHandle = packet.handle

/-- The invariant behind the agreement. -/
structure Inv (system : System) : Prop where
  backend : system.backend.Tracked
  frontend : system.frontend.Valid
  backendProcessed : system.backendProcessed ≤ system.frontend.sent.length
  frontendProcessed : system.frontendProcessed ≤ system.backend.sent.length
  inFlight : Path Announces system.frontend.handles system.toFrontend system.backend.handles

theorem inv_initial : initial.Inv :=
  ⟨Backend.tracked_initial, State.valid_initial, Nat.zero_le _, Nat.zero_le _, .nil _⟩

theorem Inv.agrees {system : System} (hInv : system.Inv) : system.Agrees := by
  constructor
  · exact hInv.backend.nodup
  · obtain ⟨frontend, hRun, -, hHandles⟩ := Path.replay
      (fun frontend packet handles hValid hAnnounces => by
        obtain ⟨frontend', hStep, hValid', hHandles, -⟩ :=
          State.Valid.handlePacket hValid hAnnounces
        exact ⟨frontend', hStep, hValid', hHandles⟩)
      hInv.frontend hInv.inFlight
    exact ⟨frontend, hRun, hHandles⟩
  · intro packet rest hNext hRefers
    have hPath := hInv.inFlight
    rw [hNext] at hPath
    obtain ⟨handles, hAnnounces, -⟩ := hPath.next
    exact hInv.frontend.tweak_eq_some (hAnnounces.mem hRefers)

variable {system : System}

/-- The backend has moved on and has announced what it did. -/
theorem Inv.backend_step (hInv : system.Inv) {backend : Backend} (hTracked : backend.Tracked)
    (hAnnounced : Announced system.backend.sent backend.sent
      system.backend.handles backend.handles) :
    ({ system with backend := backend } : System).Inv := by
  obtain ⟨packets, hSent, hPath⟩ := hAnnounced
  constructor
  · exact hTracked
  · exact hInv.frontend
  · exact hInv.backendProcessed
  · rw [hSent, List.length_append]
    exact Nat.le_add_right_of_le hInv.frontendProcessed
  · rw [toFrontend, hSent, List.drop_append_of_le_length hInv.frontendProcessed]
    exact hInv.inFlight.append hPath

/-- The live driver's interface. -/
theorem liveDriver_eq_some {address : Nat} {interface : HIDPad.Interface} :
    system.liveDriver address = some interface ↔
      system.backend.interfaceAt address = some interface ∧ interface.attached = true := by
  rw [liveDriver, Option.filter_eq_some_iff]

/-- The packet at the beginning of what is left of a log. -/
theorem drop_eq_cons {α : Type} {log : List α} {n : Nat} {first : α} {rest : List α}
    (hDrop : log.drop n = first :: rest) :
    n < log.length ∧ log[n]? = some first ∧ log.drop (n + 1) = rest := by
  have hLt : n < log.length := by
    by_contra hNot
    rw [List.drop_eq_nil_of_le (not_lt.mp hNot)] at hDrop
    cases hDrop
  rw [List.drop_eq_getElem_cons hLt] at hDrop
  obtain ⟨hFirst, hRest⟩ := List.cons_eq_cons.mp hDrop
  exact ⟨hLt, hFirst ▸ List.getElem?_eq_getElem hLt, hRest⟩

theorem Inv.frontendProcesses (hInv : system.Inv) :
    ∃ system', system.step .frontendProcesses = some system' ∧ system'.Inv ∧
      system'.backend.nextHandle = system.backend.nextHandle := by
  cases hNext : system.toFrontend with
  | nil => exact ⟨system, by simp only [step, hNext], hInv, rfl⟩
  | cons packet rest =>
      obtain ⟨hLt, -, hRest⟩ := drop_eq_cons hNext
      -- the packet was announced for what the frontend shows now
      have hPath := hInv.inFlight
      rw [hNext] at hPath
      obtain ⟨handles, hAnnounces, hPath'⟩ := hPath.next
      obtain ⟨frontend, hStep, hValid, rfl, hSent⟩ := hInv.frontend.handlePacket hAnnounces
      refine ⟨{ system with
        frontend := frontend
        frontendProcessed := system.frontendProcessed + 1 }, ?_, ?_, rfl⟩
      · simp only [step, hNext, hStep]
        rfl
      · exact ⟨hInv.backend, hValid, hInv.backendProcessed.trans hSent.length_le, hLt,
          by rw [toFrontend, hRest]; exact hPath'⟩

theorem Inv.backendProcesses (hInv : system.Inv) :
    ∃ system', system.step .backendProcesses = some system' ∧ system'.Inv ∧
      system'.backend.nextHandle = system.backend.nextHandle := by
  cases hNext : system.toBackend with
  | nil => exact ⟨system, by simp only [step, hNext], hInv, rfl⟩
  | cons packet rest =>
      obtain ⟨hLt, hPacket, -⟩ := drop_eq_cons hNext
      have hMem := List.mem_of_getElem? hPacket
      obtain ⟨backend, hStep, hTracked, hSame, hAnnounced⟩ : ∃ backend,
          system.backend.handlePacket packet = some backend ∧ backend.Tracked ∧
            backend.nextHandle = system.backend.nextHandle ∧
            Announced system.backend.sent backend.sent system.backend.handles backend.handles := by
        cases packet with
        | setPlayerIndex handle value =>
            exact hInv.backend.receive (hInv.frontend.sentNonzero _ hMem) value
        | connect handle data => exact ⟨_, rfl, hInv.backend, rfl, .none rfl rfl⟩
        | disconnect handle => exact ⟨_, rfl, hInv.backend, rfl, .none rfl rfl⟩
        | inputState handle data => exact ⟨_, rfl, hInv.backend, rfl, .none rfl rfl⟩
        | pausePressed handle => exact ⟨_, rfl, hInv.backend, rfl, .none rfl rfl⟩
      -- no packet makes the backend send one
      have hInv' := hInv.backend_step hTracked hAnnounced
      refine ⟨{ system with
        backend := backend
        backendProcessed := system.backendProcessed + 1 }, ?_, ?_, hSame⟩
      · simp only [step, hNext, hStep]
        rfl
      · exact ⟨hTracked, hInv.frontend, hLt, hInv'.frontendProcessed, hInv'.inFlight⟩

theorem Inv.deviceAttached (hInv : system.Inv) (platform : HIDPad.Platform) (aName : String)
    (hRoom : Backend.recognised aName = true → system.backend.nextHandle.toNat + 1 < 2 ^ 32) :
    ∃ system', system.step (.deviceAttached platform aName) = some system' ∧ system'.Inv ∧
      system'.backend.nextHandle.toNat = system.backend.nextHandle.toNat +
        if Backend.recognised aName then 1 else 0 := by
  obtain ⟨driver, hConnect⟩ := HIDPad.connect_isSome platform aName
  have hAttaches := Backend.connect_attaches hConnect
  obtain ⟨hTracked, hAnnounced⟩ :=
    hInv.backend.construct driver fun h => hRoom (hAttaches.symm.trans h)
  refine ⟨_, ?_, hInv.backend_step hTracked hAnnounced, ?_⟩
  · simp only [step, Backend.deviceAttached, hConnect, Option.bind_eq_bind, Option.bind_some]
    rfl
  · show (system.backend.construct driver).nextHandle.toNat = _
    rw [← hAttaches]
    cases h : driver.attaches
    · rw [Backend.construct_plain h]
      rfl
    · rw [Backend.construct_attached h]
      exact Backend.nextHandle_succ (hRoom (hAttaches.symm.trans h))

/-- Every event completes and keeps the invariant, as long as handles last. -/
theorem Inv.step (hInv : system.Inv) (event : Event)
    (hRoom : system.backend.nextHandle.toNat + event.attaches ≤ 2 ^ 32 - 2) :
    ∃ system', system.step event = some system' ∧ system'.Inv ∧
      system'.backend.nextHandle.toNat =
        system.backend.nextHandle.toNat + event.attaches := by
  cases event with
  | deviceAttached platform aName =>
      refine hInv.deviceAttached platform aName fun hRecognised => ?_
      rw [Event.attaches, if_pos hRecognised] at hRoom
      omega
  | deviceRemoved address =>
      obtain ⟨hTracked, hAnnounced⟩ := hInv.backend.deviceRemoved address
      refine ⟨_, rfl, hInv.backend_step hTracked hAnnounced, ?_⟩
      exact congrArg UInt32.toNat (Backend.deviceRemoved_nextHandle address _)
  | driverSendsState address aData =>
      cases hLive : system.liveDriver address with
      | none => exact ⟨system, by simp only [System.step, hLive], hInv, rfl⟩
      | some interface =>
          obtain ⟨hAt, hAttached⟩ := liveDriver_eq_some.mp hLive
          obtain ⟨hTracked, hAnnounced⟩ := hInv.backend.sendControllerState hAt hAttached aData
          exact ⟨_, by simp only [System.step, hLive], hInv.backend_step hTracked hAnnounced, rfl⟩
  | driverSendsPause address =>
      cases hLive : system.liveDriver address with
      | none => exact ⟨system, by simp only [System.step, hLive], hInv, rfl⟩
      | some interface =>
          obtain ⟨hAt, hAttached⟩ := liveDriver_eq_some.mp hLive
          obtain ⟨hTracked, hAnnounced⟩ := hInv.backend.sendPausePressed hAt hAttached
          exact ⟨_, by simp only [System.step, hLive], hInv.backend_step hTracked hAnnounced, rfl⟩
  | frontendProcesses =>
      obtain ⟨system', hStep, hInv', hNext⟩ := hInv.frontendProcesses
      exact ⟨system', hStep, hInv', congrArg UInt32.toNat hNext⟩
  | appSetsPlayerIndex tweak index =>
      obtain ⟨hValid, hHandles, hSent⟩ := hInv.frontend.setPlayerIndex tweak index
      refine ⟨_, rfl, ⟨hInv.backend, hValid, hInv.backendProcessed.trans hSent.length_le,
        hInv.frontendProcessed, ?_⟩, rfl⟩
      rw [hHandles]
      exact hInv.inFlight
  | backendProcesses =>
      obtain ⟨system', hStep, hInv', hNext⟩ := hInv.backendProcesses
      exact ⟨system', hStep, hInv', congrArg UInt32.toNat hNext⟩

/-- In every interleaving with fewer than 2^32 - 2 attached devices every event
completes, and the two sides agree. -/
theorem backend_frontend_agree (events : List Event)
    (hFew : (events.map Event.attaches).sum < 2 ^ 32 - 2) :
    ∃ system, run System.step initial events = some system ∧ system.Agrees := by
  have hBudget : initial.backend.nextHandle.toNat + (events.map Event.attaches).sum ≤
      2 ^ 32 - 2 := by
    rw [show initial.backend.nextHandle.toNat = 1 from rfl]
    omega
  obtain ⟨system, hRun, hInv⟩ := run_invariant_within
    (fun system => system.backend.nextHandle.toNat) Event.attaches (2 ^ 32 - 2)
    (fun system event hInv hRoom => hInv.step event hRoom) inv_initial hBudget
  exact ⟨system, hRun, hInv.agrees⟩

/-- A pad is removed while its state and an index for it are in flight. -/
theorem backend_frontend_agree_unplugged :
    ∃ system, run System.step initial
      [.deviceAttached ⟨false, fun _ => ⟨0, 0, 0, 0⟩⟩ "Wireless Controller",
        .frontendProcesses, .driverSendsState 0 .zero, .deviceRemoved 0,
        .appSetsPlayerIndex 0 2, .backendProcesses, .frontendProcesses] = some system ∧
      system.Agrees :=
  backend_frontend_agree _ (by decide)

end System
end MFiWrapper
