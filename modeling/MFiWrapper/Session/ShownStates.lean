import MFiWrapper.Backend.SameRegistry
import MFiWrapper.Library.Updates
import MFiWrapper.Session.Agreement

/-!
# The states that the controllers show

Every controller that was ever given out has the values of the last input state that the
frontend has processed under its handle, whatever was sent under other handles in
between; a controller for which no state was processed has zeros.
-/

namespace MFiWrapper
namespace System

open Library Frontend

/-- The packets that the frontend has processed. -/
def processed (system : System) : List (MFiWPacket ℚ) :=
  system.backend.sent.take system.frontendProcessed

/-- The state in a packet for a handle. -/
def stateFor (handle : UInt32) : MFiWPacket ℚ → Option (MFiWInputStatePacket ℚ)
  | .inputState other state => if other = handle then some state else none
  | .connect _ _ | .disconnect _ | .setPlayerIndex _ _ | .pausePressed _ => none

/-- The last state for a handle; without one all values are zero. -/
def lastState (handle : UInt32) (packets : List (MFiWPacket ℚ)) : MFiWInputStatePacket ℚ :=
  (packets.filterMap (stateFor handle)).getLast?.getD .zero

/-- The elements have read the state. -/
def Reads (tweak : GCController) (state : MFiWInputStatePacket ℚ) : Prop :=
  tweak.tweakElements.map GCControllerElement.values = MFiButtons.all.map (fieldsOf state)

/-- Handles are numbers given out in order, and the controllers are those of the processed
`Connect` packets, with the last processed states. -/
structure Current (system : System) : Prop where
  positive : 0 < system.backend.nextHandle.toNat
  numbered : (system.backend.sent.filterMap Backend.connectHandle).map UInt32.toNat =
    List.range' 1 (system.backend.nextHandle.toNat - 1)
  owners : system.frontend.created.map GCController.tweakHandle =
    system.processed.filterMap Backend.connectHandle
  about : ∀ packet ∈ system.processed,
    packet.handle ∈ system.frontend.created.map GCController.tweakHandle
  values : ∀ tweak ∈ system.frontend.created,
    Reads tweak (lastState tweak.tweakHandle system.processed)

theorem current_initial : initial.Current := by
  constructor <;> simp [initial, processed, Backend.initial, State.initial, State.startup]

/-- Handles are given out once. -/
theorem Current.nodup {system : System} (hCurrent : system.Current) :
    (system.backend.sent.filterMap Backend.connectHandle).Nodup := by
  refine List.Nodup.of_map UInt32.toNat ?_
  rw [hCurrent.numbered]
  exact List.nodup_range'

/-- No two controllers have the same handle. -/
theorem Current.owners_nodup {system : System} (hCurrent : system.Current) :
    (system.frontend.created.map GCController.tweakHandle).Nodup := by
  rw [hCurrent.owners]
  exact hCurrent.nodup.sublist ((List.take_sublist _ _).filterMap _)

/-! ## States -/

theorem lastState_append_other {handle : UInt32} {packet : MFiWPacket ℚ}
    (hOther : stateFor handle packet = none) (packets : List (MFiWPacket ℚ)) :
    lastState handle (packets ++ [packet]) = lastState handle packets := by
  have hNone : [packet].filterMap (stateFor handle) = [] := by
    rw [List.filterMap_cons, hOther]
    rfl
  rw [lastState, List.filterMap_append, hNone, List.append_nil, lastState]

theorem lastState_append_self (handle : UInt32) (state : MFiWInputStatePacket ℚ)
    (packets : List (MFiWPacket ℚ)) :
    lastState handle (packets ++ [.inputState handle state]) = state := by
  have hOne : [MFiWPacket.inputState handle state].filterMap (stateFor handle) = [state] := by
    rw [List.filterMap_cons, stateFor, if_pos rfl]
    rfl
  rw [lastState, List.filterMap_append, hOne, List.getLast?_concat]
  rfl

theorem stateFor_eq_none {handle : UInt32} {packet : MFiWPacket ℚ}
    (hOther : packet.handle ≠ handle) : stateFor handle packet = none := by
  cases packet with
  | inputState other state => exact if_neg hOther
  | connect _ _ | disconnect _ | setPlayerIndex _ _ | pausePressed _ => rfl

/-- Nothing was sent under the handle. -/
theorem lastState_unseen {handle : UInt32} {packets : List (MFiWPacket ℚ)}
    (hUnseen : ∀ packet ∈ packets, packet.handle ≠ handle) : lastState handle packets = .zero := by
  have hNone : packets.filterMap (stateFor handle) = [] := by
    rw [List.filterMap_eq_nil_iff]
    exact fun packet hMem => stateFor_eq_none (hUnseen packet hMem)
  rw [lastState, hNone]
  rfl

/-- A new controller has zeros. -/
theorem controllerForHandle_reads (handle : UInt32) (data : MFiWConnectPacket) :
    Reads (controllerForHandle handle data) .zero := rfl

/-! ## Steps -/

variable {system : System}

/-- The backend has moved on. -/
theorem Current.backend_step (hCurrent : system.Current)
    (hProcessed : system.frontendProcessed ≤ system.backend.sent.length) {backend : Backend}
    {packets : List (MFiWPacket ℚ)} (hSent : backend.sent = system.backend.sent ++ packets)
    (hNext : system.backend.nextHandle.toNat ≤ backend.nextHandle.toNat)
    (hPackets : (packets.filterMap Backend.connectHandle).map UInt32.toNat =
      List.range' system.backend.nextHandle.toNat
        (backend.nextHandle.toNat - system.backend.nextHandle.toNat)) :
    ({ system with backend := backend } : System).Current := by
  have hPositive := hCurrent.positive
  have hSame : ({ system with backend := backend } : System).processed = system.processed := by
    rw [processed, hSent]
    exact List.take_append_of_le_length hProcessed
  constructor
  · exact hPositive.trans_le hNext
  · show (backend.sent.filterMap Backend.connectHandle).map UInt32.toNat =
      List.range' 1 (backend.nextHandle.toNat - 1)
    have hStart : system.backend.nextHandle.toNat = 1 + (system.backend.nextHandle.toNat - 1) := by
      omega
    rw [hSent, List.filterMap_append, List.map_append, hCurrent.numbered, hPackets]
    calc List.range' 1 (system.backend.nextHandle.toNat - 1) ++
          List.range' system.backend.nextHandle.toNat
            (backend.nextHandle.toNat - system.backend.nextHandle.toNat)
        = List.range' 1 (system.backend.nextHandle.toNat - 1) ++
          List.range' (1 + (system.backend.nextHandle.toNat - 1))
            (backend.nextHandle.toNat - system.backend.nextHandle.toNat) := by rw [← hStart]
      _ = List.range' 1 (backend.nextHandle.toNat - 1) := by
        rw [List.range'_append_1]
        congr 1
        omega
  · rw [hSame]
    exact hCurrent.owners
  · rw [hSame]
    exact hCurrent.about
  · rw [hSame]
    exact hCurrent.values

/-- A backend that sends no `Connect` packet. -/
theorem Current.backend_quiet (hCurrent : system.Current)
    (hProcessed : system.frontendProcessed ≤ system.backend.sent.length) {backend : Backend}
    {packets : List (MFiWPacket ℚ)} (hSent : backend.sent = system.backend.sent ++ packets)
    (hNone : packets.filterMap Backend.connectHandle = [])
    (hNext : backend.nextHandle = system.backend.nextHandle) :
    ({ system with backend := backend } : System).Current := by
  refine hCurrent.backend_step hProcessed hSent (by rw [hNext]) ?_
  rw [hNone, hNext, Nat.sub_self]
  rfl

/-- The frontend has processed a packet. -/
theorem processed_succ {packet : MFiWPacket ℚ} {rest : List (MFiWPacket ℚ)}
    (hNext : system.toFrontend = packet :: rest) (frontend : State) :
    ({ system with
      frontend := frontend
      frontendProcessed := system.frontendProcessed + 1 } : System).processed =
      system.processed ++ [packet] := by
  obtain ⟨-, hPacket, -⟩ := drop_eq_cons hNext
  rw [processed, List.take_add_one, hPacket]
  rfl

/-- A packet that leaves the controllers as they are. -/
theorem Current.process_quiet (hCurrent : system.Current) {packet : MFiWPacket ℚ}
    {rest : List (MFiWPacket ℚ)} (hNext : system.toFrontend = packet :: rest) {frontend : State}
    (hCreated : frontend.created = system.frontend.created)
    (hConnect : Backend.connectHandle packet = none)
    (hState : ∀ handle, stateFor handle packet = none)
    (hHandle : packet.handle ∈ system.frontend.created.map GCController.tweakHandle) :
    ({ system with
      frontend := frontend
      frontendProcessed := system.frontendProcessed + 1 } : System).Current := by
  have hProcessed := processed_succ hNext frontend
  refine ⟨hCurrent.positive, hCurrent.numbered, ?_, ?_, ?_⟩
  · show frontend.created.map GCController.tweakHandle = _
    rw [hProcessed, hCreated, hCurrent.owners, List.filterMap_append, List.filterMap_cons, hConnect]
    exact (List.append_nil _).symm
  · show ∀ other : MFiWPacket ℚ, other ∈ _ →
      other.handle ∈ frontend.created.map GCController.tweakHandle
    rw [hProcessed, hCreated]
    exact List.forall_mem_append.mpr ⟨hCurrent.about, List.forall_mem_singleton.mpr hHandle⟩
  · show ∀ tweak ∈ frontend.created, _
    rw [hProcessed, hCreated]
    intro tweak hMem
    rw [lastState_append_other (hState _)]
    exact hCurrent.values tweak hMem

/-- The handles in the array are handles of controllers. -/
theorem handle_created (hValid : system.frontend.Valid) {handle : UInt32}
    (hMem : handle ∈ system.frontend.handles) :
    handle ∈ system.frontend.created.map GCController.tweakHandle := by
  obtain ⟨ref, tweak, -, hTweak, rfl⟩ := hValid.tweak_eq_some hMem
  exact List.mem_map_of_mem (List.mem_of_getElem? hTweak)

theorem disconnect_created {handle : UInt32} {frontend frontend' : State}
    (hStep : frontend.handlePacketDisconnect handle = some frontend') :
    frontend'.created = frontend.created := by
  unfold State.handlePacketDisconnect at hStep
  split at hStep
  · rw [← Option.some.inj hStep]
  · obtain ⟨i, -, hRest⟩ := Option.bind_eq_some_iff.mp hStep
    obtain ⟨tweak, -, hReturn⟩ := Option.bind_eq_some_iff.mp hRest
    rw [← Option.some.inj hReturn]

theorem Current.connect (hCurrent : system.Current) {handle : UInt32} {data : MFiWConnectPacket}
    {rest : List (MFiWPacket ℚ)} (hNext : system.toFrontend = .connect handle data :: rest) :
    ({ system with
      frontend := system.frontend.handlePacketConnect handle data
      frontendProcessed := system.frontendProcessed + 1 } : System).Current := by
  have hProcessed := processed_succ hNext (system.frontend.handlePacketConnect handle data)
  have hCreated := State.handlePacketConnect_created handle data system.frontend
  -- the handle has not been given out before
  have hFresh : handle ∉ system.frontend.created.map GCController.tweakHandle := by
    obtain ⟨hLt, hPacket, -⟩ := drop_eq_cons hNext
    have hSplit : system.backend.sent = system.processed ++ .connect handle data :: rest := by
      rw [processed, ← hNext, toFrontend, List.take_append_drop]
    have hNodup := hCurrent.nodup
    rw [hSplit, List.filterMap_append, List.filterMap_cons] at hNodup
    rw [hCurrent.owners]
    exact fun hOld => List.disjoint_of_nodup_append hNodup hOld List.mem_cons_self
  refine ⟨hCurrent.positive, hCurrent.numbered, ?_, ?_, ?_⟩
  · show (system.frontend.handlePacketConnect handle data).created.map _ = _
    rw [hProcessed, hCreated, List.map_append, hCurrent.owners, List.filterMap_append]
    rfl
  · show ∀ other : MFiWPacket ℚ, other ∈ _ → other.handle ∈
      (system.frontend.handlePacketConnect handle data).created.map GCController.tweakHandle
    rw [hProcessed, hCreated, List.map_append]
    refine List.forall_mem_append.mpr ⟨fun other hMem => ?_, ?_⟩
    · exact List.mem_append_left _ (hCurrent.about other hMem)
    · exact List.forall_mem_singleton.mpr (List.mem_append_right _ (List.mem_singleton.mpr rfl))
  · show ∀ tweak ∈ (system.frontend.handlePacketConnect handle data).created, _
    rw [hProcessed, hCreated]
    refine List.forall_mem_append.mpr ⟨fun tweak hMem => ?_, ?_⟩
    · rw [lastState_append_other (by rfl)]
      exact hCurrent.values tweak hMem
    · refine List.forall_mem_singleton.mpr ?_
      rw [lastState_append_other (by rfl), lastState_unseen fun other hMem hSame => ?_]
      · exact controllerForHandle_reads handle data
      · have hOld := hCurrent.about other hMem
        rw [hSame] at hOld
        exact hFresh hOld

theorem Current.inputState (hCurrent : system.Current) (hValid : system.frontend.Valid)
    {handle : UInt32} {data : MFiWInputStatePacket ℚ} {rest : List (MFiWPacket ℚ)}
    (hNext : system.toFrontend = .inputState handle data :: rest)
    (hMem : handle ∈ system.frontend.handles) {frontend : State}
    (hStep : system.frontend.handlePacketInputState handle data = some frontend) :
    ({ system with
      frontend := frontend
      frontendProcessed := system.frontendProcessed + 1 } : System).Current := by
  have hProcessed := processed_succ hNext frontend
  obtain ⟨ref, tweak, hRef, hTweak, hHandle⟩ := hValid.tweak_eq_some hMem
  obtain ⟨elements, calls, hUpdate, -, hValues⟩ :=
    (hValid.wellFormed tweak (List.mem_of_getElem? hTweak)).tweakUpdateButtons data
  have hCreated : frontend.created =
      system.frontend.created.set ref { tweak with tweakElements := elements } := by
    simp only [State.handlePacketInputState, hRef, hTweak, Option.bind_eq_bind, Option.bind_some,
      hUpdate, Option.pure_def, Option.some.injEq] at hStep
    rw [← hStep]
  have hOwners : frontend.created.map GCController.tweakHandle =
      system.frontend.created.map GCController.tweakHandle := by
    rw [hCreated]
    exact map_set_of_same hTweak rfl
  have hDistinct := hCurrent.owners_nodup
  refine ⟨hCurrent.positive, hCurrent.numbered, ?_, ?_, ?_⟩
  · show frontend.created.map GCController.tweakHandle = _
    rw [hProcessed, hOwners, hCurrent.owners, List.filterMap_append]
    exact (List.append_nil _).symm
  · show ∀ other : MFiWPacket ℚ, other ∈ _ →
      other.handle ∈ frontend.created.map GCController.tweakHandle
    rw [hProcessed, hOwners]
    exact List.forall_mem_append.mpr
      ⟨hCurrent.about, List.forall_mem_singleton.mpr (handle_created hValid hMem)⟩
  · show ∀ tweak ∈ frontend.created, _
    rw [hProcessed]
    intro other hOther
    obtain ⟨i, hAt⟩ := List.mem_iff_getElem?.mp hOther
    rw [hCreated, List.getElem?_set] at hAt
    split_ifs at hAt with hSame hLt
    · -- the controller that was found
      obtain rfl := Option.some.inj hAt
      show Reads _ (lastState tweak.tweakHandle _)
      rw [hHandle, lastState_append_self]
      exact hValues
    · have hNe : handle ≠ other.tweakHandle := by
        intro hEqual
        refine hSame ?_
        have hFirst : (system.frontend.created.map GCController.tweakHandle)[ref]? =
            some handle := by rw [List.getElem?_map, hTweak, ← hHandle]; rfl
        have hSecond : (system.frontend.created.map GCController.tweakHandle)[i]? =
            some handle := by rw [List.getElem?_map, hAt, hEqual]; rfl
        obtain ⟨hLt, -⟩ := List.getElem?_eq_some_iff.mp hFirst
        exact (List.getElem?_inj hLt hDistinct).mp (hFirst.trans hSecond.symm)
      have hNone : stateFor other.tweakHandle (.inputState handle data) = none :=
        stateFor_eq_none hNe
      rw [lastState_append_other hNone]
      exact hCurrent.values other (List.mem_of_getElem? hAt)

/-- The application assigns a player index. -/
theorem Current.setPlayerIndex (hCurrent : system.Current) (ref : ControllerRef) (index : Int64) :
    ({ system with frontend := system.frontend.setPlayerIndex ref index } : System).Current := by
  cases hTweak : system.frontend.created[ref]? with
  | none =>
      have hSame : system.frontend.setPlayerIndex ref index = system.frontend := by
        simp only [State.setPlayerIndex, hTweak]
      rw [hSame]
      exact hCurrent
  | some tweak =>
      have hCreated : (system.frontend.setPlayerIndex ref index).created =
          system.frontend.created.set ref { tweak with playerIndex := index } := by
        simp only [State.setPlayerIndex, hTweak, State.setControllerIndex_created]
      have hOwners : (system.frontend.setPlayerIndex ref index).created.map
          GCController.tweakHandle = system.frontend.created.map GCController.tweakHandle := by
        rw [hCreated]
        exact map_set_of_same hTweak rfl
      refine ⟨hCurrent.positive, hCurrent.numbered, hOwners.trans hCurrent.owners, ?_, ?_⟩
      · show ∀ packet : MFiWPacket ℚ, packet ∈ _ → packet.handle ∈
          (system.frontend.setPlayerIndex ref index).created.map GCController.tweakHandle
        rw [hOwners]
        exact hCurrent.about
      · show ∀ other ∈ (system.frontend.setPlayerIndex ref index).created, _
        rw [hCreated]
        intro other hOther
        rcases List.mem_or_eq_of_mem_set hOther with hOld | rfl
        · exact hCurrent.values other hOld
        · exact hCurrent.values tweak (List.mem_of_getElem? hTweak)

/-- The frontend processes the next packet. -/
theorem Current.frontendProcesses (hCurrent : system.Current) (hInv : system.Inv)
    {system' : System} (hStep : system.step .frontendProcesses = some system') :
    system'.Current := by
  cases hNext : system.toFrontend with
  | nil =>
      simp only [step, hNext, Option.some.injEq] at hStep
      exact hStep ▸ hCurrent
  | cons packet rest =>
      simp only [step, hNext] at hStep
      obtain ⟨frontend, hHandle, hSystem⟩ := Option.bind_eq_some_iff.mp hStep
      obtain rfl := Option.some.inj hSystem
      obtain ⟨handles, hAnnounces, -⟩ := (hNext ▸ hInv.inFlight).next
      have hValid := hInv.frontend
      cases hAnnounces with
      | connect data hNonzero hFresh =>
          obtain rfl := Option.some.inj hHandle
          exact hCurrent.connect hNext
      | disconnect hMem =>
          exact hCurrent.process_quiet hNext (disconnect_created hHandle) rfl (fun _ => rfl)
            (handle_created hValid hMem)
      | inputState data hMem => exact hCurrent.inputState hValid hNext hMem hHandle
      | pausePressed hMem =>
          obtain rfl := Option.some.inj hHandle
          refine hCurrent.process_quiet hNext ?_ rfl (fun _ => rfl) (handle_created hValid hMem)
          unfold State.handlePacketPausePressed
          split
          · rfl
          · split_ifs <;> rfl

theorem Current.deviceAttached (hCurrent : system.Current) (hInv : system.Inv)
    {platform : HIDPad.Platform} {aName : String}
    (hRoom : Backend.recognised aName = true → system.backend.nextHandle.toNat + 1 < 2 ^ 32)
    {system' : System} (hStep : system.step (.deviceAttached platform aName) = some system') :
    system'.Current := by
  obtain ⟨backend, hBackend, hSystem⟩ := Option.bind_eq_some_iff.mp hStep
  obtain ⟨driver, hConnect, hConstruct⟩ := Option.bind_eq_some_iff.mp hBackend
  obtain rfl := Option.some.inj hSystem
  obtain rfl : system.backend.construct driver = backend := Option.some.inj hConstruct
  have hAttaches := Backend.connect_attaches hConnect
  cases hKnown : driver.attaches with
  | false =>
      have hSent : (system.backend.construct driver).sent = system.backend.sent ++ [] := by
        rw [Backend.construct_plain hKnown, List.append_nil]
      refine hCurrent.backend_quiet hInv.frontendProcessed hSent rfl ?_
      rw [Backend.construct_plain hKnown]
  | true =>
      have hNext : (system.backend.construct driver).nextHandle.toNat =
          system.backend.nextHandle.toNat + 1 := by
        rw [Backend.construct_attached hKnown]
        exact Backend.nextHandle_succ (hRoom (hAttaches.symm.trans hKnown))
      have hSent : (system.backend.construct driver).sent = system.backend.sent ++
          [.connect system.backend.nextHandle (Backend.connectPacket driver)] := by
        rw [Backend.construct_attached hKnown]
      refine hCurrent.backend_step hInv.frontendProcessed hSent (hNext.symm ▸ Nat.le_succ _) ?_
      rw [hNext, Nat.add_sub_cancel_left]
      rfl

theorem Current.deviceRemoved (hCurrent : system.Current) (hInv : system.Inv) (address : Nat) :
    ({ system with backend := system.backend.deviceRemoved address } : System).Current := by
  obtain ⟨packets, hSent, hConnects⟩ : ∃ packets,
      (system.backend.deviceRemoved address).sent = system.backend.sent ++ packets ∧
        packets.filterMap Backend.connectHandle = [] := by
    unfold Backend.deviceRemoved Backend.detachController
    split
    · exact ⟨[], (List.append_nil _).symm, rfl⟩
    · dsimp only
      split_ifs
      · exact ⟨_, rfl, rfl⟩
      · exact ⟨[], (List.append_nil _).symm, rfl⟩
  exact hCurrent.backend_quiet hInv.frontendProcessed hSent hConnects
    (Backend.deviceRemoved_nextHandle address _)

/-- The backend processes the next packet. -/
theorem Current.backendProcesses (hCurrent : system.Current) (hInv : system.Inv)
    {system' : System} (hStep : system.step .backendProcesses = some system') :
    system'.Current := by
  cases hNext : system.toBackend with
  | nil =>
      simp only [step, hNext, Option.some.injEq] at hStep
      exact hStep ▸ hCurrent
  | cons packet rest =>
      simp only [step, hNext] at hStep
      obtain ⟨backend, hHandle, hSystem⟩ := Option.bind_eq_some_iff.mp hStep
      obtain rfl := Option.some.inj hSystem
      obtain ⟨hSent, hSame⟩ : backend.sent = system.backend.sent ++ [] ∧
          backend.nextHandle = system.backend.nextHandle := by
        rw [List.append_nil]
        cases packet with
        | setPlayerIndex handle value =>
            by_cases hMem : handle ∈ system.backend.handles
            · have hOther := Backend.handlePacket_same hInv.backend hMem hHandle
              exact ⟨hOther.sent, hOther.nextHandle⟩
            · rw [Backend.handlePacket_stray hInv.backend hMem] at hHandle
              rw [← Option.some.inj hHandle]
              exact ⟨rfl, rfl⟩
        | connect _ _ | disconnect _ | inputState _ _ | pausePressed _ =>
            rw [← Option.some.inj hHandle]
            exact ⟨rfl, rfl⟩
      obtain ⟨hPositive, hNumbered, hOwners, hAbout, hValues⟩ :=
        hCurrent.backend_quiet hInv.frontendProcessed hSent rfl hSame
      exact ⟨hPositive, hNumbered, hOwners, hAbout, hValues⟩

/-- Every event keeps the controllers current. -/
theorem Current.step (hCurrent : system.Current) (hInv : system.Inv) {event : Event}
    (hRoom : system.backend.nextHandle.toNat + event.attaches ≤ 2 ^ 32 - 2) {system' : System}
    (hStep : system.step event = some system') : system'.Current := by
  have hProcessed := hInv.frontendProcessed
  cases event with
  | deviceAttached platform aName =>
      refine hCurrent.deviceAttached hInv (fun hRecognised => ?_) hStep
      rw [Event.attaches, if_pos hRecognised] at hRoom
      omega
  | deviceRemoved address =>
      obtain rfl := Option.some.inj hStep
      exact hCurrent.deviceRemoved hInv address
  | driverSendsState _ _ | driverSendsPause _ =>
      simp only [System.step] at hStep
      split at hStep
      · exact Option.some.inj hStep ▸ hCurrent
      · obtain rfl := Option.some.inj hStep
        exact hCurrent.backend_quiet hProcessed rfl rfl rfl
  | frontendProcesses => exact hCurrent.frontendProcesses hInv hStep
  | appSetsPlayerIndex tweak index =>
      obtain rfl := Option.some.inj hStep
      exact hCurrent.setPlayerIndex tweak index
  | backendProcesses => exact hCurrent.backendProcesses hInv hStep

end System
end MFiWrapper
