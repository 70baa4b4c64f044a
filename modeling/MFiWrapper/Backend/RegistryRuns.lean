import MFiWrapper.Backend.Registry

/-!
# The device registry over whole runs

When the map of devices holds exactly the attached interfaces, in every run of
attaches, removals and player-index packets.
-/

namespace MFiWrapper
namespace Backend

open Library HIDPad

/-- What can happen to the registry. -/
inductive Event
  | deviceAttached (platform : Platform) (aName : String)
  | deviceRemoved (address : Nat)
  /-- A `SetPlayerIndex` packet arrives. -/
  | received (handle : UInt32) (value : Int32)

def step (backend : Backend) : Event → Option Backend
  | .deviceAttached platform aName => backend.deviceAttached platform aName
  | .deviceRemoved address => some (backend.deviceRemoved address)
  | .received handle value => backend.handlePacket (.setPlayerIndex handle value)

/-- The handle of a `Connect` packet. -/
def connectHandle : MFiWPacket ℚ → Option UInt32
  | .connect handle _ => some handle
  | _ => none

/-- The handle of a `Disconnect` packet. -/
def disconnectHandle : MFiWPacket ℚ → Option UInt32
  | .disconnect handle => some handle
  | _ => none

/-- The map has exactly the handles of the interfaces attached and not yet
detached as keys, each with its interface; and of every handle as many
`Disconnect` packets were sent as interfaces attached under it were removed. -/
structure RegistryAgrees (backend : Backend) : Prop where
  devices : Holds backend.devices (backend.entries.map fun entry => (entry.1, some entry.2))
  balance : ∀ handle,
    (backend.sent.filterMap disconnectHandle).count handle + backend.handles.count handle =
      (backend.sent.filterMap connectHandle).count handle

/-- The name belongs to one of the four drivers. -/
def recognised (aName : String) : Bool :=
  strstr aName "PLAYSTATION(R)3 Controller" || strstr aName "Nintendo RVL-CNT-01-UC" ||
    strstr aName "Nintendo RVL-CNT-01" || strstr aName "Wireless Controller"

/-- The steps that respect the registry: player indices are received for
attached interfaces only; and a handle is not given out, nor handle 0 erased
for a plain interface, while an interface is attached under it (which takes
2^32 attaches). -/
def Respects (backend : Backend) : Event → Prop
  | .deviceAttached _ aName => recognised aName → backend.nextHandle ∉ backend.handles
  | .deviceRemoved address => ∀ interface, backend.interfaceAt address = some interface →
      interface.attached = false → 0 ∉ backend.handles
  | .received handle _ => handle ∈ backend.handles

theorem connect_attaches {platform : Platform} {aName : String} {driver : Driver}
    (hConnect : HIDPad.connect platform aName = some driver) :
    driver.attaches = recognised aName := by
  unfold HIDPad.connect at hConnect
  unfold recognised
  split_ifs at hConnect with hPS3 hUC hWii hDS4
  · cases hConnect
    simp [hPS3, Driver.attaches]
  · cases hConnect
    simp [hUC, Driver.attaches]
  · obtain ⟨result, -, hDriver⟩ := Option.bind_eq_some_iff.mp hConnect
    cases hDriver
    simp [hWii, Driver.attaches]
  · cases hConnect
    simp [hDS4, Driver.attaches]
  · cases hConnect
    simp [hPS3, hUC, hWii, hDS4, Driver.attaches]

variable {backend backend' : Backend}

/-- The entries of the map. -/
def stored (backend : Backend) : List (UInt32 × Option Nat) :=
  backend.entries.map fun entry => (entry.1, some entry.2)

theorem stored_keys (backend : Backend) : backend.stored.map Prod.fst = backend.handles := by
  rw [stored, handles, List.map_map]
  rfl

/-- When the map agrees, an attached interface is determined by its handle. -/
theorem entry_unique (hHolds : Holds backend.devices backend.stored) {handle : UInt32}
    {address address' : Nat} (hEntry : (handle, address) ∈ backend.entries)
    (hEntry' : (handle, address') ∈ backend.entries) : address = address' := by
  have hStored {a : Nat} (h : (handle, a) ∈ backend.entries) :
      (handle, some a) ∈ backend.stored := List.mem_map.mpr ⟨_, h, rfl⟩
  exact Option.some.inj (hHolds.unique (hStored hEntry) (hStored hEntry'))

theorem handles_nodup (hSound : backend.Sound) (hHolds : Holds backend.devices backend.stored) :
    backend.handles.Nodup := by
  refine (List.nodup_map_iff_inj_on (entries_addresses_nodup hSound).of_map).mpr ?_
  rintro ⟨handle, address⟩ hEntry ⟨_, address'⟩ hEntry' rfl
  rw [entry_unique hHolds hEntry hEntry']

/-! ## The three kinds of steps -/

theorem RegistryAgrees.construct (hAgrees : RegistryAgrees backend) {driver : Driver}
    (hFresh : driver.attaches = true → backend.nextHandle ∉ backend.handles) :
    RegistryAgrees (backend.construct driver) := by
  cases hAttaches : driver.attaches
  · constructor
    · rw [entries_construct_plain hAttaches, construct_plain hAttaches]
      exact hAgrees.devices
    · intro handle
      rw [handles, entries_construct_plain hAttaches, construct_plain hAttaches]
      exact hAgrees.balance handle
  · have hNone : backend.devices backend.nextHandle = none := by
      rw [hAgrees.devices.eq_none_iff, List.map_map]
      exact hFresh hAttaches
    constructor
    · rw [entries_construct_attached hAttaches, construct_attached hAttaches, List.map_append]
      exact hAgrees.devices.insert hNone _
    · intro handle
      have hOld := hAgrees.balance handle
      rw [handles_construct_attached hAttaches, construct_attached hAttaches,
        List.filterMap_append, List.filterMap_append, List.count_append,
        List.count_append, List.count_append]
      show _ + List.count handle [] + (List.count handle backend.handles +
        List.count handle [backend.nextHandle]) = _ + List.count handle [backend.nextHandle]
      rw [List.count_nil]
      omega

/-- The map has a key that no attached interface has, or the other way round. -/
theorem not_agrees_of_reused (hSound : backend.Sound) {driver : Driver}
    (hAttaches : driver.attaches = true) (hReused : backend.nextHandle ∈ backend.handles) :
    ¬ RegistryAgrees (backend.construct driver) := by
  rintro ⟨hHolds, -⟩
  obtain ⟨⟨_, address⟩, hEntry, rfl⟩ := List.mem_map.mp hReused
  obtain ⟨interface, hMem, -, -, rfl⟩ := mem_entries.mp hEntry
  rw [entries_construct_attached hAttaches, construct_attached hAttaches] at hHolds
  have hStale : (backend.nextHandle, some interface.address) ∈
      (backend.entries ++ [(backend.nextHandle, backend.allocated)]).map
        (fun entry => (entry.1, some entry.2)) :=
    List.mem_map.mpr ⟨_, List.mem_append_left _ hEntry, rfl⟩
  refine not_holds_of_stale hStale ?_ hHolds
  simpa using (hSound.fresh interface hMem).ne

/-- Removing an attached interface takes its handle out of the map. -/
theorem RegistryAgrees.remove_attached (hSound : backend.Sound) (hAgrees : RegistryAgrees backend)
    {address : Nat} {interface : Interface} (hLive : backend.interfaceAt address = some interface)
    (hAttached : interface.attached = true) : RegistryAgrees (backend.deviceRemoved address) := by
  have hNodup := handles_nodup hSound hAgrees.devices
  have hEntry := entry_of_live hSound hLive hAttached
  have hHandle : interface.handle ∈ backend.handles := mem_handles.mpr ⟨address, hEntry⟩
  have hSome : (backend.devices interface.handle).isSome := by
    rw [hAgrees.devices.isSome_iff]
    show _ ∈ backend.stored.map Prod.fst
    rwa [stored_keys]
  have hDevices : (backend.deviceRemoved address).devices =
      Function.update backend.devices interface.handle none := by
    rw [deviceRemoved_known hLive hSome]
  have hSent : (backend.deviceRemoved address).sent =
      backend.sent ++ [.disconnect interface.handle] := by
    rw [deviceRemoved_known hLive hSome]
  constructor
  · rw [entries_remove_attached hSound hNodup hEntry, hDevices]
    have hErase := hAgrees.devices.erase interface.handle
    rwa [List.filter_map] at hErase
  · intro handle
    have hOld := hAgrees.balance handle
    have hConnect : [MFiWPacket.disconnect interface.handle].filterMap connectHandle = [] := rfl
    have hDisconnect : [MFiWPacket.disconnect interface.handle].filterMap disconnectHandle =
        [interface.handle] := rfl
    rw [hSent, handles_remove_attached hSound hNodup hEntry, List.filterMap_append,
      List.filterMap_append, hConnect, hDisconnect, List.append_nil, List.count_append]
    by_cases hSame : handle = interface.handle
    · -- one interface fewer, one `Disconnect` packet more
      subst hSame
      rw [hNodup.count, if_pos hHandle] at hOld
      rw [List.count_singleton_self, List.count_erase_self, hNodup.count, if_pos hHandle]
      exact hOld
    · rw [List.count_singleton, if_neg (by simpa using Ne.symm hSame),
        List.count_erase_of_ne hSame]
      exact hOld

/-- Removing a plain interface does nothing while the map has no key 0. -/
theorem RegistryAgrees.remove_plain (hSound : backend.Sound) (hAgrees : RegistryAgrees backend)
    {address : Nat} {interface : Interface} (hLive : backend.interfaceAt address = some interface)
    (hPlain : interface.attached = false) (hZero : 0 ∉ backend.handles) :
    RegistryAgrees (backend.deviceRemoved address) := by
  have hHandle : interface.handle = 0 :=
    hSound.unattached interface ((interfaceAt_eq_some hSound).mp hLive).1 hPlain
  have hNone : backend.devices interface.handle = none := by
    rw [hAgrees.devices.eq_none_iff, hHandle]
    show _ ∉ backend.stored.map Prod.fst
    rwa [stored_keys]
  have hEntries := entries_remove_plain hSound hLive hPlain
  rw [deviceRemoved_unknown hLive hNone] at hEntries ⊢
  constructor
  · rw [hEntries]
    exact hAgrees.devices
  · intro handle
    rw [handles, hEntries]
    exact hAgrees.balance handle

theorem not_agrees_of_plain_removed (hSound : backend.Sound) (hAgrees : RegistryAgrees backend)
    {address : Nat} {interface : Interface} (hLive : backend.interfaceAt address = some interface)
    (hPlain : interface.attached = false) (hZero : 0 ∈ backend.handles) :
    ¬ RegistryAgrees (backend.deviceRemoved address) := by
  have hHandle : interface.handle = 0 :=
    hSound.unattached interface ((interfaceAt_eq_some hSound).mp hLive).1 hPlain
  have hSome : (backend.devices interface.handle).isSome := by
    rw [hAgrees.devices.isSome_iff, hHandle]
    show _ ∈ backend.stored.map Prod.fst
    rwa [stored_keys]
  have hDevices : (backend.deviceRemoved address).devices =
      Function.update backend.devices interface.handle none := by
    rw [deviceRemoved_known hLive hSome]
  rintro ⟨hHolds, -⟩
  rw [entries_remove_plain hSound hLive hPlain, hDevices, hHandle] at hHolds
  obtain ⟨⟨_, other⟩, hEntry, rfl⟩ := List.mem_map.mp hZero
  have hStored : (0, some other) ∈ backend.entries.map fun entry => (entry.1, some entry.2) :=
    List.mem_map.mpr ⟨_, hEntry, rfl⟩
  exact not_holds_of_erased hStored hHolds

/-- A player index for an attached interface reaches its driver. -/
theorem RegistryAgrees.receive (hSound : backend.Sound) (hAgrees : RegistryAgrees backend)
    {handle : UInt32} (hHandle : handle ∈ backend.handles) (value : Int32) :
    ∃ backend', backend.handlePacket (.setPlayerIndex handle value) = some backend' ∧
      backend'.Sound ∧ RegistryAgrees backend' := by
  obtain ⟨⟨_, address⟩, hEntry, rfl⟩ := List.mem_map.mp hHandle
  obtain ⟨interface, hMem, -, hSame, hAddress⟩ := mem_entries.mp hEntry
  have hStored := (hAgrees.devices _ (some address)).mpr (List.mem_map.mpr ⟨_, hEntry, rfl⟩)
  have hKeep : Function.update backend.devices _ (some (some address)) = backend.devices :=
    hAgrees.devices.store_same (List.mem_map.mpr ⟨_, hEntry, rfl⟩)
  obtain ⟨backend', hSet, hSameBut⟩ := setPlayerIndex_live hSound
    ((interfaceAt_eq_some hSound).mpr ⟨hMem, hAddress⟩) value
  refine ⟨backend', ?_, hSameBut.sound hSound, ?_, ?_⟩
  · simp only [handlePacket, hStored, Option.getD_some, hKeep]
    exact hSet
  · rw [hSameBut.entries, hSameBut.devices]
    exact hAgrees.devices
  · rw [handles, hSameBut.entries, hSameBut.sent]
    exact hAgrees.balance

/-- A player index for any other handle leaves a null pointer in the map. -/
theorem not_agrees_of_stray (hAgrees : RegistryAgrees backend) {handle : UInt32}
    (hStray : handle ∉ backend.handles) {value : Int32}
    (hStep : backend.handlePacket (.setPlayerIndex handle value) = some backend') :
    ¬ RegistryAgrees backend' := by
  have hMissing : handle ∉ backend.stored.map Prod.fst := by rwa [stored_keys]
  have hNone := (hAgrees.devices.eq_none_iff handle).mpr hMissing
  simp only [handlePacket, hNone, Option.getD_none, Option.some.injEq] at hStep
  subst hStep
  rintro ⟨hHolds, -⟩
  exact not_holds_of_missing hMissing hHolds

/-! ## Runs -/

/-- In every run of the backend the registry agrees with the attached interfaces
throughout if and only if every step of the run respects it. -/
theorem registryAgrees_iff_respects (events : List Event) :
    Throughout step RegistryAgrees initial events ↔ Along step Respects initial events := by
  have hGood : ∀ backend : Backend, backend.Sound ∧ RegistryAgrees backend →
      RegistryAgrees backend := fun _ h => h.2
  refine throughout_iff_along hGood ?_ ?_ ⟨sound_initial, ?_⟩ events
  · rintro backend e ⟨hSound, hAgrees⟩ hRespects
    cases e with
    | deviceAttached platform aName =>
        obtain ⟨driver, hConnect⟩ := connect_isSome platform aName
        refine ⟨backend.construct driver, by simp only [step, deviceAttached, hConnect]; rfl,
          hSound.construct driver, hAgrees.construct fun hAttaches => hRespects ?_⟩
        rw [← connect_attaches hConnect, hAttaches]
    | deviceRemoved address =>
        refine ⟨_, rfl, hSound.remove address, ?_⟩
        cases hLive : backend.interfaceAt address with
        | none =>
            rw [deviceRemoved_absent hLive]
            exact hAgrees
        | some interface =>
            cases hAttached : interface.attached
            · exact hAgrees.remove_plain hSound hLive hAttached
                (hRespects interface hLive hAttached)
            · exact hAgrees.remove_attached hSound hLive hAttached
    | received handle value => exact hAgrees.receive hSound hRespects value
  · rintro backend e ⟨hSound, hAgrees⟩ hNot backend' hStep
    cases e with
    | deviceAttached platform aName =>
        obtain ⟨hRecognised, hReused⟩ := Classical.not_imp.mp hNot
        obtain ⟨driver, hConnect, hDone⟩ := Option.bind_eq_some_iff.mp hStep
        obtain rfl : backend.construct driver = backend' := Option.some.inj hDone
        exact not_agrees_of_reused hSound ((connect_attaches hConnect).trans hRecognised)
          (not_not.mp hReused)
    | deviceRemoved address =>
        obtain rfl : backend.deviceRemoved address = backend' := Option.some.inj hStep
        simp only [Respects, not_forall, not_not] at hNot
        obtain ⟨interface, hLive, hPlain, hZero⟩ := hNot
        exact not_agrees_of_plain_removed hSound hAgrees hLive hPlain hZero
    | received handle value => exact not_agrees_of_stray hAgrees hNot hStep
  · constructor
    · exact holds_nil
    · exact fun handle => rfl

/-- A player index arrives for handle 0, which no controller has; then a device
with an unknown name comes and goes, and its removal is announced under handle
0 although nothing was attached. -/
theorem disconnect_without_connect :
    ∃ backend, run step initial
        [.received 0 0, .deviceAttached ⟨false, fun _ => ⟨0, 0, 0, 0⟩⟩ "Keyboard",
          .deviceRemoved 0] = some backend ∧
      backend.sent = [.disconnect 0] ∧ ¬ RegistryAgrees backend := by
  refine ⟨{ initial with
    devices := Function.update (Function.update initial.devices 0 (some none)) 0 none
    allocated := 1
    sent := [.disconnect 0] }, ?_, rfl, fun hAgrees => ?_⟩
  · have hConnect : HIDPad.connect ⟨false, fun _ => ⟨0, 0, 0, 0⟩⟩ "Keyboard" = some .dummy := by
      have hUnknown : recognised "Keyboard" = false := by decide
      simp only [recognised, Bool.or_eq_false_iff] at hUnknown
      simp [HIDPad.connect, hUnknown]
    simp only [run_cons, run_nil, step, deviceAttached, hConnect]
    rfl
  · have hBalance := hAgrees.balance 0
    revert hBalance
    decide

end Backend
end MFiWrapper
