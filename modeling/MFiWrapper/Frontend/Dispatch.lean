import Mathlib.Data.List.InsertIdx
import MFiWrapper.Common.Announcements
import MFiWrapper.Frontend.InputState

/-!
# `frontend.mm`: the controllers of the frontend

The array of controllers an application sees, the packets that arrive from the
backend and the packets that are sent to it.  A controller is referred to by
its position among all controllers created so far: an application may keep one
that was removed from the array.
-/

namespace MFiWrapper
namespace Frontend

open Library

/-- A position among the controllers created so far. -/
abbrev ControllerRef := Nat

/-- What an application is told. -/
inductive Notice (α : Type := ℚ)
  /-- `GCControllerDidConnectNotification`. -/
  | didConnect (tweak : ControllerRef)
  /-- `GCControllerDidDisconnectNotification`. -/
  | didDisconnect (tweak : ControllerRef)
  /-- The calls of the `valueChangedHandler`s, element by element. -/
  | valuesChanged (tweak : ControllerRef) (calls : List (List (Part × HandlerCall α)))
  /-- A call of the `controllerPausedHandler`. -/
  | paused (tweak : ControllerRef)
  deriving DecidableEq

/-- The static variables of `frontend.mm`, the controllers created so far, the
packets sent to the backend, and what the application was told.  Positions in
the array are exact: it never has 2^31 elements. -/
structure State (α : Type := ℚ) where
  created : List (GCController α)
  /-- `none` stands for `nil`. -/
  controllers : Option (List ControllerRef)
  /-- `connection` is not null. -/
  connection : Bool
  sent : List (MFiWPacket α)
  notices : List (Notice α)
  deriving DecidableEq

namespace State

variable {α : Type}

def initial : State α := ⟨[], none, false, [], []⟩

/-- `Startup`. -/
def startup (frontend : State α) : State α :=
  { frontend with controllers := some (frontend.controllers.getD []), connection := true }

/-- The elements of the array; `nil` has none. -/
def elements (frontend : State α) : List ControllerRef := frontend.controllers.getD []

def handleOf (frontend : State α) (tweak : ControllerRef) : UInt32 :=
  (frontend.created[tweak]?.map GCController.tweakHandle).getD 0

/-- `FindControllerByHandle`; `none` stands for -1. -/
def findControllerByHandle (aHandle : UInt32) (frontend : State α) : Option Nat :=
  frontend.elements.findIdx? fun tweak => frontend.handleOf tweak == aHandle

/-- `idx` in the functions that handle packets. -/
def idx (aHandle : UInt32) (frontend : State α) : Option Nat :=
  if aHandle ≠ 0 then frontend.findControllerByHandle aHandle else none

/-- `tweak` in the functions that handle packets. -/
def tweak (aHandle : UInt32) (frontend : State α) : Option ControllerRef := do
  frontend.elements[← frontend.idx aHandle]?

/-- `SetControllerIndex`. -/
def setControllerIndex (aHandle : UInt32) (aIndex : Int32) (frontend : State α) : State α :=
  if frontend.connection ∧ aHandle ≠ MFiWLocalHandle then
    { frontend with sent := frontend.sent ++ [.setPlayerIndex aHandle aIndex] }
  else frontend

/-- `setPlayerIndex:`; the index is cut to 32 bits on its way to the backend. -/
def setPlayerIndex (ref : ControllerRef) (index : Int64) (frontend : State α) : State α :=
  match frontend.created[ref]? with
  | none => frontend
  | some tweak =>
      let frontend :=
        { frontend with created := frontend.created.set ref { tweak with playerIndex := index } }
      frontend.setControllerIndex tweak.tweakHandle index.toInt32

/-- `HandlePacketConnect`.  The player index is assigned while the controller is
built, before it is added to the array; `nil` takes no elements. -/
def handlePacketConnect [Scalar α] (aHandle : UInt32) (data : MFiWConnectPacket)
    (frontend : State α) : State α :=
  let tweak := frontend.created.length
  let frontend := frontend.setControllerIndex aHandle gcControllerPlayerIndexUnset.toInt32
  { frontend with
    created := frontend.created ++ [controllerForHandle aHandle data]
    controllers := frontend.controllers.map (· ++ [tweak])
    notices := frontend.notices ++ [.didConnect tweak] }

/-- `HandlePacketDisconnect`.  `removeObjectAtIndex:` raises an exception for -1,
unless it is sent to `nil`. -/
def handlePacketDisconnect (aHandle : UInt32) (frontend : State α) : Option (State α) :=
  match frontend.controllers with
  | none => some frontend
  | some controllers => do
      -- no index, no element: the exception
      let idx ← frontend.idx aHandle
      let tweak ← controllers[idx]?
      return { frontend with
        controllers := some (controllers.eraseIdx idx)
        notices := frontend.notices ++ [.didDisconnect tweak] }

/-- `HandlePacketInputState`. -/
def handlePacketInputState [Scalar α] (aHandle : UInt32) (data : MFiWInputStatePacket α)
    (frontend : State α) : Option (State α) :=
  match frontend.tweak aHandle with
  -- a message to `nil`
  | none => some frontend
  | some ref => do
      let tweak ← frontend.created[ref]?
      let (tweak, _, calls) ← tweak.tweakUpdateButtons data
      return { frontend with
        created := frontend.created.set ref tweak
        notices := frontend.notices ++ [.valuesChanged ref calls] }

/-- `HandlePacketPausePressed`. -/
def handlePacketPausePressed (aHandle : UInt32) (frontend : State α) : State α :=
  match frontend.tweak aHandle with
  | none => frontend
  | some ref =>
      if (frontend.created[ref]?.map GCController.controllerPausedHandler).getD false then
        { frontend with notices := frontend.notices ++ [.paused ref] }
      else frontend

/-- `FrontendConnection::HandlePacket`. -/
def handlePacket [Scalar α] (frontend : State α) : MFiWPacket α → Option (State α)
  | .connect handle data => some (frontend.handlePacketConnect handle data)
  | .disconnect handle => frontend.handlePacketDisconnect handle
  | .inputState handle data => frontend.handlePacketInputState handle data
  | .pausePressed handle => some (frontend.handlePacketPausePressed handle)
  -- unknown packet
  | .setPlayerIndex _ _ => some frontend

/-- The handles of the controllers in the array. -/
def handles (frontend : State α) : List UInt32 := frontend.elements.map frontend.handleOf

@[simp] theorem setControllerIndex_created (frontend : State α) (aHandle : UInt32)
    (aIndex : Int32) :
    (frontend.setControllerIndex aHandle aIndex).created = frontend.created := by
  unfold setControllerIndex
  split_ifs <;> rfl

@[simp] theorem setControllerIndex_controllers (frontend : State α) (aHandle : UInt32)
    (aIndex : Int32) :
    (frontend.setControllerIndex aHandle aIndex).controllers = frontend.controllers := by
  unfold setControllerIndex
  split_ifs <;> rfl

/-- At most one packet is sent, and it carries the handle. -/
theorem setControllerIndex_sent (frontend : State α) (aHandle : UInt32) (aIndex : Int32) :
    ∃ packets, (frontend.setControllerIndex aHandle aIndex).sent = frontend.sent ++ packets ∧
      ∀ packet ∈ packets, packet.handle = aHandle := by
  unfold setControllerIndex
  split_ifs
  · exact ⟨_, rfl, by simp⟩
  · exact ⟨[], (List.append_nil _).symm, by simp⟩

section Connect

variable {frontend : State α}

theorem controllers_eq_some (hStarted : frontend.controllers.isSome) :
    frontend.controllers = some frontend.elements := by
  obtain ⟨controllers, hControllers⟩ := Option.isSome_iff_exists.mp hStarted
  simp [elements, hControllers]

variable [Scalar α] (aHandle : UInt32) (data : MFiWConnectPacket)

theorem handlePacketConnect_created (frontend : State α) :
    (frontend.handlePacketConnect aHandle data).created =
      frontend.created ++ [controllerForHandle aHandle data] := by
  simp [handlePacketConnect]

theorem handlePacketConnect_controllers (hStarted : frontend.controllers.isSome) :
    (frontend.handlePacketConnect aHandle data).controllers =
      some (frontend.elements ++ [frontend.created.length]) := by
  simp [handlePacketConnect, controllers_eq_some hStarted]

theorem handlePacketConnect_elements (hStarted : frontend.controllers.isSome) :
    (frontend.handlePacketConnect aHandle data).elements =
      frontend.elements ++ [frontend.created.length] := by
  rw [elements, handlePacketConnect_controllers aHandle data hStarted]
  rfl

/-- The array goes on referring to controllers that exist. -/
theorem handlePacketConnect_alive (hStarted : frontend.controllers.isSome)
    (hAlive : ∀ ref ∈ frontend.elements, ref < frontend.created.length) :
    ∀ ref ∈ (frontend.handlePacketConnect aHandle data).elements,
      ref < (frontend.handlePacketConnect aHandle data).created.length := by
  rw [handlePacketConnect_elements aHandle data hStarted, handlePacketConnect_created,
    List.length_append, List.length_singleton]
  intro ref hMem
  rcases List.mem_append.mp hMem with hOld | hNew
  · exact Nat.lt_succ_of_lt (hAlive ref hOld)
  · rw [List.mem_singleton.mp hNew]
    exact Nat.lt_succ_self _

theorem mem_handlePacketConnect_created {tweak : GCController α}
    (hMem : tweak ∈ (frontend.handlePacketConnect aHandle data).created) :
    tweak ∈ frontend.created ∨ tweak = controllerForHandle aHandle data := by
  rw [handlePacketConnect_created] at hMem
  exact (List.mem_append.mp hMem).imp_right List.mem_singleton.mp

end Connect

/-! ## What the packets of the backend do -/

/-- What holds of the frontend once it is started: the array refers to
controllers that exist, and nobody has handle 0. -/
structure Valid (frontend : State) : Prop where
  started : frontend.controllers.isSome
  alive : ∀ ref ∈ frontend.elements, ref < frontend.created.length
  wellFormed : ∀ tweak ∈ frontend.created, tweak.WellFormed
  nonzero : ∀ tweak ∈ frontend.created, tweak.tweakHandle ≠ 0
  sentNonzero : ∀ packet ∈ frontend.sent, packet.handle ≠ 0

variable {frontend : State}

theorem valid_initial : initial.startup.Valid := by
  constructor <;> simp [initial, startup, elements]

theorem Valid.controllers_eq (hValid : frontend.Valid) :
    frontend.controllers = some frontend.elements := controllers_eq_some hValid.started

theorem Valid.exists_created (hValid : frontend.Valid) {ref : ControllerRef}
    (hRef : ref ∈ frontend.elements) :
    ∃ tweak, frontend.created[ref]? = some tweak ∧ frontend.handleOf ref = tweak.tweakHandle :=
  have hLt := hValid.alive ref hRef
  ⟨frontend.created[ref], List.getElem?_eq_getElem hLt, by
    simp [handleOf, List.getElem?_eq_getElem hLt]⟩

theorem Valid.handle_ne_zero (hValid : frontend.Valid) {handle : UInt32}
    (hMem : handle ∈ frontend.handles) : handle ≠ 0 := by
  obtain ⟨ref, hRef, rfl⟩ := List.mem_map.mp hMem
  obtain ⟨tweak, hTweak, hHandle⟩ := hValid.exists_created hRef
  rw [hHandle]
  exact hValid.nonzero tweak (List.mem_of_getElem? hTweak)

/-- A handle in the array is found, at the position of its first controller. -/
theorem Valid.find (hValid : frontend.Valid) {handle : UInt32}
    (hMem : handle ∈ frontend.handles) :
    ∃ i ref tweak, frontend.idx handle = some i ∧ frontend.elements[i]? = some ref ∧
      frontend.created[ref]? = some tweak ∧ tweak.tweakHandle = handle ∧
      (frontend.elements.eraseIdx i).map frontend.handleOf = frontend.handles.erase handle := by
  obtain ⟨i, hIdx⟩ : ∃ i, frontend.handles.idxOf? handle = some i :=
    Option.ne_none_iff_exists'.mp fun hNone => List.idxOf?_eq_none_iff.mp hNone hMem
  have hFind : frontend.findControllerByHandle handle = some i := by
    rw [← hIdx, List.idxOf?, handles, List.findIdx?_map]
    rfl
  obtain ⟨hLt, hHandle, -⟩ := List.findIdx?_eq_some_iff_getElem.mp hFind
  obtain ⟨tweak, hTweak, hSame⟩ := hValid.exists_created (List.getElem_mem hLt)
  refine ⟨i, frontend.elements[i], tweak, ?_, List.getElem?_eq_getElem hLt, hTweak, ?_, ?_⟩
  · rw [idx, if_pos (hValid.handle_ne_zero hMem), hFind]
  · rw [← hSame]
    exact beq_iff_eq.mp hHandle
  · rw [List.erase_eq_eraseIdx, hIdx, handles]
    exact (List.eraseIdx_map ..).symm

/-- So it is what the functions that handle packets work on. -/
theorem Valid.tweak_eq_some (hValid : frontend.Valid) {handle : UInt32}
    (hMem : handle ∈ frontend.handles) :
    ∃ ref tweak, frontend.tweak handle = some ref ∧ frontend.created[ref]? = some tweak ∧
      tweak.tweakHandle = handle := by
  obtain ⟨i, ref, tweak, hIdx, hRef, hTweak, hHandle, -⟩ := hValid.find hMem
  exact ⟨ref, tweak, by rw [State.tweak, hIdx]; exact hRef, hTweak, hHandle⟩

/-- Changing a controller's elements or player index leaves the handles alone. -/
theorem Valid.replace (hValid : frontend.Valid) {ref : ControllerRef} {old : GCController}
    (hOld : frontend.created[ref]? = some old) (tweak : GCController)
    (hHandle : tweak.tweakHandle = old.tweakHandle) (hWellFormed : tweak.WellFormed)
    (frontend' : State) (hCreated : frontend'.created = frontend.created.set ref tweak)
    (hControllers : frontend'.controllers = frontend.controllers)
    (hSent : ∀ packet ∈ frontend'.sent, packet.handle ≠ 0) :
    frontend'.Valid ∧ frontend'.handles = frontend.handles := by
  have hMember : ∀ other ∈ frontend'.created, other = tweak ∨ other ∈ frontend.created := by
    rw [hCreated]
    exact fun other hMem => (List.mem_or_eq_of_mem_set hMem).symm
  have hElements : frontend'.elements = frontend.elements := by rw [elements, hControllers]; rfl
  constructor
  · constructor
    · rw [hControllers]
      exact hValid.started
    · rw [hElements, hCreated, List.length_set]
      exact hValid.alive
    · intro other hMem
      rcases hMember other hMem with rfl | hMem'
      · exact hWellFormed
      · exact hValid.wellFormed other hMem'
    · intro other hMem
      rcases hMember other hMem with rfl | hMem'
      · -- the handle is that of the controller replaced
        rw [hHandle]
        exact hValid.nonzero old (List.mem_of_getElem? hOld)
      · exact hValid.nonzero other hMem'
    · exact hSent
  · rw [handles, hElements, handles]
    refine List.map_congr_left fun other _ => ?_
    rw [handleOf, hCreated, List.getElem?_set, handleOf]
    split_ifs with hSame hLt
    · rw [← hSame, hOld, Option.map_some, Option.map_some, hHandle]
    · rw [← hSame, List.getElem?_eq_none (not_lt.mp hLt)]
    · rfl

theorem Valid.connect (hValid : frontend.Valid) {handle : UInt32} (hNonzero : handle ≠ 0)
    (data : MFiWConnectPacket) :
    (frontend.handlePacketConnect handle data).Valid ∧
      (frontend.handlePacketConnect handle data).handles = frontend.handles ++ [handle] := by
  obtain ⟨packets, hSent, hPackets⟩ := frontend.setControllerIndex_sent handle
    gcControllerPlayerIndexUnset.toInt32
  constructor
  · constructor
    · rw [handlePacketConnect_controllers handle data hValid.started]
      rfl
    · exact handlePacketConnect_alive handle data hValid.started hValid.alive
    · intro other hMem
      rcases mem_handlePacketConnect_created handle data hMem with hOld | rfl
      · exact hValid.wellFormed other hOld
      · exact controllerForHandle_wellFormed handle data
    · intro other hMem
      rcases mem_handlePacketConnect_created handle data hMem with hOld | rfl
      · exact hValid.nonzero other hOld
      · exact hNonzero
    · show ∀ packet ∈ (frontend.setControllerIndex _ _).sent, _
      rw [hSent]
      intro packet hMem
      rcases List.mem_append.mp hMem with hOld | hNew
      · exact hValid.sentNonzero packet hOld
      · rw [hPackets packet hNew]
        exact hNonzero
  · have hCreated := handlePacketConnect_created handle data frontend
    rw [handles, handlePacketConnect_elements handle data hValid.started, List.map_append, handles]
    congr 1
    · refine List.map_congr_left fun ref hMem => ?_
      rw [handleOf, hCreated, List.getElem?_append_left (hValid.alive ref hMem), handleOf]
    · rw [List.map_singleton, handleOf, hCreated, List.getElem?_concat_length]
      rfl

theorem Valid.disconnect (hValid : frontend.Valid) {handle : UInt32}
    (hMem : handle ∈ frontend.handles) :
    ∃ frontend', frontend.handlePacketDisconnect handle = some frontend' ∧ frontend'.Valid ∧
      frontend'.handles = frontend.handles.erase handle ∧ frontend'.sent = frontend.sent := by
  obtain ⟨i, ref, -, hIdx, hRef, -, -, hErase⟩ := hValid.find hMem
  refine ⟨{ frontend with
    controllers := some (frontend.elements.eraseIdx i)
    notices := frontend.notices ++ [.didDisconnect ref] }, ?_, ?_, hErase, rfl⟩
  · simp only [handlePacketDisconnect, hValid.controllers_eq, hIdx, Option.bind_eq_bind,
      Option.bind_some, hRef]
    rfl
  · exact ⟨rfl, fun other hOther => hValid.alive other (List.mem_of_mem_eraseIdx hOther),
      hValid.wellFormed, hValid.nonzero, hValid.sentNonzero⟩

theorem Valid.inputState (hValid : frontend.Valid) {handle : UInt32}
    (hMem : handle ∈ frontend.handles) (data : MFiWInputStatePacket ℚ) :
    ∃ frontend', frontend.handlePacketInputState handle data = some frontend' ∧
      frontend'.Valid ∧ frontend'.handles = frontend.handles ∧
      frontend'.sent = frontend.sent := by
  obtain ⟨ref, tweak, hRef, hTweak, -⟩ := hValid.tweak_eq_some hMem
  obtain ⟨elements, calls, hUpdate, hWellFormed, -⟩ :=
    (hValid.wellFormed tweak (List.mem_of_getElem? hTweak)).tweakUpdateButtons data
  obtain ⟨hValid', hHandles⟩ := hValid.replace hTweak { tweak with tweakElements := elements }
    rfl hWellFormed { frontend with
      created := frontend.created.set ref { tweak with tweakElements := elements }
      notices := frontend.notices ++ [.valuesChanged ref calls] } rfl rfl hValid.sentNonzero
  refine ⟨_, ?_, hValid', hHandles, rfl⟩
  simp only [handlePacketInputState, hRef, hTweak, Option.bind_eq_bind, Option.bind_some, hUpdate]
  rfl

theorem Valid.pausePressed (hValid : frontend.Valid) (handle : UInt32) :
    (frontend.handlePacketPausePressed handle).Valid ∧
      (frontend.handlePacketPausePressed handle).handles = frontend.handles ∧
      (frontend.handlePacketPausePressed handle).sent = frontend.sent := by
  obtain ⟨hStarted, hAlive, hWellFormed, hNonzero, hSent⟩ := hValid
  unfold handlePacketPausePressed
  split
  · exact ⟨⟨hStarted, hAlive, hWellFormed, hNonzero, hSent⟩, rfl, rfl⟩
  · split_ifs
    · exact ⟨⟨hStarted, hAlive, hWellFormed, hNonzero, hSent⟩, rfl, rfl⟩
    · exact ⟨⟨hStarted, hAlive, hWellFormed, hNonzero, hSent⟩, rfl, rfl⟩

/-- The frontend does to its array what an announced packet says. -/
theorem Valid.handlePacket (hValid : frontend.Valid) {packet : MFiWPacket ℚ}
    {handles' : List UInt32} (hAnnounces : Announces frontend.handles packet handles') :
    ∃ frontend', frontend.handlePacket packet = some frontend' ∧ frontend'.Valid ∧
      frontend'.handles = handles' ∧ frontend.sent <+: frontend'.sent := by
  cases hAnnounces with
  | connect data hNonzero hFresh =>
      obtain ⟨hValid', hHandles⟩ := hValid.connect hNonzero data
      obtain ⟨packets, hSent, -⟩ := frontend.setControllerIndex_sent _ _
      exact ⟨_, rfl, hValid', hHandles, ⟨packets, hSent.symm⟩⟩
  | disconnect hMem =>
      obtain ⟨frontend', hStep, hValid', hHandles, hSent⟩ := hValid.disconnect hMem
      exact ⟨frontend', hStep, hValid', hHandles, hSent ▸ List.prefix_rfl⟩
  | inputState data hMem =>
      obtain ⟨frontend', hStep, hValid', hHandles, hSent⟩ := hValid.inputState hMem data
      exact ⟨frontend', hStep, hValid', hHandles, hSent ▸ List.prefix_rfl⟩
  | pausePressed hMem =>
      obtain ⟨hValid', hHandles, hSent⟩ := hValid.pausePressed _
      exact ⟨_, rfl, hValid', hHandles, hSent ▸ List.prefix_rfl⟩

/-- The application assigns a player index to a controller it was given. -/
theorem Valid.setPlayerIndex (hValid : frontend.Valid) (ref : ControllerRef) (index : Int64) :
    (frontend.setPlayerIndex ref index).Valid ∧
      (frontend.setPlayerIndex ref index).handles = frontend.handles ∧
      frontend.sent <+: (frontend.setPlayerIndex ref index).sent := by
  cases hTweak : frontend.created[ref]? with
  | none =>
      have hSame : frontend.setPlayerIndex ref index = frontend := by
        simp only [State.setPlayerIndex, hTweak]
      rw [hSame]
      exact ⟨hValid, rfl, List.prefix_rfl⟩
  | some tweak =>
      let tweak' := { tweak with playerIndex := index }
      let assigned := { frontend with created := frontend.created.set ref tweak' }
      have hSame : frontend.setPlayerIndex ref index =
          assigned.setControllerIndex tweak.tweakHandle index.toInt32 := by
        simp only [State.setPlayerIndex, hTweak, assigned, tweak']
      have hMem := List.mem_of_getElem? hTweak
      obtain ⟨hWidths, hConsistent, hProperties⟩ := hValid.wellFormed tweak hMem
      obtain ⟨packets, hSent, hPackets⟩ :=
        assigned.setControllerIndex_sent tweak.tweakHandle index.toInt32
      obtain ⟨hValid', hHandles⟩ := hValid.replace hTweak tweak' rfl
        ⟨hWidths, hConsistent, hProperties⟩ (frontend.setPlayerIndex ref index)
        (by rw [hSame, setControllerIndex_created]) (by rw [hSame, setControllerIndex_controllers])
        (by
          rw [hSame, hSent]
          intro packet hPacket
          rcases List.mem_append.mp hPacket with hOld | hNew
          · exact hValid.sentNonzero packet hOld
          · rw [hPackets packet hNew]
            exact hValid.nonzero tweak hMem)
      exact ⟨hValid', hHandles, by rw [hSame, hSent]; exact List.prefix_append _ _⟩

end State
end Frontend
end MFiWrapper
