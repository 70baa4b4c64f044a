import MFiWrapper.Common.PacketStream
import MFiWrapper.Frontend.Dispatch

/-!
# `FrontendConnection::HandlePacket` on received packets

What is received is the memory of a packet object: any type, any handle, and a
payload whose floats may be NaNs and whose name may not end.
-/

namespace MFiWrapper

open Library

/-! ## The members of a packet object -/

namespace MFiWDataPacket

/-- The enumerator `Type` has the value of, if there is one. -/
def knownType (packet : MFiWDataPacket) : Option MFiWPacketType :=
  [MFiWPacketType.connect, .disconnect, .inputState, .setPlayerIndex, .pausePressed].find?
    fun type => packet.type = type.code.toNat

/-- `Handle` in its own type. -/
def aHandle (packet : MFiWDataPacket) : UInt32 := UInt32.ofNat packet.handle

/-- The 32-bit field at an offset. -/
def word (packet : MFiWDataPacket) (offset : Nat) : UInt32 :=
  UInt32.ofNat (readLE ((packet.data.drop offset).take 4))

/-- The union member `Connect`. -/
def connect (packet : MFiWDataPacket) : MFiWConnectPacket where
  vendorName := ⟨((packet.data.drop 12).take 256).toArray, by
    simp [packet.length_data, sizeofDataPacket]⟩
  presentControls := packet.word 268
  analogControls := packet.word 272

/-- The union member `State`, its floats as bit patterns. -/
def state (packet : MFiWDataPacket) : MFiWInputStatePacket UInt32 where
  dPadX := packet.word 12
  dPadY := packet.word 16
  a := packet.word 20
  b := packet.word 24
  x := packet.word 28
  y := packet.word 32
  leftShoulder := packet.word 36
  rightShoulder := packet.word 40
  leftStickX := packet.word 44
  leftStickY := packet.word 48
  rightStickX := packet.word 52
  rightStickY := packet.word 56
  leftTrigger := packet.word 60
  rightTrigger := packet.word 64
  select := packet.word 68
  start := packet.word 72
  leftStickButton := packet.word 76
  rightStickButton := packet.word 80

/-- What `Size` counts of the payload is where the union is. -/
theorem payload_prefix (packet : MFiWDataPacket) : packet.payload <+: packet.data.drop 12 := by
  rw [payload, List.drop_take]
  exact List.take_prefix _ _

theorem word_payload (packet : MFiWDataPacket) {k : Nat}
    (hInside : k + 4 ≤ packet.payload.length) :
    packet.word (12 + k) = UInt32.ofNat (readLE ((packet.payload.drop k).take 4)) := by
  obtain ⟨rest, hRest⟩ := packet.payload_prefix
  rw [word, ← List.drop_drop, ← hRest, List.drop_append_of_le_length (by omega),
    List.take_append_of_le_length (by rw [List.length_drop]; omega)]

end MFiWDataPacket

theorem ofNat_readLE_le32 (value : UInt32) : UInt32.ofNat (readLE (le32 value)) = value := by
  rw [readLE_le32]
  exact UInt32.ofNat_toNat

/-- The i-th of consecutive 32-bit fields. -/
theorem take_drop_le32 (values : List UInt32) {i : Nat} {value : UInt32}
    (hValue : values[i]? = some value) :
    ((values.map le32).flatten.drop (4 * i)).take 4 = le32 value := by
  induction values generalizing i with
  | nil => simp at hValue
  | cons first values ih =>
      rw [List.map_cons, List.flatten_cons]
      cases i with
      | zero =>
          obtain rfl := Option.some.inj hValue
          exact List.take_left' (le32_length _)
      | succ i =>
          have hSplit : 4 * (i + 1) = (le32 first).length + 4 * i := by
            rw [le32_length]
            omega
          rw [hSplit, List.drop_length_add_append]
          exact ih hValue

/-- The name in a Connect packet has its NUL. -/
def MFiWPacket.NameEnds {α : Type} : MFiWPacket α → Prop
  | .connect _ data => 0 ∈ data.vendorName.toList
  | _ => True

theorem MFiWInputStatePacket.fields_length {α : Type} (state : MFiWInputStatePacket α) :
    state.fields.length = 18 := rfl

theorem MFiWInputStatePacket.fields_injective {α : Type} :
    Function.Injective (@MFiWInputStatePacket.fields α) := by
  rintro ⟨⟩ ⟨⟩ hFields
  simpa [MFiWInputStatePacket.fields] using hFields

namespace MFiWDataPacket

variable {packet : MFiWDataPacket}

theorem connect_eq {data : MFiWConnectPacket} (hPayload : packet.payload = data.bytes) :
    packet.connect = data := by
  have hName : data.vendorName.toList.length = 256 := Vector.length_toList
  have hLength : packet.payload.length = 264 := by
    simp [hPayload, MFiWConnectPacket.bytes]
  have hPresent : packet.word 268 = data.presentControls := by
    rw [packet.word_payload (by omega : 256 + 4 ≤ _), hPayload, MFiWConnectPacket.bytes,
      List.append_assoc, List.drop_left' hName, List.take_left' (le32_length _),
      ofNat_readLE_le32]
  have hAnalog : packet.word 272 = data.analogControls := by
    rw [packet.word_payload (by omega : 260 + 4 ≤ _), hPayload, MFiWConnectPacket.bytes,
      List.drop_left' (by simp), List.take_of_length_le (by simp), ofNat_readLE_le32]
  obtain ⟨rest, hRest⟩ := packet.payload_prefix
  have hBytes : (packet.data.drop 12).take 256 = data.vendorName.toList := by
    rw [← hRest, hPayload, MFiWConnectPacket.bytes, List.append_assoc, List.append_assoc,
      List.take_left' hName]
  have hVendor : packet.connect.vendorName = data.vendorName := by
    rw [← Vector.toList_inj, ← hBytes]
    rfl
  calc packet.connect
      = ⟨packet.connect.vendorName, packet.word 268, packet.word 272⟩ := rfl
    _ = data := by rw [hVendor, hPresent, hAnalog]

/-- The members of `State` are consecutive. -/
theorem state_fields (packet : MFiWDataPacket) :
    packet.state.fields = (List.range 18).map fun i => packet.word (12 + 4 * i) := rfl

theorem state_eq {state : MFiWInputStatePacket UInt32} (hPayload : packet.payload = state.bytes) :
    packet.state = state := by
  have hLength : packet.payload.length = 72 := by
    simp [hPayload, MFiWInputStatePacket.bytes, MFiWInputStatePacket.fields]
  apply MFiWInputStatePacket.fields_injective
  rw [state_fields]
  refine List.ext_getElem (by simp [state.fields_length]) fun i hLeft hRight => ?_
  have hi : i < 18 := state.fields_length ▸ hRight
  rw [List.getElem_map, List.getElem_range, packet.word_payload (by omega), hPayload,
    MFiWInputStatePacket.bytes, take_drop_le32 _ (List.getElem?_eq_getElem hRight),
    ofNat_readLE_le32]

theorem knownType_eq {type : MFiWPacketType} (hType : packet.type = type.code.toNat) :
    packet.knownType = some type := by
  rw [knownType, hType]
  cases type <;> rfl

end MFiWDataPacket

namespace Frontend

/-! ## Floats as they arrive -/

/-- A `float`, by its bit pattern. -/
structure Single where
  bits : UInt32
  deriving DecidableEq

namespace Single

/-- The pattern without the sign. -/
def magnitude (value : Single) : UInt32 := value.bits &&& 0x7FFFFFFF

def IsNaN (value : Single) : Prop := value.magnitude > 0x7F800000

instance : DecidablePred IsNaN := fun value =>
  inferInstanceAs (Decidable (value.magnitude > 0x7F800000))

/-- Its place among the numbers; that of both zeros is 0. -/
def rank (value : Single) : Int :=
  if value.bits = value.magnitude then value.magnitude.toNat else -value.magnitude.toNat

instance : Scalar Single where
  zero := ⟨0⟩
  lt x y := ¬ x.IsNaN ∧ ¬ y.IsNaN ∧ x.rank < y.rank
  ne x y := x.IsNaN ∨ y.IsNaN ∨ x.rank ≠ y.rank
  fabsf x := ⟨x.magnitude⟩
  threshold := ⟨0x38D1B717⟩
  decidableNe x y := inferInstanceAs (Decidable (x.IsNaN ∨ y.IsNaN ∨ x.rank ≠ y.rank))
  decidableLT x y := inferInstanceAs (Decidable (¬ x.IsNaN ∧ ¬ y.IsNaN ∧ x.rank < y.rank))

end Single

variable {α : Type}

/-- The controller a notice is about. -/
def Notice.tweak : Notice α → ControllerRef
  | .didConnect tweak => tweak
  | .didDisconnect tweak => tweak
  | .valuesChanged tweak _ => tweak
  | .paused tweak => tweak

/-! ## The search -/

/-- Among different values, erasing at a position leaves what has another value. -/
theorem eraseIdx_eq_filter {β γ : Type} [DecidableEq γ] {f : β → γ} {l : List β}
    (hDistinct : (l.map f).Nodup) {i : Nat} {b : β} (hb : l[i]? = some b) :
    l.eraseIdx i = l.filter fun other => f other ≠ f b := by
  induction l generalizing i with
  | nil => simp at hb
  | cons first l ih =>
      rw [List.map_cons, List.nodup_cons] at hDistinct
      cases i with
      | zero =>
          obtain rfl := Option.some.inj hb
          have hOthers : ∀ other ∈ l, f other ≠ f first := fun other hOther hSame =>
            hDistinct.1 (hSame ▸ List.mem_map_of_mem hOther)
          simpa using (List.filter_eq_self.mpr (by simpa using hOthers)).symm
      | succ i =>
          have hb' : l[i]? = some b := hb
          have hFirst : f first ≠ f b := fun hSame =>
            hDistinct.1 (hSame ▸ List.mem_map_of_mem (List.mem_of_getElem? hb'))
          rw [List.eraseIdx_cons_succ, ih hDistinct.2 hb', List.filter_cons_of_pos (by simpa)]

namespace State

variable {frontend : State α} {handle : UInt32}

theorem idx_eq_none_iff :
    frontend.idx handle = none ↔ handle = 0 ∨ handle ∉ frontend.handles := by
  rw [idx]
  split_ifs with hNonzero
  · rw [findControllerByHandle, List.findIdx?_eq_none_iff, handles, List.mem_map]
    simp [hNonzero]
  · simpa using Or.inl (not_not.mp hNonzero)

theorem idx_eq_some {i : Nat} (hIdx : frontend.idx handle = some i) :
    ∃ ref, frontend.elements[i]? = some ref ∧ frontend.handleOf ref = handle := by
  rw [idx] at hIdx
  split_ifs at hIdx with hNonzero
  obtain ⟨hLt, hHandle, -⟩ := List.findIdx?_eq_some_iff_getElem.mp hIdx
  exact ⟨frontend.elements[i], List.getElem?_eq_getElem hLt, beq_iff_eq.mp hHandle⟩

theorem tweak_eq_some {ref : ControllerRef} (hTweak : frontend.tweak handle = some ref) :
    ref ∈ frontend.elements ∧ frontend.handleOf ref = handle := by
  obtain ⟨i, hIdx, hRef⟩ := Option.bind_eq_some_iff.mp hTweak
  obtain ⟨ref', hRef', hHandle⟩ := idx_eq_some hIdx
  obtain rfl := Option.some.inj (hRef.symm.trans hRef')
  exact ⟨List.mem_of_getElem? hRef, hHandle⟩

/-- Of the frontend only controllers in the array with the handle are changed, and only
they are reported. -/
structure OnlyAbout (handle : UInt32) (frontend frontend' : State α) : Prop where
  same : frontend' = { frontend with created := frontend'.created, notices := frontend'.notices }
  changed : ∀ ref, frontend'.created[ref]? ≠ frontend.created[ref]? →
    ref ∈ frontend.elements ∧ frontend.handleOf ref = handle
  notified : ∃ notices, frontend'.notices = frontend.notices ++ notices ∧
    ∀ notice ∈ notices,
      notice.tweak ∈ frontend.elements ∧ frontend.handleOf notice.tweak = handle

theorem OnlyAbout.refl (handle : UInt32) (frontend : State α) :
    OnlyAbout handle frontend frontend where
  same := rfl
  changed _ hChanged := absurd rfl hChanged
  notified := ⟨[], (List.append_nil _).symm, by simp⟩

end State

/-! ## Every controller can read every payload -/

variable [Scalar α]

namespace GCControllerElement

/-- An element completes on a buffer that has its values, and goes on reading as
many. -/
theorem tweakSetValues_completes (tweak : GCControllerElement α) {values : List α}
    (hRoom : tweak.width ≤ values.length) :
    ∃ tweak' calls, tweak.tweakSetValues values = some (tweak', tweak.width, calls) ∧
      tweak'.width = tweak.width := by
  cases tweak with
  | button input =>
      have hFirst : 0 < values.length := hRoom
      refine ⟨.button (input.tweakSetValue values[0]).1,
        (input.tweakSetValue values[0]).2.map (Part.self, ·), ?_, rfl⟩
      rw [tweakSetValues, List.getElem?_eq_getElem hFirst]
      rfl
  | directionPad pad =>
      have hSecond : 1 < values.length := hRoom
      have hFirst : 0 < values.length := Nat.zero_lt_of_lt hSecond
      refine ⟨.directionPad (pad.tweakSetValues values[0] values[1]).1,
        (pad.tweakSetValues values[0] values[1]).2, ?_, rfl⟩
      rw [tweakSetValues, List.getElem?_eq_getElem hFirst, List.getElem?_eq_getElem hSecond]
      rfl

end GCControllerElement

theorem updateElements_completes {elements : List (GCControllerElement α)} {buf : List α}
    (hRoom : (elements.map GCControllerElement.width).sum ≤ buf.length) :
    ∃ elements' left calls, updateElements elements buf = some (elements', left, calls) ∧
      elements'.map GCControllerElement.width = elements.map GCControllerElement.width := by
  induction elements generalizing buf with
  | nil => exact ⟨[], buf, [], rfl, rfl⟩
  | cons i elements ih =>
      rw [List.map_cons, List.sum_cons] at hRoom
      obtain ⟨i', calls, hSet, hWidth⟩ :=
        i.tweakSetValues_completes ((Nat.le_add_right _ _).trans hRoom)
      have hRest : (elements.map GCControllerElement.width).sum ≤ (buf.drop i.width).length := by
        rw [List.length_drop]
        omega
      obtain ⟨elements', left, restCalls, hUpdate, hWidths⟩ := ih hRest
      refine ⟨i' :: elements', left, calls :: restCalls, ?_, ?_⟩
      · simp only [updateElements, hSet, Option.bind_eq_bind, Option.bind_some, hUpdate]
        rfl
      · rw [List.map_cons, List.map_cons, hWidth, hWidths]

/-- Together they read the eighteen floats of a packet. -/
theorem elementsFor_width (data : MFiWConnectPacket) :
    ((elementsFor data : List (GCControllerElement α)).map GCControllerElement.width).sum = 18 := by
  simp [elementsFor, dpad, button, GCControllerElement.width]

namespace GCController

/-- The elements are those of a controller that was built, whatever their values. -/
def Built (tweak : GCController α) : Prop :=
  ∃ data, tweak.tweakElements.map GCControllerElement.width =
    (elementsFor data : List (GCControllerElement α)).map GCControllerElement.width

theorem controllerForHandle_built (handle : UInt32) (data : MFiWConnectPacket) :
    (controllerForHandle handle data : GCController α).Built := ⟨data, rfl⟩

theorem Built.tweakUpdateButtons {tweak : GCController α} (hBuilt : tweak.Built)
    (state : MFiWInputStatePacket α) :
    ∃ elements left calls, tweak.tweakUpdateButtons state =
        some ({ tweak with tweakElements := elements }, left, calls) ∧
      ({ tweak with tweakElements := elements } : GCController α).Built := by
  obtain ⟨data, hWidths⟩ := hBuilt
  have hRoom : (tweak.tweakElements.map GCControllerElement.width).sum ≤ state.fields.length := by
    rw [hWidths, elementsFor_width, state.fields_length]
  obtain ⟨elements, left, calls, hUpdate, hKept⟩ := updateElements_completes hRoom
  refine ⟨elements, left, calls, ?_, data, hKept.trans hWidths⟩
  rw [GCController.tweakUpdateButtons, hUpdate]
  rfl

end GCController

/-! ## Dispatch -/

namespace State

variable (ofBits : UInt32 → α)

/-- `FrontendConnection::HandlePacket`; `none` stands for an exception or for a read
outside an array.  The name of a new controller is read up to its NUL. -/
def handleDataPacket (frontend : State α) (aPacket : MFiWDataPacket) : Option (State α) :=
  match aPacket.knownType with
  | some .connect =>
      if 0 ∈ aPacket.connect.vendorName.toList then
        some (frontend.handlePacketConnect aPacket.aHandle aPacket.connect)
      else none
  | some .disconnect => frontend.handlePacketDisconnect aPacket.aHandle
  | some .inputState =>
      frontend.handlePacketInputState aPacket.aHandle (aPacket.state.map ofBits)
  | some .pausePressed => some (frontend.handlePacketPausePressed aPacket.aHandle)
  -- unknown packet
  | some .setPlayerIndex | none => some frontend

/-- The array is there, and holds controllers that were built. -/
structure Started (frontend : State α) : Prop where
  started : frontend.controllers.isSome
  alive : ∀ ref ∈ frontend.elements, ref < frontend.created.length
  built : ∀ tweak ∈ frontend.created, tweak.Built

/-- What a packet may do to the frontend. -/
def Robust (aPacket : MFiWDataPacket) (frontend frontend' : State α) : Prop :=
  match aPacket.knownType with
  | some .connect => ∃ tweak : GCController α, tweak.tweakHandle = aPacket.aHandle ∧
      frontend'.created = frontend.created ++ [tweak] ∧
      frontend'.elements = frontend.elements ++ [frontend.created.length]
  | some .disconnect => frontend'.created = frontend.created ∧
      frontend'.elements =
        if aPacket.aHandle = 0 then frontend.elements
        else frontend.elements.filter fun ref => frontend.handleOf ref ≠ aPacket.aHandle
  | some .inputState | some .pausePressed => OnlyAbout aPacket.aHandle frontend frontend'
  | some .setPlayerIndex | none => frontend' = frontend

/-- A Disconnect packet is for a controller in the array, and the name in a Connect
packet ends. -/
structure Acceptable (frontend : State α) (aPacket : MFiWDataPacket) : Prop where
  disconnect : aPacket.knownType = some .disconnect →
    aPacket.aHandle ≠ 0 ∧ aPacket.aHandle ∈ frontend.handles
  connect : aPacket.knownType = some .connect → 0 ∈ aPacket.connect.vendorName.toList

variable {frontend : State α} {handle : UInt32}

theorem Started.controllers_eq (hStarted : frontend.Started) :
    frontend.controllers = some frontend.elements := controllers_eq_some hStarted.started

theorem started_initial : (initial : State α).startup.Started := by
  constructor <;> simp [initial, startup, elements]

/-! ## The handlers -/

namespace Started

theorem connect (hStarted : frontend.Started) (handle : UInt32) (data : MFiWConnectPacket) :
    (frontend.handlePacketConnect handle data).Started ∧
      (frontend.handlePacketConnect handle data).created =
        frontend.created ++ [controllerForHandle handle data] ∧
      (frontend.handlePacketConnect handle data).elements =
        frontend.elements ++ [frontend.created.length] := by
  refine ⟨⟨?_, ?_, ?_⟩, handlePacketConnect_created handle data frontend,
    handlePacketConnect_elements handle data hStarted.started⟩
  · rw [handlePacketConnect_controllers handle data hStarted.started]
    rfl
  · exact handlePacketConnect_alive handle data hStarted.started hStarted.alive
  · intro tweak hMem
    rcases mem_handlePacketConnect_created handle data hMem with hOld | rfl
    · exact hStarted.built tweak hOld
    · exact GCController.controllerForHandle_built handle data

/-- `removeObjectAtIndex:` is given an index exactly for a handle in the array. -/
theorem disconnect_eq_none_iff (hStarted : frontend.Started) :
    frontend.handlePacketDisconnect handle = none ↔ handle = 0 ∨ handle ∉ frontend.handles := by
  rw [← idx_eq_none_iff]
  cases hIdx : frontend.idx handle with
  | none => simp [handlePacketDisconnect, hStarted.controllers_eq, hIdx]
  | some i =>
      obtain ⟨ref, hRef, -⟩ := idx_eq_some hIdx
      simp [handlePacketDisconnect, hStarted.controllers_eq, hIdx, hRef]

theorem disconnect (hStarted : frontend.Started) {frontend' : State α}
    (hStep : frontend.handlePacketDisconnect handle = some frontend') :
    frontend'.Started ∧ frontend'.created = frontend.created ∧
      (handle ≠ 0 ∧ handle ∈ frontend.handles) ∧
      (frontend.handles.Nodup →
        frontend'.elements =
          frontend.elements.filter fun ref => frontend.handleOf ref ≠ handle) := by
  have hFound : ¬ (handle = 0 ∨ handle ∉ frontend.handles) := by
    rw [← hStarted.disconnect_eq_none_iff, hStep]
    exact Option.some_ne_none _
  obtain ⟨i, hIdx⟩ := Option.ne_none_iff_exists'.mp (mt idx_eq_none_iff.mp hFound)
  obtain ⟨ref, hRef, hHandle⟩ := idx_eq_some hIdx
  obtain rfl : { frontend with
      controllers := some (frontend.elements.eraseIdx i)
      notices := frontend.notices ++ [.didDisconnect ref] } = frontend' := by
    simpa [handlePacketDisconnect, hStarted.controllers_eq, hIdx, hRef] using hStep
  refine ⟨⟨rfl, fun other hOther => hStarted.alive other (List.mem_of_mem_eraseIdx hOther),
    hStarted.built⟩, rfl, by simpa [not_or] using hFound, fun hDistinct => ?_⟩
  rw [← hHandle]
  exact eraseIdx_eq_filter hDistinct hRef

theorem inputState (hStarted : frontend.Started) (handle : UInt32)
    (data : MFiWInputStatePacket α) :
    ∃ frontend', frontend.handlePacketInputState handle data = some frontend' ∧
      frontend'.Started ∧ OnlyAbout handle frontend frontend' := by
  cases hTweak : frontend.tweak handle with
  -- -1 gives `nil`, which ignores the message
  | none => exact ⟨frontend, by rw [handlePacketInputState, hTweak], hStarted, .refl _ _⟩
  | some ref =>
      have hFound := tweak_eq_some hTweak
      have hLt := hStarted.alive ref hFound.1
      obtain ⟨tweakElements, left, calls, hUpdate, hBuilt⟩ :=
        (hStarted.built _ (List.getElem_mem hLt)).tweakUpdateButtons data
      refine ⟨{ frontend with
        created := frontend.created.set ref { frontend.created[ref] with tweakElements }
        notices := frontend.notices ++ [.valuesChanged ref calls] }, ?_, ?_, ?_⟩
      · simp only [handlePacketInputState, hTweak, List.getElem?_eq_getElem hLt,
          Option.bind_eq_bind, Option.bind_some, hUpdate]
        rfl
      · -- the controller stays one that was built
        refine ⟨hStarted.started, fun other hOther => ?_, fun tweak hMem => ?_⟩
        · exact (hStarted.alive other hOther).trans_eq List.length_set.symm
        · rcases List.mem_or_eq_of_mem_set hMem with hOld | rfl
          · exact hStarted.built tweak hOld
          · exact hBuilt
      · refine ⟨rfl, fun other hChanged => ?_, [.valuesChanged ref calls], rfl, ?_⟩
        · -- the list differs at `ref` only
          obtain rfl : ref = other := by
            by_contra hOther
            exact hChanged (List.getElem?_set_ne hOther)
          exact hFound
        · intro notice hMem
          rw [List.mem_singleton.mp hMem]
          exact hFound

theorem pausePressed (hStarted : frontend.Started) (handle : UInt32) :
    (frontend.handlePacketPausePressed handle).Started ∧
      OnlyAbout handle frontend (frontend.handlePacketPausePressed handle) := by
  obtain ⟨hControllers, hAlive, hBuilt⟩ := hStarted
  unfold handlePacketPausePressed
  split
  · exact ⟨⟨hControllers, hAlive, hBuilt⟩, .refl _ _⟩
  · rename_i ref hTweak
    split_ifs
    · refine ⟨⟨hControllers, hAlive, hBuilt⟩, rfl, fun other hChanged => absurd rfl hChanged,
        [.paused ref], rfl, ?_⟩
      intro notice hMem
      rw [List.mem_singleton.mp hMem]
      exact tweak_eq_some hTweak
    · exact ⟨⟨hControllers, hAlive, hBuilt⟩, .refl _ _⟩

end Started

/-! ## Any packet on any array -/

/-- A packet the frontend completes on is acceptable. -/
theorem Started.acceptable (hStarted : frontend.Started) {aPacket : MFiWDataPacket}
    {frontend' : State α} (hStep : frontend.handleDataPacket ofBits aPacket = some frontend') :
    Acceptable frontend aPacket := by
  rw [handleDataPacket] at hStep
  constructor
  · intro hType
    rw [hType] at hStep
    obtain ⟨-, -, hFound, -⟩ := hStarted.disconnect hStep
    exact hFound
  · intro hType
    rw [hType] at hStep
    by_contra hEndless
    simp only [if_neg hEndless] at hStep
    cases hStep

/-- It completes on every acceptable packet, and does to an array of different handles
what the packet may do. -/
theorem Started.handleDataPacket (hStarted : frontend.Started) {aPacket : MFiWDataPacket}
    (hAcceptable : Acceptable frontend aPacket) :
    ∃ frontend', frontend.handleDataPacket ofBits aPacket = some frontend' ∧
      frontend'.Started ∧ (frontend.handles.Nodup → Robust aPacket frontend frontend') := by
  rw [State.handleDataPacket]
  simp only [Robust]
  cases hType : aPacket.knownType with
  | none => exact ⟨frontend, rfl, hStarted, fun _ => rfl⟩
  | some type =>
      cases type with
      | connect =>
          -- whatever the handle, there is nothing to search for
          obtain ⟨hStarted', hCreated, hElements⟩ :=
            hStarted.connect aPacket.aHandle aPacket.connect
          exact ⟨_, if_pos (hAcceptable.connect hType), hStarted',
            fun _ => ⟨_, rfl, hCreated, hElements⟩⟩
      | disconnect =>
          -- the search succeeds, so `removeObjectAtIndex:` gets a position
          obtain ⟨hNonzero, hMem⟩ := hAcceptable.disconnect hType
          obtain ⟨frontend', hStep⟩ : ∃ frontend',
              frontend.handlePacketDisconnect aPacket.aHandle = some frontend' := by
            refine Option.ne_none_iff_exists'.mp fun hNone => ?_
            rcases hStarted.disconnect_eq_none_iff.mp hNone with hZero | hNot
            · exact hNonzero hZero
            · exact hNot hMem
          obtain ⟨hStarted', hCreated, -, hElements⟩ := hStarted.disconnect hStep
          refine ⟨frontend', hStep, hStarted', fun hDistinct => ⟨hCreated, ?_⟩⟩
          rw [if_neg hNonzero]
          exact hElements hDistinct
      | inputState =>
          obtain ⟨frontend', hStep, hStarted', hOnly⟩ :=
            hStarted.inputState aPacket.aHandle (aPacket.state.map ofBits)
          exact ⟨frontend', hStep, hStarted', fun _ => hOnly⟩
      | setPlayerIndex => exact ⟨frontend, rfl, hStarted, fun _ => rfl⟩
      | pausePressed =>
          obtain ⟨hStarted', hOnly⟩ := hStarted.pausePressed aPacket.aHandle
          exact ⟨_, rfl, hStarted', fun _ => hOnly⟩

/-- Received packets one after the other: the frontend gets through them if and only if
each is acceptable when it comes. -/
theorem survives_iff_acceptable (packets : List MFiWDataPacket) :
    Throughout (State.handleDataPacket ofBits) Started (initial : State α).startup packets ↔
      Along (State.handleDataPacket ofBits) Acceptable (initial : State α).startup packets := by
  refine throughout_iff_along (fun _ hStarted => hStarted) ?_ ?_ started_initial packets
  · intro frontend aPacket hStarted hAcceptable
    obtain ⟨frontend', hStep, hStarted', -⟩ := hStarted.handleDataPacket ofBits hAcceptable
    exact ⟨frontend', hStep, hStarted'⟩
  · intro frontend aPacket hStarted hNot frontend' hStep _
    exact hNot (hStarted.acceptable ofBits hStep)

/-- On every array of controllers with different handles and for every received packet,
whatever its floats are taken for: the frontend completes and has done what the packet
may do, if and only if the packet is acceptable. -/
theorem robust_iff_acceptable {ofBits : UInt32 → α} {frontend : State α}
    (hStarted : frontend.Started) (hDistinct : frontend.handles.Nodup)
    (aPacket : MFiWDataPacket) :
    (∃ frontend', frontend.handleDataPacket ofBits aPacket = some frontend' ∧
      Robust aPacket frontend frontend') ↔ Acceptable frontend aPacket := by
  constructor
  · rintro ⟨frontend', hStep, -⟩
    exact hStarted.acceptable ofBits hStep
  · intro hAcceptable
    obtain ⟨frontend', hStep, -, hRobust⟩ := hStarted.handleDataPacket ofBits hAcceptable
    exact ⟨frontend', hStep, hRobust hDistinct⟩

/-- A Disconnect packet for the one controller of the array. -/
theorem robust_iff_acceptable_last_controller :
    let frontend : State Single :=
      initial.startup.handlePacketConnect 5 ⟨Vector.replicate 256 0, mfiNormalElements, 0⟩
    let aPacket := Connection.image (Connection.sendDisconnect 5)
    (∃ frontend', frontend.handleDataPacket Single.mk aPacket = some frontend' ∧
      Robust aPacket frontend frontend') ↔ Acceptable frontend aPacket :=
  robust_iff_acceptable (started_initial.connect 5 _).1 (List.nodup_singleton _) _

/-- A Disconnect packet for handle 5 while the array is empty: the index -1 goes to
`removeObjectAtIndex:`. -/
theorem stale_disconnect_raises :
    ¬ ∀ frontend : State Single, frontend.Started → frontend.handles.Nodup →
      ∀ aPacket, ∃ frontend', frontend.handleDataPacket Single.mk aPacket = some frontend' ∧
        Robust aPacket frontend frontend' := by
  intro hAll
  obtain ⟨frontend', hStep, -⟩ := hAll initial.startup started_initial List.nodup_nil
    (Connection.image (Connection.sendDisconnect 5))
  have hNone : (initial : State Single).startup.handleDataPacket Single.mk
      (Connection.image (Connection.sendDisconnect 5)) = none := by
    decide +kernel
  rw [hNone] at hStep
  cases hStep

/-! ## What was sent -/

/-- In the memory of a received packet the frontend finds the packet that was sent, if the
name in it ends. -/
theorem handleDataPacket_eq {packet : MFiWPacket UInt32} {aPacket : MFiWDataPacket}
    (hContents : aPacket.contents = packet.contents) (hName : packet.NameEnds)
    (frontend : State α) :
    frontend.handleDataPacket ofBits aPacket = frontend.handlePacket (packet.map ofBits) := by
  simp only [MFiWDataPacket.contents, MFiWPacket.contents, Prod.mk.injEq] at hContents
  obtain ⟨hType, hHandle, hPayload⟩ := hContents
  have hHandle' : aPacket.aHandle = packet.handle := by
    rw [MFiWDataPacket.aHandle, hHandle, UInt32.ofNat_toNat]
  rw [handleDataPacket, MFiWDataPacket.knownType_eq hType, hHandle']
  cases packet with
  | connect handle data =>
      simp only [MFiWPacket.type]
      rw [MFiWDataPacket.connect_eq hPayload]
      exact if_pos hName
  | inputState handle state =>
      simp only [MFiWPacket.type]
      rw [MFiWDataPacket.state_eq hPayload]
      rfl
  | disconnect handle => rfl
  | setPlayerIndex handle value => rfl
  | pausePressed handle => rfl

/-- So a run over what was received is the run over what was sent. -/
theorem run_handleDataPacket {sent : List (MFiWPacket UInt32)} {received : List MFiWDataPacket}
    (hContents : received.map MFiWDataPacket.contents = sent.map MFiWPacket.contents)
    (hNames : ∀ packet ∈ sent, packet.NameEnds) (frontend : State α) :
    run (handleDataPacket ofBits) frontend received =
      run handlePacket frontend (sent.map (MFiWPacket.map ofBits)) := by
  induction sent generalizing received frontend with
  | nil =>
      obtain rfl := List.map_eq_nil_iff.mp hContents
      rfl
  | cons packet sent ih =>
      obtain ⟨aPacket, received, rfl, hHead, hTail⟩ := List.map_eq_cons_iff.mp hContents
      obtain ⟨hName, hNames'⟩ := List.forall_mem_cons.mp hNames
      rw [List.map_cons, run_cons, run_cons, handleDataPacket_eq ofBits hHead hName]
      exact congrArg _ (funext fun frontend' => ih hTail hNames' frontend')

end State
end Frontend
end MFiWrapper
