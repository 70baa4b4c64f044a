import Mathlib.Algebra.GroupWithZero.Nat
import Mathlib.Logic.Function.Basic
import MFiWrapper.BTServerFilter.HCI

/-!
# `BTServerFilter.cpp`: the hooks on the reading side

`new_socket`, `new_read` and the filters of received events.  Sizes and offsets
are natural numbers, cut to 32 bits where the code does; what a vector is
followed by in memory is a parameter.  The packet logger is never created.
-/

namespace MFiWrapper
namespace BTServerFilter

/-- The functions in the table of read filters. -/
inductive ReadFilter
  | remoteNameRequestCompleteEvent
  | commandCompleteEvent
  | inquiryResultEventGeneral
  deriving DecidableEq

/-- The static variables that the filters use. -/
structure Globals where
  bluetoothSocket : Int32
  /-- `std::map<BTAddress, std::string>`; an address has six bytes. -/
  deviceNames : List UInt8 → Option (List UInt8)
  localAddress : List UInt8
  readFilters : UInt8 → Option ReadFilter

/-- A store outside of the object it was meant for. -/
inductive Store
  | context (index : Nat) (value : UInt8)
  | data (index : Int) (value : UInt8)
  deriving DecidableEq

/-- `ReadContext` during a read.  `dataLength` is the length of `data`. -/
structure ReadContext where
  data : List UInt8
  offset : Nat
  size : Nat
  context : List UInt8
  /-- What follows the elements of `context` in memory, up to the first NUL. -/
  beyond : List UInt8
  outside : List Store

namespace ReadContext

/-- `context[i]`, which `operator[]` does not check. -/
def byteAt (aContext : ReadContext) (i : Nat) : UInt8 :=
  (aContext.context ++ aContext.beyond).getD i 0

/-- `data[index] = value`. -/
def storeData (index : Int) (value : UInt8) (aContext : ReadContext) : ReadContext :=
  if 0 ≤ index ∧ index < aContext.data.length then
    { aContext with data := aContext.data.set index.toNat value }
  else { aContext with outside := aContext.outside ++ [.data index value] }

/-- `context[index] = value`. -/
def storeContext (index : Nat) (value : UInt8) (aContext : ReadContext) : ReadContext :=
  if index < aContext.context.length then
    { aContext with context := aContext.context.set index value }
  else { aContext with outside := aContext.outside ++ [.context index value] }

/-- `WriteByte`.  The subtraction in `data[aOffset - offset]` wraps, so the store
goes to the bytes before `data` when the offset is the larger one. -/
def writeByte (aOffset : Nat) (aValue : UInt8) (aContext : ReadContext) : ReadContext :=
  if aOffset > aContext.context.length then aContext
  else
    let aContext := aContext.storeContext aOffset aValue
    if aOffset < aContext.offset + aContext.size then
      aContext.storeData ((aOffset : Int) - aContext.offset) aValue
    else aContext

/-- The expected packet size. -/
def pktSize (aContext : ReadContext) : Nat :=
  if aContext.byteAt 0 = 0x04 then (aContext.byteAt 2).toNat + 3
  else if aContext.byteAt 0 = 0x02 then
    ((aContext.byteAt 3).toNat ||| (aContext.byteAt 4).toNat <<< 8) + 5
  else 0

end ReadContext

/-- `FilterRemoteNameRequestCompleteEvent`.  The name is read up to the first NUL. -/
def filterRemoteNameRequestCompleteEvent (aContext : ReadContext) (globals : Globals) : Globals :=
  if aContext.size < 255 then globals
  else
    -- nothing keeps the name inside the event: it is read as a C string
    let memory := aContext.context ++ aContext.beyond
    { globals with
      deviceNames := Function.update globals.deviceNames ((memory.drop 4).take 6)
        (some ((memory.drop 10).takeWhile (· ≠ 0))) }

/-- `FilterCommandCompleteEvent`. -/
def filterCommandCompleteEvent (aContext : ReadContext) (globals : Globals) : Globals :=
  if aContext.size < 13 ∨ aContext.byteAt 4 ≠ 0x09 ∨ aContext.byteAt 5 ≠ 0x10 then globals
  else
    { globals with
      localAddress := (List.range 6).map fun i => aContext.byteAt (7 + i)
      readFilters := Function.update globals.readFilters 0x0E none }

/-- `FilterInquiryResultEventGeneral`. -/
def filterInquiryResultEventGeneral (aContext : ReadContext) : ReadContext :=
  if aContext.size < 0x10 ∨ aContext.byteAt 3 ≠ 1 then aContext
  else if aContext.byteAt 13 &&& 0x1F = 0x05 then aContext.writeByte 12 0x40
  else aContext

/-- The call of the filter for the event, if there is one. -/
def runFilter (aContext : ReadContext) (globals : Globals) : ReadContext × Globals :=
  if aContext.byteAt 0 = 0x04 then
    match globals.readFilters (aContext.byteAt 1) with
    | some .remoteNameRequestCompleteEvent =>
        (aContext, filterRemoteNameRequestCompleteEvent aContext globals)
    | some .commandCompleteEvent => (aContext, filterCommandCompleteEvent aContext globals)
    | some .inquiryResultEventGeneral => (filterInquiryResultEventGeneral aContext, globals)
    | none => (aContext, globals)
  else (aContext, globals)

/-- The hooks between two calls: the static variables, and `ctx.context`. -/
structure ReadHook where
  globals : Globals
  context : List UInt8

namespace ReadHook

/-- After `entry`. -/
def initial : ReadHook where
  globals :=
    { bluetoothSocket := -1
      deviceNames := fun _ => none
      localAddress := List.replicate 6 0
      readFilters := fun event =>
        if event = 0x07 then some .remoteNameRequestCompleteEvent
        else if event = 0x0E then some .commandCompleteEvent
        else if event = 0x22 ∨ event = 0x2F then some .inquiryResultEventGeneral
        else none }
  context := []

/-- `new_socket`, given the descriptor that the original function returns. -/
def newSocket (domain : Int32) (descriptor : Int32) (hook : ReadHook) : ReadHook :=
  if domain = 32 then
    { hook with globals := { hook.globals with bluetoothSocket := descriptor } }
  else hook

/-- `ctx` once the bytes of a read have been appended. -/
def receive (beyond data : List UInt8) (hook : ReadHook) : ReadContext where
  data := data
  offset := hook.context.length
  size := (hook.context ++ data).length % 2 ^ 32
  context := hook.context ++ data
  beyond := beyond
  outside := []

/-- `new_read`, given what the original function returns: the bytes it has put
into the buffer, or its result when that is an error.  The result comes with
the stores outside of the buffers. -/
def newRead (beyond : List UInt8) (fildes : Int32) (original : Except Int (List UInt8))
    (hook : ReadHook) : Except Int (List UInt8) × List Store × ReadHook :=
  if fildes ≠ hook.globals.bluetoothSocket then (original, [], hook)
  else
    match original with
    | .error result => (.error result, [], hook)
    | .ok data =>
        if data.length < 1 then (.ok data, [], hook)
        else
          let ctx := hook.receive beyond data
          -- computed before the header is known to be complete
          let pktSize := ctx.pktSize
          let (ctx, globals) := runFilter ctx hook.globals
          (.ok ctx.data, ctx.outside, ⟨globals, if ctx.size ≥ pktSize then [] else ctx.context⟩)

end ReadHook
/-! ## What a read does -/

/-- The read patches the event. -/
def Patches (aContext : ReadContext) (globals : Globals) : Prop :=
  aContext.byteAt 0 = 0x04 ∧
    globals.readFilters (aContext.byteAt 1) = some .inquiryResultEventGeneral ∧
    16 ≤ aContext.size ∧ aContext.byteAt 3 = 1 ∧ aContext.byteAt 13 &&& 0x1F = 0x05

/-- The inquiry results are filtered, and nothing else is by that filter. -/
def Globals.FiltersInquiries (globals : Globals) : Prop :=
  ∀ code, globals.readFilters code = some .inquiryResultEventGeneral ↔ isInquiryResult code = true

variable {aContext : ReadContext} {globals : Globals}

theorem runFilter_patches (hPatches : Patches aContext globals) :
    (runFilter aContext globals).1 = aContext.writeByte 12 0x40 := by
  obtain ⟨hType, hFilter, hSize, hOne, hClass⟩ := hPatches
  simp only [runFilter, if_pos hType, hFilter]
  rw [filterInquiryResultEventGeneral, if_neg (by simp [hOne]; omega), if_pos hClass]

theorem runFilter_keeps (hKeeps : ¬ Patches aContext globals) :
    (runFilter aContext globals).1 = aContext := by
  unfold runFilter
  split_ifs with hType
  · split
    · rfl
    · rfl
    next hFilter =>
      unfold filterInquiryResultEventGeneral
      split_ifs with hSkip hClass
      · rfl
      · rw [not_or, not_lt, not_not] at hSkip
        exact absurd ⟨hType, hFilter, hSkip.1, hSkip.2, hClass⟩ hKeeps
      · rfl
    · rfl
  · rfl

theorem storeContext_size (index : Nat) (value : UInt8) :
    (aContext.storeContext index value).size = aContext.size := by
  unfold ReadContext.storeContext
  split_ifs <;> rfl

theorem storeData_size (index : Int) (value : UInt8) :
    (aContext.storeData index value).size = aContext.size := by
  unfold ReadContext.storeData
  split_ifs <;> rfl

theorem writeByte_size (aOffset : Nat) (aValue : UInt8) :
    (aContext.writeByte aOffset aValue).size = aContext.size := by
  simp only [ReadContext.writeByte]
  split_ifs
  · rfl
  · rw [storeData_size, storeContext_size]
  · exact storeContext_size aOffset aValue

/-- No filter changes the size of the buffer. -/
theorem runFilter_size : (runFilter aContext globals).1.size = aContext.size := by
  by_cases hPatches : Patches aContext globals
  · rw [runFilter_patches hPatches, writeByte_size]
  · rw [runFilter_keeps hPatches]

/-- No filter touches the table of filters, except that Command Complete takes
itself out. -/
theorem runFilter_globals (aContext : ReadContext)
    (hFilters : globals.FiltersInquiries) :
    (runFilter aContext globals).2.FiltersInquiries ∧
      (runFilter aContext globals).2.bluetoothSocket = globals.bluetoothSocket := by
  unfold runFilter
  split_ifs
  · split
    · unfold filterRemoteNameRequestCompleteEvent
      split_ifs
      · exact ⟨hFilters, rfl⟩
      · exact ⟨hFilters, rfl⟩
    · unfold filterCommandCompleteEvent
      split_ifs
      · exact ⟨hFilters, rfl⟩
      · -- the entry of Command Complete is gone; it was not an inquiry filter
        refine ⟨fun code => ?_, rfl⟩
        show Function.update globals.readFilters 0x0E none code = _ ↔ _
        by_cases hCode : code = 0x0E
        · subst hCode
          rw [Function.update_self]
          exact iff_of_false (by simp) (by decide)
        · rw [Function.update_of_ne hCode]
          exact hFilters code
    · exact ⟨hFilters, rfl⟩
    · exact ⟨hFilters, rfl⟩
  · exact ⟨hFilters, rfl⟩

/-- Where the patch goes: into the buffer that is kept, and into the buffer of the
caller if byte 12 was read last. -/
theorem writeByte_twelve (value : UInt8) (hSize : aContext.size = aContext.context.length)
    (hLength : aContext.context.length = aContext.offset + aContext.data.length)
    (hEnough : 16 ≤ aContext.size) :
    (aContext.writeByte 12 value).context = aContext.context.set 12 value ∧
      (aContext.writeByte 12 value).data =
        (if aContext.offset ≤ 12 then aContext.data.set (12 - aContext.offset) value
          else aContext.data) ∧
      (aContext.writeByte 12 value).size = aContext.size := by
  have hInside : 12 < aContext.context.length := by omega
  have hStore : aContext.storeContext 12 value =
      { aContext with context := aContext.context.set 12 value } := if_pos hInside
  have hTotal : 12 < aContext.offset + aContext.size := by omega
  simp only [ReadContext.writeByte, if_neg hInside.not_gt, hStore, if_pos hTotal,
    ReadContext.storeData]
  -- with a larger offset the store goes to the memory before the buffer
  by_cases hOffset : aContext.offset ≤ 12
  · have hIndex : ((12 : Nat) : Int) - aContext.offset = (12 - aContext.offset : Nat) := by omega
    rw [if_pos (by omega), if_pos hOffset, hIndex]
    exact ⟨rfl, rfl, rfl⟩
  · rw [if_neg (by omega), if_neg hOffset]
    exact ⟨rfl, rfl, rfl⟩

/-- A read of some bytes on the Bluetooth socket. -/
theorem newRead_ok (beyond : List UInt8) {data : List UInt8} (hData : data ≠ [])
    (hook : ReadHook) :
    hook.newRead beyond hook.globals.bluetoothSocket (.ok data) =
      let ctx := hook.receive beyond data
      let filtered := runFilter ctx hook.globals
      (.ok filtered.1.data, filtered.1.outside,
        ⟨filtered.2, if filtered.1.size ≥ ctx.pktSize then [] else filtered.1.context⟩) := by
  have hLength : ¬ data.length < 1 := by
    have := List.length_pos_of_ne_nil hData
    omega
  simp only [ReadHook.newRead, ne_eq, not_true_eq_false, if_false, if_neg hLength]

end BTServerFilter
end MFiWrapper
