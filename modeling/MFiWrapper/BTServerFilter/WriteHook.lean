import MFiWrapper.BTServerFilter.ReadHook

/-!
# `BTServerFilter.cpp`: the hook on the writing side

`new_write` and the filters of written commands.  What the original function
returns is a parameter: the result of its first, second, … call during one call
of the hook.
-/

namespace MFiWrapper
namespace BTServerFilter

/-- `original_write`: its result for each call, given the bytes. -/
abbrev OriginalWrite := Nat → List UInt8 → Int

/-- The functions in the table of write filters. -/
inductive WriteFilter
  | acceptConnectionRequestCommand
  | pinCodeRequestReplyCommand
  deriving DecidableEq

/-- The table, which `entry` fills once. -/
def writeFilters (opcode : Nat) : Option WriteFilter :=
  if opcode = 0x0409 then some .acceptConnectionRequestCommand
  else if opcode = 0x040D then some .pinCodeRequestReplyCommand
  else none

/-- The text "Nintendo RVL-CNT-01". -/
def wiiRemoteText : List UInt8 :=
  [0x4E, 0x69, 0x6E, 0x74, 0x65, 0x6E, 0x64, 0x6F, 0x20, 0x52, 0x56, 0x4C, 0x2D, 0x43, 0x4E, 0x54,
    0x2D, 0x30, 0x31]

/-- `name.find("Nintendo RVL-CNT-01", 0)` is not `npos`. -/
def namesWiiRemote (name : List UInt8) : Bool := decide (wiiRemoteText <:+: name)

/-- A filter returns its result and the bytes it has given to `original_write`. -/
def filterAcceptConnectionRequestCommand (original : OriginalWrite) (aBuffer : List UInt8) :
    Int × List (List UInt8) :=
  if aBuffer.length = 11 then
    let newPacket := aBuffer.set 10 0
    (original 0 newPacket, [newPacket])
  else (0, [])

/-- The command with PIN length 6 and the address as the PIN. -/
def withPIN (address aBuffer : List UInt8) : List UInt8 :=
  aBuffer.take 10 ++ 6 :: address ++ aBuffer.drop 17

/-- `FilterPINCodeRequestReplyCommand`. -/
def filterPINCodeRequestReplyCommand (original : OriginalWrite) (globals : Globals)
    (aBuffer : List UInt8) : Int × List (List UInt8) :=
  if aBuffer.length = 27 then
    match globals.deviceNames ((aBuffer.drop 4).take 6) with
    | none => (0, [])
    | some name =>
        if !namesWiiRemote name then (0, [])
        else
          let newPacket := withPIN globals.localAddress aBuffer
          (original 0 newPacket, [newPacket])
  else (0, [])

/-- The call of the filter for the command, if there is one. -/
def runWriteFilter (original : OriginalWrite) (globals : Globals) (bb : List UInt8) :
    Int × List (List UInt8) :=
  if bb.getD 0 0 = 0x01 then
    match writeFilters ((bb.getD 2 0).toNat <<< 8 ||| (bb.getD 1 0).toNat) with
    | some .acceptConnectionRequestCommand => filterAcceptConnectionRequestCommand original bb
    | some .pinCodeRequestReplyCommand => filterPINCodeRequestReplyCommand original globals bb
    | none => (0, [])
  else (0, [])

/-- `new_write`: its result, and the bytes given to `original_write`.  When the
write of a filter fails, the bytes of the caller are written after all. -/
def ReadHook.newWrite (original : OriginalWrite) (fildes : Int32) (buf : List UInt8)
    (hook : ReadHook) : Int × List (List UInt8) :=
  if fildes ≠ hook.globals.bluetoothSocket then (original 0 buf, [buf])
  else
    let (writeFilter, written) := runWriteFilter original hook.globals buf
    if writeFilter < 1 then (original written.length buf, written ++ [buf])
    else (buf.length, written)

/-! ## Commands -/

/-- An HCI command, as the caller writes it. -/
structure HCICommand where
  opcode : UInt16
  params : List UInt8
  length_le : params.length ≤ 255

namespace HCICommand

def bytes (command : HCICommand) : List UInt8 :=
  0x01 :: UInt8.ofNat command.opcode.toNat :: UInt8.ofNat (command.opcode.toNat / 256) ::
    UInt8.ofNat command.params.length :: command.params

/-- A PIN Code Request Reply of 27 bytes. -/
def isPINReply (command : HCICommand) : Bool :=
  command.opcode = 0x040D && command.params.length = 23

/-- The device a PIN Code Request Reply is about. -/
def address (command : HCICommand) : List UInt8 := command.params.take 6

end HCICommand

/-- Every write transmits all bytes. -/
def wholeWrites : OriginalWrite := fun _ data => data.length

variable {hook : ReadHook} {command : HCICommand}

theorem runWriteFilter_command (original : OriginalWrite) (globals : Globals) :
    runWriteFilter original globals command.bytes =
      match writeFilters command.opcode.toNat with
      | some .acceptConnectionRequestCommand =>
          filterAcceptConnectionRequestCommand original command.bytes
      | some .pinCodeRequestReplyCommand =>
          filterPINCodeRequestReplyCommand original globals command.bytes
      | none => (0, []) := by
  have hOpcode : (UInt8.ofNat (command.opcode.toNat / 256)).toNat <<< 8 |||
      (UInt8.ofNat command.opcode.toNat).toNat = command.opcode.toNat := by
    rw [Nat.or_comm]
    exact twoBytes_toNat (Nat.le_of_lt_succ command.opcode.toNat_lt)
  have hType : command.bytes.getD 0 0 = 0x01 := rfl
  have hLow : command.bytes.getD 1 0 = UInt8.ofNat command.opcode.toNat := rfl
  have hHigh : command.bytes.getD 2 0 = UInt8.ofNat (command.opcode.toNat / 256) := rfl
  rw [runWriteFilter, if_pos hType, hLow, hHigh, hOpcode]

/-- What becomes of a PIN Code Request Reply. -/
theorem newWrite_pinReply (hReply : command.isPINReply = true) :
    (hook.newWrite wholeWrites hook.globals.bluetoothSocket command.bytes).2 =
      if (hook.globals.deviceNames command.address).any namesWiiRemote then
        [withPIN hook.globals.localAddress command.bytes]
      else [command.bytes] := by
  obtain ⟨hOpcode, hParams⟩ : command.opcode = 0x040D ∧ command.params.length = 23 := by
    simpa [HCICommand.isPINReply] using hReply
  have hFilter : writeFilters command.opcode.toNat = some .pinCodeRequestReplyCommand := by
    rw [hOpcode]
    rfl
  have hLength : command.bytes.length = 27 := by
    simp [HCICommand.bytes, hParams]
  have hAddress : (command.bytes.drop 4).take 6 = command.address := rfl
  simp only [ReadHook.newWrite, ne_eq, not_true_eq_false, if_false, runWriteFilter_command,
    hFilter, filterPINCodeRequestReplyCommand, if_pos hLength, hAddress]
  cases hName : hook.globals.deviceNames command.address with
  | none => simp
  | some name =>
      by_cases hWii : namesWiiRemote name = true
      · -- the write of the filter transmits something, so the hook is done
        have hWritten : ¬ wholeWrites 0 (withPIN hook.globals.localAddress command.bytes) < 1 := by
          simp only [wholeWrites, withPIN, List.length_append, List.length_take, hLength,
            List.length_cons]
          omega
        simp [hWii, hWritten]
      · simp [hWii]

end BTServerFilter
end MFiWrapper
