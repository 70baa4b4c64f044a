import MFiWrapper.Library.FixedBuffer
import MFiWrapper.Backend.Wiimote

/-!
# What a memory write puts on the wire

`wiimote_write_data` and `wiimote_send`, store by store: a zeroed buffer of 21 bytes is
filled, copied behind a two-byte header into a second buffer of 32 bytes, and that is
handed to `HIDManager::SetReport`.  The lengths that are not refused go up to 255, the
first buffer has room for 16 bytes of data, and the second is never full.
-/

namespace MFiWrapper
namespace Wiimote

open Library HIDPad

/-! ## The stores -/

namespace Stores

/-- `htonl` on a little-endian host. -/
def htonl (hostlong : UInt32) : UInt32 := UInt32.ofNat (readLE (le32 hostlong).reverse)

/-- `wiimote_send`.  The local buffer is not initialized: `stack` is what it holds. -/
def wiimoteSend (stack : Vector UInt8 32) (reportType : UInt8) (msg : List UInt8) :
    Option (List DriverCall) := do
  let buf ← store stack 0 [0x50 ||| 0x02]
  let buf ← store buf 1 [reportType]
  let buf ← store buf 2 msg
  return [.setReport false reportType (buf.toList.take (msg.length + 2))]

/-- `wiimote_write_data`. -/
def wiimoteWriteData (stack : Vector UInt8 32) (wm : WiimoteT) (addr : UInt32)
    (data : List UInt8) : Option (List DriverCall) :=
  if !wm.isSet .connected then some []
  else if data.length = 0 then some []
  else do
    let buf ← store (Vector.replicate 21 0) 0 (le32 (htonl addr))
    let buf ← store buf 4 [UInt8.ofNat data.length]
    let buf ← store buf 5 data
    wiimoteSend stack 0x16 buf.toList

theorem le32_htonl (addr : UInt32) : le32 (htonl addr) = (le32 addr).reverse := by
  have hLength : (le32 addr).reverse.length = 4 := by simp
  have hValue : (htonl addr).toNat = readLE (le32 addr).reverse := by
    rw [htonl, UInt32.toNat_ofNat_of_lt']
    exact (readLE_lt _).trans_eq (by rw [hLength]; rfl)
  rw [le32, hValue, ← hLength, writeLE_readLE]

/-- Whatever was in the local buffer, only the header and the message are handed over. -/
theorem wiimoteSend_eq (stack : Vector UInt8 32) (reportType : UInt8) (msg : List UInt8) :
    wiimoteSend stack reportType msg = Wiimote.wiimoteSend reportType msg := by
  have hStack : stack.toList = [] ++ stack.toList := rfl
  have hSize : stack.toList.length = 32 := Vector.length_toList
  obtain ⟨first, hFirst, hFirstFilled⟩ :=
    exists_store 0 [0x50 ||| 0x02] hStack rfl (by simp)
  obtain ⟨second, hSecond, hSecondFilled⟩ :=
    exists_store 1 [reportType] hFirstFilled rfl (by simp)
  simp only [wiimoteSend, Wiimote.wiimoteSend, hFirst, hSecond, Option.bind_eq_bind,
    Option.bind_some]
  split_ifs with hRoom
  · obtain ⟨third, hThird, hThirdFilled⟩ :=
      exists_store 2 msg hSecondFilled rfl (by simp; omega)
    rw [hThird, Option.bind_some, hThirdFilled, List.take_left' (by simp)]
    rfl
  · rw [store_eq_none_iff.mpr (by omega), Option.bind_none]

/-- The stores are those of the list that `Wiimote.wiimoteWriteData` sends. -/
theorem wiimoteWriteData_eq (stack : Vector UInt8 32) (wm : WiimoteT) (addr : UInt32)
    (data : List UInt8) :
    wiimoteWriteData stack wm addr data = Wiimote.wiimoteWriteData wm addr data := by
  have hZeros : (Vector.replicate 21 (0 : UInt8)).toList = [] ++ List.replicate 21 0 := rfl
  obtain ⟨first, hFirst, hFirstFilled⟩ :=
    exists_store 0 (le32 (htonl addr)) hZeros rfl (by simp)
  obtain ⟨second, hSecond, hSecondFilled⟩ :=
    exists_store 4 [UInt8.ofNat data.length] hFirstFilled (by simp) (by simp)
  simp only [wiimoteWriteData, Wiimote.wiimoteWriteData, hFirst, hSecond, Option.bind_eq_bind,
    Option.bind_some]
  congr 2
  split_ifs with hRoom
  · obtain ⟨third, hThird, hThirdFilled⟩ :=
      exists_store 5 data hSecondFilled (by simp) (by simp; omega)
    rw [hThird, Option.bind_some, wiimoteSend_eq, hThirdFilled, le32_htonl]
    simp only [List.drop_replicate, List.length_reverse, le32_length, List.length_singleton,
      List.nil_append]
  · rw [store_eq_none_iff.mpr (by omega), Option.bind_none]

end Stores

/-! ## The encoding -/

/-- A data block that is not refused: it is not empty, and its length is a byte. -/
structure Block where
  bytes : List UInt8
  nonempty : 0 < bytes.length
  length_lt : bytes.length < 256

/-- The payload of a memory write: address, length and data, and zeros up to 21 bytes. -/
def encodeWrite (addr : UInt32) (data : List UInt8) : List UInt8 :=
  [(addr >>> 24).toUInt8, (addr >>> 16).toUInt8, (addr >>> 8).toUInt8, addr.toUInt8] ++
    [UInt8.ofNat data.length] ++ data ++ List.replicate (16 - data.length) 0

/-- The address and the data that the fields of a payload say. -/
def decodeWrite (payload : List UInt8) : UInt32 × List UInt8 :=
  (UInt32.ofNat (readLE (payload.take 4).reverse),
    (payload.drop 5).take ((payload.drop 4).headD 0).toNat)

theorem reverse_le32 (addr : UInt32) :
    (le32 addr).reverse =
      [(addr >>> 24).toUInt8, (addr >>> 16).toUInt8, (addr >>> 8).toUInt8, addr.toUInt8] := by
  have hByte (shift : UInt32) (hShift : shift.toNat < 32) :
      (addr >>> shift).toUInt8 = UInt8.ofNat (addr.toNat / 2 ^ shift.toNat) := by
    rw [← UInt8.toNat_inj, UInt32.toNat_toUInt8, UInt32.toNat_shiftRight, Nat.mod_eq_of_lt hShift,
      Nat.shiftRight_eq_div_pow, UInt8.toNat_ofNat']
  have hLow : addr.toUInt8 = UInt8.ofNat addr.toNat := by
    rw [← UInt8.toNat_inj, UInt32.toNat_toUInt8, UInt8.toNat_ofNat']
  rw [hByte 24 (by decide), hByte 16 (by decide), hByte 8 (by decide), hLow]
  simp [le32, writeLE, Nat.div_div_eq_div_mul]

theorem encodeWrite_eq (addr : UInt32) (data : List UInt8) :
    encodeWrite addr data =
      (le32 addr).reverse ++ [UInt8.ofNat data.length] ++ data ++
        List.replicate (16 - data.length) 0 := by
  rw [encodeWrite, reverse_le32]

theorem length_encodeWrite (addr : UInt32) {data : List UInt8} (hFits : data.length ≤ 16) :
    (encodeWrite addr data).length = 21 := by
  simp only [encodeWrite_eq, List.length_append, List.length_reverse, le32_length,
    List.length_singleton, List.length_replicate]
  omega

/-- The fields of a payload say the address and the data it was made of. -/
theorem decodeWrite_encodeWrite (addr : UInt32) {data : List UInt8} (hFits : data.length ≤ 16) :
    decodeWrite (encodeWrite addr data) = (addr, data) := by
  have hAddress : (le32 addr).reverse.length = 4 := by simp
  have hCount : (UInt8.ofNat data.length).toNat = data.length :=
    UInt8.toNat_ofNat_of_lt (Nat.lt_of_le_of_lt hFits (by decide))
  have hPayload : encodeWrite addr data =
      (le32 addr).reverse ++ UInt8.ofNat data.length ::
        (data ++ List.replicate (16 - data.length) 0) := by
    simp [encodeWrite_eq]
  have hFields : (encodeWrite addr data).drop 4 =
      UInt8.ofNat data.length :: (data ++ List.replicate (16 - data.length) 0) := by
    rw [hPayload, List.drop_left' hAddress]
  have hData : (encodeWrite addr data).drop 5 =
      data ++ List.replicate (16 - data.length) 0 := by
    rw [show 5 = 4 + 1 from rfl, ← List.drop_drop, hFields, List.drop_succ_cons, List.drop_zero]
  rw [decodeWrite, hFields, hData, List.headD_cons, hCount, List.take_left' rfl, hPayload,
    List.take_left' hAddress, List.reverse_reverse, readLE_le32, UInt32.ofNat_toNat]

/-! ## What is handed over -/

/-- One output report is handed to `SetReport`: the header and a payload of 21 bytes that
encodes this address and this data, and says so. -/
def HandsOver (addr : UInt32) (data : List UInt8) (calls : Option (List DriverCall)) : Prop :=
  ∃ payload, calls = some [.setReport false 0x16 ([0x52, 0x16] ++ payload)] ∧
    payload = encodeWrite addr data ∧ payload.length = 21 ∧ decodeWrite payload = (addr, data)

variable {wm : WiimoteT}

/-- What a connected remote is sent. -/
theorem wiimoteWriteData_fits (hConnected : wm.isSet .connected = true) (addr : UInt32)
    {data : List UInt8} (hNonempty : 0 < data.length) (hFits : data.length ≤ 16) :
    wiimoteWriteData wm addr data =
      some [.setReport false 0x16 ([0x52, 0x16] ++ encodeWrite addr data)] := by
  have hSecond : 2 + (encodeWrite addr data).length ≤ 32 := by
    rw [length_encodeWrite addr hFits]
    decide
  rw [wiimoteWriteData, if_neg (by simp [hConnected]), if_neg hNonempty.ne', if_pos (by omega),
    ← encodeWrite_eq, wiimoteSend, if_pos hSecond]
  rfl

/-- More than 16 bytes of data end beyond the first buffer. -/
theorem wiimoteWriteData_overflows (hConnected : wm.isSet .connected = true) (addr : UInt32)
    {data : List UInt8} (hLong : 16 < data.length) : wiimoteWriteData wm addr data = none := by
  rw [wiimoteWriteData, if_neg (by simp [hConnected]), if_neg (by omega), if_neg (by omega)]

/-- A write of a block to a connected remote, with any contents of the stack, hands over
its address and data, without a store beyond a buffer, exactly if the block has at most
16 bytes. -/
theorem write_handed_over_iff (stack : Vector UInt8 32) (hConnected : wm.isSet .connected = true)
    (addr : UInt32) (block : Block) :
    HandsOver addr block.bytes (Stores.wiimoteWriteData stack wm addr block.bytes) ↔
      block.bytes.length ≤ 16 := by
  rw [Stores.wiimoteWriteData_eq]
  constructor
  · rintro ⟨payload, hHanded, -⟩
    by_contra hLong
    rw [wiimoteWriteData_overflows hConnected addr (Nat.lt_of_not_le hLong)] at hHanded
    cases hHanded
  · intro hFits
    exact ⟨_, wiimoteWriteData_fits hConnected addr block.nonempty hFits, rfl,
      length_encodeWrite addr hFits, decodeWrite_encodeWrite addr hFits⟩

/-- A remote that is connected, and nothing else. -/
def connectedRemote : WiimoteT := WiimoteT.zero.enable .connected

/-- A block of zeros. -/
def zeros (count : Nat) (hNonempty : 0 < count) (hByte : count < 256) : Block where
  bytes := List.replicate count 0
  nonempty := by rwa [List.length_replicate]
  length_lt := by rwa [List.length_replicate]

theorem write_handed_over_sixteen :
    HandsOver 0x04A40020 (List.replicate 16 0)
      (Stores.wiimoteWriteData (Vector.replicate 32 0xFF) connectedRemote 0x04A40020
        (List.replicate 16 0)) :=
  (write_handed_over_iff (Vector.replicate 32 0xFF) (by decide) 0x04A40020
    (zeros 16 (by decide) (by decide))).mpr (by decide)

/-- The length 17 is not refused, and its last byte is stored behind the first buffer. -/
theorem seventeen_bytes_overflow :
    ¬ ∀ (stack : Vector UInt8 32) (wm : WiimoteT) (addr : UInt32) (block : Block),
      wm.isSet .connected = true →
        HandsOver addr block.bytes (Stores.wiimoteWriteData stack wm addr block.bytes) := by
  intro hAll
  obtain ⟨payload, hHanded, -⟩ :=
    hAll (Vector.replicate 32 0) connectedRemote 0x04A40020
      (zeros 17 (by decide) (by decide)) (by decide)
  rw [Stores.wiimoteWriteData_eq, wiimoteWriteData_overflows (by decide) _ (by decide)]
    at hHanded
  cases hHanded

end Wiimote
end MFiWrapper
