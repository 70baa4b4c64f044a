import MFiWrapper.Library.StreamPosition

/-!
# The packets on the Bluetooth socket

What the controller sends over the socket: HCI events and ACL packets, one
after the other.  A packet carries the proof that its length fits its header.
-/

namespace MFiWrapper
namespace BTServerFilter

open Library

/-- The event code of Inquiry Result with RSSI or of Extended Inquiry Result. -/
def isInquiryResult (code : UInt8) : Bool := code = 0x22 || code = 0x2F

/-- An inquiry result with one response holds it: the count, the address, two
bytes, the class of device, the clock offset and the signal strength. -/
def HoldsResponse (code : UInt8) (params : List UInt8) : Prop :=
  isInquiryResult code = true → params[0]? = some 1 → 15 ≤ params.length

instance (code : UInt8) (params : List UInt8) : Decidable (HoldsResponse code params) :=
  inferInstanceAs (Decidable (_ → _ → _))

/-- The two bytes of a 16-bit number. -/
theorem twoBytes_toNat {n : Nat} (hn : n ≤ 65535) :
    (UInt8.ofNat n).toNat ||| (UInt8.ofNat (n / 256)).toNat <<< 8 = n := by
  have hLow : (UInt8.ofNat n).toNat = n % 256 := by simp
  have hHigh : (UInt8.ofNat (n / 256)).toNat = n / 256 := by
    simp only [UInt8.toNat_ofNat']
    omega
  rw [hLow, hHigh, Nat.or_comm, ← Nat.shiftLeft_add_eq_or_of_lt (by omega : n % 256 < 2 ^ 8),
    Nat.shiftLeft_eq]
  omega

inductive Packet
  /-- Type 0x04. -/
  | event (code : UInt8) (params : List UInt8) (hLength : params.length ≤ 255)
      (hResponse : HoldsResponse code params)
  /-- Type 0x02, with the two bytes of handle and flags. -/
  | acl (handleLow handleHigh : UInt8) (payload : List UInt8) (hLength : payload.length ≤ 65535)

namespace Packet

def bytes : Packet → List UInt8
  | event code params _ _ => 0x04 :: code :: UInt8.ofNat params.length :: params
  | acl handleLow handleHigh payload _ =>
      0x02 :: handleLow :: handleHigh :: UInt8.ofNat payload.length ::
        UInt8.ofNat (payload.length / 256) :: payload

/-- An inquiry result whose one response has the major class Peripheral. -/
def isPeripheralResult : Packet → Bool
  | event code params _ _ =>
      isInquiryResult code && params[0]? = some 1 && params.getD 10 0 &&& 0x1F = 0x05
  | acl _ _ _ _ => false

/-- The packet with the low byte of the class of device set to keyboard, if it is
an inquiry result whose one response is a peripheral. -/
def asKeyboard : Packet → Packet
  | event code params hLength hResponse =>
      if (event code params hLength hResponse).isPeripheralResult then
        event code (params.set 9 0x40) (by simpa using hLength) (by
          simpa [HoldsResponse, List.getElem?_set] using hResponse)
      else event code params hLength hResponse
  | acl handleLow handleHigh payload hLength => acl handleLow handleHigh payload hLength

theorem isPeripheralResult_event {code : UInt8} {params : List UInt8}
    {hLength : params.length ≤ 255} {hResponse : HoldsResponse code params} :
    (event code params hLength hResponse).isPeripheralResult = true ↔
      isInquiryResult code = true ∧ params[0]? = some 1 ∧ params.getD 10 0 &&& 0x1F = 0x05 := by
  simp [isPeripheralResult, and_assoc]

/-- The bytes that decide about the patch all belong to the packet. -/
theorem length_of_isPeripheralResult {packet : Packet}
    (hPeripheral : packet.isPeripheralResult = true) : 18 ≤ packet.bytes.length := by
  cases packet with
  | event code params hLength hResponse =>
      obtain ⟨hCode, hOne, -⟩ := isPeripheralResult_event.mp hPeripheral
      have := hResponse hCode hOne
      simp only [bytes, List.length_cons]
      omega
  | acl handleLow handleHigh payload hLength => cases hPeripheral

/-- Only byte 12 differs. -/
theorem asKeyboard_bytes (packet : Packet) :
    packet.asKeyboard.bytes =
      if packet.isPeripheralResult then packet.bytes.set 12 0x40 else packet.bytes := by
  cases packet with
  | event code params hLength hResponse =>
      rw [asKeyboard]
      split_ifs
      · simp [bytes]
      · rfl
  | acl handleLow handleHigh payload hLength => rfl

@[simp] theorem asKeyboard_length (packet : Packet) :
    packet.asKeyboard.bytes.length = packet.bytes.length := by
  rw [asKeyboard_bytes]
  split_ifs <;> simp

theorem asKeyboard_isPeripheralResult (packet : Packet) :
    packet.asKeyboard.isPeripheralResult = packet.isPeripheralResult := by
  cases packet with
  | event code params hLength hResponse =>
      rw [asKeyboard]
      split_ifs
      · simp [isPeripheralResult]
      · rfl
  | acl handleLow handleHigh payload hLength => rfl

/-- Beyond byte 12 there is no difference. -/
theorem asKeyboard_drop (packet : Packet) {k : Nat} (hk : 12 < k) :
    packet.asKeyboard.bytes.drop k = packet.bytes.drop k := by
  rw [asKeyboard_bytes]
  split_ifs
  · exact List.drop_set_of_lt hk
  · rfl

theorem length_pos (packet : Packet) : 0 < packet.bytes.length := by
  cases packet <;> simp [bytes]

theorem length_le (packet : Packet) : packet.bytes.length ≤ 65540 := by
  cases packet <;> simp only [bytes, List.length_cons] <;> omega

/-- A packet begins with its type, which is not 1. -/
theorem head_ne_one (packet : Packet) : packet.bytes[0]? ≠ some 1 := by
  cases packet <;> simp [bytes]

/-- The packet as the read hook knows it when it has seen `k` bytes: patched as
soon as that is enough to tell. -/
def seen (packet : Packet) (k : Nat) : Packet :=
  if packet.isPeripheralResult = true ∧ 16 ≤ k then packet.asKeyboard else packet

theorem seen_eq_or (packet : Packet) (k : Nat) :
    packet.seen k = packet ∨ packet.seen k = packet.asKeyboard := by
  unfold seen
  split_ifs
  · exact .inr rfl
  · exact .inl rfl

@[simp] theorem seen_length (packet : Packet) (k : Nat) :
    (packet.seen k).bytes.length = packet.bytes.length := by
  rcases packet.seen_eq_or k with h | h <;> simp [h]

theorem seen_isPeripheralResult (packet : Packet) (k : Nat) :
    (packet.seen k).isPeripheralResult = packet.isPeripheralResult := by
  rcases packet.seen_eq_or k with h | h
  · rw [h]
  · rw [h, asKeyboard_isPeripheralResult]

/-- The bytes that have not been seen are not patched. -/
theorem seen_drop (packet : Packet) (k : Nat) :
    (packet.seen k).bytes.drop k = packet.bytes.drop k := by
  unfold seen
  split_ifs with h
  · exact packet.asKeyboard_drop (by omega)
  · rfl

/-- Patching once more makes no difference. -/
theorem seen_set {packet : Packet} (hPeripheral : packet.isPeripheralResult = true) (k : Nat) :
    (packet.seen k).bytes.set 12 0x40 = packet.asKeyboard.bytes := by
  rcases packet.seen_eq_or k with h | h
  · rw [h, asKeyboard_bytes, if_pos hPeripheral]
  · rw [h, asKeyboard_bytes, if_pos hPeripheral, List.set_set]

end Packet
end BTServerFilter
end MFiWrapper
