import MFiWrapper.BTServerFilter.ReadHook

/-!
# What a read makes of a buffer that begins with a packet

The decisions of `new_read` in terms of the packet: whether the buffer is
cleared and whether it is patched.  The header may have arrived in part only;
then the sizes that the code computes from the memory behind the buffer are
too large to clear it, and no filter looks at so short a buffer.
-/

namespace MFiWrapper
namespace BTServerFilter

/-- The buffer is a beginning of the bytes, and its size has not wrapped. -/
structure ReadContext.Begins (aContext : ReadContext) (bytes : List UInt8) : Prop where
  isPrefix : aContext.context <+: bytes
  nonempty : 0 < aContext.context.length
  size : aContext.size = aContext.context.length

namespace ReadContext.Begins

variable {aContext : ReadContext} {bytes tail : List UInt8} {packet : Packet}

theorem byteAt (hBegins : aContext.Begins bytes) {i : Nat} (hi : i < aContext.context.length) :
    bytes[i]? = some (aContext.byteAt i) := by
  obtain ⟨rest, rfl⟩ := hBegins.isPrefix
  rw [List.getElem?_append_left hi, ReadContext.byteAt, List.getD_eq_getElem?_getD,
    List.getElem?_append_left hi, List.getElem?_eq_getElem hi, Option.getD_some]

theorem byteAt_eq (hBegins : aContext.Begins bytes) {i : Nat}
    (hi : i < aContext.context.length) {byte : UInt8} (hByte : bytes[i]? = some byte) :
    aContext.byteAt i = byte :=
  Option.some.inj ((hBegins.byteAt hi).symm.trans hByte)

/-- The buffer is cleared when the packet is complete, and only then. -/
theorem pktSize_le_iff (hBegins : aContext.Begins (packet.bytes ++ tail)) :
    aContext.pktSize ≤ aContext.context.length ↔
      packet.bytes.length ≤ aContext.context.length := by
  cases packet with
  | event code params hLength hResponse =>
      have hType : aContext.byteAt 0 = 0x04 := hBegins.byteAt_eq hBegins.nonempty rfl
      rw [ReadContext.pktSize, if_pos hType]
      simp only [Packet.bytes, List.length_cons]
      by_cases hHeader : 2 < aContext.context.length
      · have hSize : aContext.byteAt 2 = UInt8.ofNat params.length :=
          hBegins.byteAt_eq hHeader rfl
        have hValue : (UInt8.ofNat params.length).toNat = params.length := by
          simp only [UInt8.toNat_ofNat']
          omega
        rw [hSize, hValue]
      · -- whatever is read for the length, the result is at least 3
        omega
  | acl handleLow handleHigh payload hLength =>
      have hType : aContext.byteAt 0 = 0x02 := hBegins.byteAt_eq hBegins.nonempty rfl
      rw [ReadContext.pktSize, if_neg (by rw [hType]; decide), if_pos hType]
      simp only [Packet.bytes, List.length_cons]
      by_cases hHeader : 4 < aContext.context.length
      · have hLow : aContext.byteAt 3 = UInt8.ofNat payload.length :=
          hBegins.byteAt_eq (by omega) rfl
        have hHigh : aContext.byteAt 4 = UInt8.ofNat (payload.length / 256) :=
          hBegins.byteAt_eq hHeader rfl
        rw [hLow, hHigh, twoBytes_toNat hLength]
      · omega

/-- The patch is made when the packet calls for it and enough of it has arrived,
whatever follows the packet in the buffer. -/
theorem patches_iff (hBegins : aContext.Begins (packet.bytes ++ tail))
    (hTail : tail[0]? ≠ some 1) {globals : Globals} (hFilters : globals.FiltersInquiries) :
    Patches aContext globals ↔
      packet.isPeripheralResult = true ∧ 16 ≤ aContext.context.length := by
  cases packet with
  | event code params hLength hResponse =>
      have hType : aContext.byteAt 0 = 0x04 := hBegins.byteAt_eq hBegins.nonempty rfl
      have hParam {i : Nat} (hi : i + 3 < aContext.context.length) (hParams : i < params.length) :
          params[i]? = some (aContext.byteAt (i + 3)) := by
        rw [← hBegins.byteAt hi, List.getElem?_append_left (by simpa [Packet.bytes] using hParams)]
        rfl
      rw [Packet.isPeripheralResult_event]
      constructor
      · rintro ⟨-, hFilter, hSize, hOne, hClass⟩
        rw [hBegins.size] at hSize
        have hCode : aContext.byteAt 1 = code := hBegins.byteAt_eq (by omega) rfl
        rw [hFilters, hCode] at hFilter
        -- the count of responses is not the type of a packet behind this one
        have hSome : 0 < params.length := by
          by_contra hNone
          obtain rfl : params = [] := List.eq_nil_of_length_eq_zero (by omega)
          have hThird := hBegins.byteAt (i := 3) (by omega)
          rw [hOne] at hThird
          exact hTail hThird
        have hFirst : params[0]? = some 1 := by rw [hParam (by omega) hSome, hOne]
        have hLong := hResponse hFilter hFirst
        refine ⟨⟨hFilter, hFirst, ?_⟩, hSize⟩
        rw [List.getD_eq_getElem?_getD, hParam (by omega) (by omega)]
        exact hClass
      · rintro ⟨⟨hCode, hFirst, hClass⟩, hSize⟩
        have hLong := hResponse hCode hFirst
        have hCodeAt : aContext.byteAt 1 = code := hBegins.byteAt_eq (by omega) rfl
        refine ⟨hType, ?_, by rw [hBegins.size]; exact hSize, ?_, ?_⟩
        · rw [hFilters, hCodeAt]
          exact hCode
        · exact Option.some.inj ((hParam (by omega) (by omega)).symm.trans hFirst)
        · rw [List.getD_eq_getElem?_getD, hParam (by omega) (by omega)] at hClass
          exact hClass
  | acl handleLow handleHigh payload hLength =>
      have hType : aContext.byteAt 0 = 0x02 := hBegins.byteAt_eq hBegins.nonempty rfl
      refine iff_of_false ?_ ?_
      · rintro ⟨hEvent, -⟩
        rw [hType] at hEvent
        exact absurd hEvent (by decide)
      · rintro ⟨hPeripheral, -⟩
        cases hPeripheral

/-- What the filters make of the buffer and of the bytes of the caller. -/
theorem runFilter (hBegins : aContext.Begins (packet.bytes ++ tail)) (hTail : tail[0]? ≠ some 1)
    {globals : Globals} (hFilters : globals.FiltersInquiries)
    (hLength : aContext.context.length = aContext.offset + aContext.data.length) :
    (runFilter aContext globals).1.size = aContext.size ∧
      (runFilter aContext globals).1.context =
        (if packet.isPeripheralResult = true ∧ 16 ≤ aContext.context.length then
          aContext.context.set 12 0x40 else aContext.context) ∧
      ((runFilter aContext globals).1.data = aContext.data ∨
        packet.isPeripheralResult = true ∧ aContext.offset ≤ 12 ∧
          (runFilter aContext globals).1.data = aContext.data.set (12 - aContext.offset) 0x40) := by
  have hPatch := hBegins.patches_iff hTail hFilters
  by_cases hPatches : Patches aContext globals
  · have hCalls := hPatch.mp hPatches
    obtain ⟨hContext, hData, hSize⟩ := writeByte_twelve 0x40 hBegins.size hLength
      (hBegins.size ▸ hCalls.2)
    rw [runFilter_patches hPatches, hContext, if_pos hCalls]
    refine ⟨hSize, rfl, ?_⟩
    by_cases hEarly : aContext.offset ≤ 12
    · rw [hData, if_pos hEarly]
      exact .inr ⟨hCalls.1, hEarly, rfl⟩
    · rw [hData, if_neg hEarly]
      exact .inl rfl
  · rw [runFilter_keeps hPatches, if_neg fun hCalls => hPatches (hPatch.mpr hCalls)]
    exact ⟨rfl, rfl, .inl rfl⟩

end ReadContext.Begins

end BTServerFilter
end MFiWrapper
