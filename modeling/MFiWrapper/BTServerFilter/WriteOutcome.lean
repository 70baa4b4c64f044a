import MFiWrapper.BTServerFilter.WriteHook

/-!
# `BTServerFilter.cpp`: what becomes of the outcome of a write

`new_write` takes the result of a write filter for the answer to "is the command
handled".  The filters answer with the result of their own write, which can be
anything that `write` may return.
-/

namespace MFiWrapper
namespace BTServerFilter

/-- What `write` may return: it fails, or it accepts some of the bytes. -/
def OriginalWrite.Possible (original : OriginalWrite) : Prop :=
  ∀ call data, original call data = -1 ∨
    0 ≤ original call data ∧ original call data ≤ (data.length : Int)

/-- The command that the filters make of the bytes of the caller, if they do. -/
def rewritten (globals : Globals) (bb : List UInt8) : Option (List UInt8) :=
  if bb.getD 0 0 = 0x01 then
    match writeFilters ((bb.getD 2 0).toNat <<< 8 ||| (bb.getD 1 0).toNat) with
    | some .acceptConnectionRequestCommand =>
        if bb.length = 11 then some (bb.set 10 0) else none
    | some .pinCodeRequestReplyCommand =>
        if bb.length = 27 ∧ (globals.deviceNames ((bb.drop 4).take 6)).any namesWiiRemote then
          some (withPIN globals.localAddress bb)
        else none
    | none => none
  else none

/-- The hook honours what became of the writes it has made: one version of the
command is sent, the unrewritten one only if no other was to be, and the caller
is told the result. -/
structure Honours (original : OriginalWrite) (buf : List UInt8)
    (outcome : Int × List (List UInt8)) : Prop where
  oneVersion : ∀ (first second : Nat) (one other : List UInt8),
    outcome.2[first]? = some one → outcome.2[second]? = some other →
      0 < original first one → 0 < original second other → one = other
  unrewritten : (∃ written ∈ outcome.2, written ≠ buf) →
    ∀ call, outcome.2[call]? = some buf → original call buf ≤ 0
  result : ∃ calls written, outcome.2.length = calls + 1 ∧
    outcome.2[calls]? = some written ∧ outcome.1 = original calls written

/-- The outcomes that the hook has an answer to. -/
def Foreseen (original : OriginalWrite) (globals : Globals) (buf : List UInt8) : Prop :=
  ∀ newPacket, rewritten globals buf = some newPacket →
    if 0 < original 0 newPacket then original 0 newPacket = buf.length
    else newPacket = buf ∨ original 1 buf ≤ 0

variable {original : OriginalWrite} {globals : Globals} {hook : ReadHook} {buf : List UInt8}

/-- A filter makes one write, of the command it has rewritten, or none. -/
theorem runWriteFilter_eq (original : OriginalWrite) (globals : Globals) (bb : List UInt8) :
    runWriteFilter original globals bb =
      match rewritten globals bb with
      | none => (0, [])
      | some newPacket => (original 0 newPacket, [newPacket]) := by
  unfold runWriteFilter rewritten
  by_cases hCommand : bb.getD 0 0 = 0x01
  · rw [if_pos hCommand, if_pos hCommand]
    cases writeFilters ((bb.getD 2 0).toNat <<< 8 ||| (bb.getD 1 0).toNat) with
    | none => rfl
    | some filter =>
        cases filter with
        | acceptConnectionRequestCommand =>
            simp only [filterAcceptConnectionRequestCommand]
            split_ifs
            · rfl
            · rfl
        | pinCodeRequestReplyCommand =>
            simp only [filterPINCodeRequestReplyCommand]
            cases globals.deviceNames ((bb.drop 4).take 6) with
            | none => simp
            | some name =>
                by_cases hSize : bb.length = 27
                · cases hWii : namesWiiRemote name <;> simp [hSize, hWii]
                · simp [hSize]
  · rw [if_neg hCommand, if_neg hCommand]

theorem newWrite_unfiltered (hNone : rewritten hook.globals buf = none) :
    hook.newWrite original hook.globals.bluetoothSocket buf = (original 0 buf, [buf]) := by
  simp [ReadHook.newWrite, runWriteFilter_eq, hNone]

theorem newWrite_handled {newPacket : List UInt8}
    (hSome : rewritten hook.globals buf = some newPacket) (hAccepted : 0 < original 0 newPacket) :
    hook.newWrite original hook.globals.bluetoothSocket buf =
      ((buf.length : Int), [newPacket]) := by
  have hHandled : ¬ original 0 newPacket < 1 := by omega
  simp [ReadHook.newWrite, runWriteFilter_eq, hSome, hHandled]

/-- A write of a filter that sends nothing is taken for a filter that did nothing. -/
theorem newWrite_unhandled {newPacket : List UInt8}
    (hSome : rewritten hook.globals buf = some newPacket)
    (hRefused : ¬ 0 < original 0 newPacket) :
    hook.newWrite original hook.globals.bluetoothSocket buf =
      (original 1 buf, [newPacket, buf]) := by
  have hUnhandled : original 0 newPacket < 1 := by omega
  simp [ReadHook.newWrite, runWriteFilter_eq, hSome, hUnhandled]

theorem honours_singleton_iff {written : List UInt8} {result : Int} :
    Honours original buf (result, [written]) ↔ result = original 0 written := by
  constructor
  · rintro ⟨-, -, calls, last, hCalls, hLast, hResult⟩
    obtain rfl : calls = 0 := by simpa using hCalls.symm
    obtain rfl : written = last := by simpa using hLast
    exact hResult
  · rintro rfl
    refine ⟨?_, ?_, 0, written, rfl, rfl, rfl⟩
    · intro first second one other hOne hOther _ _
      rw [List.getElem?_singleton] at hOne hOther
      split_ifs at hOne hOther
      exact Option.some.inj (hOne.symm.trans hOther)
    · rintro ⟨other, hOther, hDiffers⟩ call hCall
      rw [List.getElem?_singleton] at hCall
      split_ifs at hCall
      exact absurd (List.mem_singleton.mp hOther ▸ Option.some.inj hCall) hDiffers

/-- The second write is that of the caller's own bytes; the first has sent nothing. -/
theorem honours_pair_iff {newPacket : List UInt8} (hRefused : ¬ 0 < original 0 newPacket) :
    Honours original buf (original 1 buf, [newPacket, buf]) ↔
      newPacket = buf ∨ original 1 buf ≤ 0 := by
  constructor
  · intro hHonours
    by_cases hSame : newPacket = buf
    · exact .inl hSame
    · exact .inr (hHonours.unrewritten ⟨newPacket, List.mem_cons_self, hSame⟩ 1 rfl)
  · intro hCases
    refine ⟨?_, ?_, 1, buf, rfl, rfl, rfl⟩
    · -- only the second write can have sent anything
      have hSecond (call : Nat) (data : List UInt8) (hData : [newPacket, buf][call]? = some data)
          (hSent : 0 < original call data) : data = buf := by
        match call with
        | 0 =>
            obtain rfl : newPacket = data := Option.some.inj hData
            exact absurd hSent hRefused
        | 1 => exact (Option.some.inj hData).symm
        | _ + 2 => cases hData
      intro first second one other hOne hOther hFirst hSent
      rw [hSecond first one hOne hFirst, hSecond second other hOther hSent]
    · rintro ⟨written, hWritten, hDiffers⟩ call hCall
      obtain rfl | hNone := hCases
      · exact absurd (by simpa using hWritten) hDiffers
      · match call with
        | 0 =>
            obtain rfl : newPacket = buf := Option.some.inj hCall
            exact Int.not_lt.mp hRefused
        | 1 => exact hNone
        | _ + 2 => cases hCall

/-- The outcome of a write on the Bluetooth socket is honoured exactly if it is
one of those that the hook foresees: the rewritten command is sent completely, or
neither version is. -/
theorem newWrite_honours_iff (original : OriginalWrite) (hook : ReadHook) (buf : List UInt8) :
    Honours original buf (hook.newWrite original hook.globals.bluetoothSocket buf) ↔
      Foreseen original hook.globals buf := by
  unfold Foreseen
  cases hRewritten : rewritten hook.globals buf with
  | none =>
      rw [newWrite_unfiltered hRewritten, honours_singleton_iff]
      exact iff_of_true rfl fun _ hSome => nomatch hSome
  | some newPacket =>
      simp only [Option.some.injEq, forall_eq']
      split_ifs with hSent
      · rw [newWrite_handled hRewritten hSent, honours_singleton_iff]
        exact eq_comm
      · rw [newWrite_unhandled hRewritten hSent, honours_pair_iff hSent]

/-- A write that fails, and then succeeds; or one that sends five bytes. -/
def failsOnce : OriginalWrite := fun call data => if call = 0 then -1 else data.length

def sendsFive : OriginalWrite := fun _ data => min 5 data.length

theorem failsOnce_possible : failsOnce.Possible := by
  intro call data
  unfold failsOnce
  split_ifs
  · exact .inl rfl
  · exact .inr ⟨by omega, Int.le_refl _⟩

theorem sendsFive_possible : sendsFive.Possible := by
  intro call data
  unfold sendsFive
  omega

/-- An Accept Connection Request that asks to remain the slave. -/
def acceptAsSlave : List UInt8 := [0x01, 0x09, 0x04, 7, 1, 2, 3, 4, 5, 6, 1]

/-- The unpatched command is sent after all when the write of the patched one
fails; and five bytes sent are reported as eleven. -/
theorem newWrite_dishonours :
    (failsOnce.Possible ∧ ¬ Honours failsOnce acceptAsSlave
      ((ReadHook.initial.newSocket 32 5).newWrite failsOnce 5 acceptAsSlave)) ∧
    sendsFive.Possible ∧ ¬ Honours sendsFive acceptAsSlave
      ((ReadHook.initial.newSocket 32 5).newWrite sendsFive 5 acceptAsSlave) := by
  refine ⟨⟨failsOnce_possible, fun hHonours => ?_⟩, sendsFive_possible, fun hHonours => ?_⟩
  · have hSent := hHonours.unrewritten ⟨acceptAsSlave.set 10 0, by decide, by decide⟩ 1 (by decide)
    exact absurd hSent (by decide)
  · obtain ⟨calls, written, hCalls, hWritten, hResult⟩ := hHonours.result
    obtain rfl : calls = 0 := by
      have hOne : calls + 1 = 1 := hCalls.symm
      omega
    obtain rfl : acceptAsSlave.set 10 0 = written := Option.some.inj hWritten
    exact absurd hResult (by decide)

end BTServerFilter
end MFiWrapper
