import MFiWrapper.Backend.WiiMoteRuns

/-!
# Read replies in the handshake

The byte behind the buttons of a memory-read reply has the size of the data and an
error code.  The driver shifts the size down and passes it on to a handshake that does
not look at it; the error code it drops.  When a failed read is taken for a
successful one, and when it is not.
-/

namespace MFiWrapper
namespace WiiMote

open Library HIDPad Wiimote

/-! ## Replies -/

/-- The error code of a read reply; 0 is success. -/
def errorNibble (aData : Bytes) : UInt8 := aData 4 &&& 0x0F

/-- How many bytes a read reply supplies: `((msg[2] & 0xF0) >> 4) + 1`. -/
def replySize (aData : Bytes) : Nat := ((aData 4 &&& 0xF0) >>> 4).toNat + 1

/-- The first bytes of a classic controller's identification. -/
def IsClassicId (aData : Bytes) : Prop :=
  aData 7 = 0xA4 ∧ aData 8 = 0x20 ∧ aData 9 = 0x01 ∧ aData 10 = 0x01

/-- The command that asks for the 16 bytes of calibration data. -/
def calibrationRequest : DriverCall :=
  .setReport false 0x17 [0x52, 0x17, 0x04, 0xA4, 0x00, 0x20, 0x00, 0x10]

/-- A memory-read reply, and the calls the driver answered it with. -/
structure ReadReply where
  aData : Bytes
  calls : List DriverCall

/-- The reply has identified a classic controller, and the driver has gone on to ask for
the calibration data. -/
structure ReadReply.Identifies (reply : ReadReply) : Prop where
  succeeded : errorNibble reply.aData = 0
  id : IsClassicId reply.aData
  asked : calibrationRequest ∈ reply.calls

/-! ## Runs -/

/-- A run with the read replies that have come since the last status report with the
attachment bit. -/
structure History where
  trace : Trace
  replies : List ReadReply

/-- The event is a read reply. -/
def Event.IsRead : Event → Prop
  | .handlePacket aData => aData 1 = 0x21
  | .setPlayerIndex _ => False

/-- The replies after an event that was answered by `calls`. -/
def Event.replies (calls : List DriverCall) (replies : List ReadReply) : Event → List ReadReply
  | .handlePacket aData =>
      if aData 1 = 0x20 ∧ attachmentBit aData then []
      else if aData 1 = 0x21 then replies ++ [⟨aData, calls⟩]
      else replies
  | .setPlayerIndex _ => replies

def History.step (history : History) (e : Event) : Option History := do
  let trace ← history.trace.step e
  let calls := trace.calls.drop history.trace.calls.length
  return { trace := trace, replies := e.replies calls history.replies }

/-- How far a driver is on its way to `EXP_CLASSIC`. -/
def progress (device : WiimoteT) : Nat :=
  if device.exp.type = .classic then 3
  else if device.handshakeState = 5 then 2
  else if device.handshakeState = 4 then 1
  else 0

/-- The handshake has advanced only on successful reads.  Where the type becomes
`EXP_CLASSIC`, the last two read replies since the attachment was reported are a successful
one with the identification and a successful one to the calibration request that
followed it; and after a failed read the driver is no further than before. -/
structure AdvancesOnSuccess (history history' : History) (e : Event) : Prop where
  classic : history.trace.device.exp.type ≠ .classic →
    history'.trace.device.exp.type = .classic →
    ∃ first second, [first, second] <:+ history'.replies ∧
      first.Identifies ∧ 4 ≤ replySize first.aData ∧ errorNibble second.aData = 0
  failed : ∀ aData, e = .handlePacket aData → aData 1 = 0x21 → errorNibble aData ≠ 0 →
    progress history'.trace.device ≤ progress history.trace.device

/-- The event completes, and so the handshake advances. -/
def Advances (history : History) (e : Event) : Prop :=
  ∃ history', history.step e = some history' ∧ AdvancesOnSuccess history history' e

/-- The replies that move the handshake are successful: an identification in state 4, and
any reply in state 5.  In state 5, moreover, a read reply with at least 4 bytes has come
since the attachment was last reported. -/
def ReadsSucceed (history : History) : Event → Prop
  | .handlePacket aData => aData 1 = 0x21 →
      (history.trace.device.handshakeState = 4 → IsClassicId aData → errorNibble aData = 0) ∧
      (history.trace.device.handshakeState = 5 → errorNibble aData = 0 ∧
        ∃ reply ∈ history.replies, 4 ≤ replySize reply.aData)
  | .setPlayerIndex _ => True

/-! ## The identification -/

theorem isClassicId_iff (aData : Bytes) :
    bigEndianLong (aData.drop 7) = 0xa4200101 ↔ IsClassicId aData := by
  have h0 := (aData 7).toNat_lt
  have h1 := (aData 8).toNat_lt
  have h2 := (aData 9).toNat_lt
  have h3 := (aData 10).toNat_lt
  have hBytes : bigEndianLong (aData.drop 7) =
      UInt32.ofNat (readLE [aData 10, aData 9, aData 8, aData 7]) := rfl
  rw [IsClassicId, hBytes, ← UInt32.toNat_inj, UInt32.toNat_ofNat']
  simp only [readLE_cons, readLE_nil, ← UInt8.toNat_inj]
  show _ = 0xa4200101 ↔ _ = 0xA4 ∧ _ = 0x20 ∧ _ = 0x01 ∧ _ = 0x01
  omega

theorem signal_of_read {aData : Bytes} (hRead : aData 1 = 0x21) :
    Event.signal (.handlePacket aData) =
      if bigEndianLong (aData.drop 7) = 0xa4200101 then .classicId else .otherReply := by
  simp [Event.signal, Wiimote.signal, hRead]

/-- An identification is answered with the request of the calibration data. -/
theorem calibrationRequest_sent {device device' : WiimoteT} {aData : Bytes}
    {calls : List DriverCall} (hRep : Represents device .awaitId) (hRead : aData 1 = 0x21)
    (hId : IsClassicId aData) (hHandle : handlePacket aData device = some (device', calls)) :
    calibrationRequest ∈ calls := by
  have hRep' := represents_pressed hRep (aData.drop 2)
  have hAsk : wiimoteReadData (wiimotePressedButtons device (aData.drop 2)) 0x04A40020 16 =
      some [calibrationRequest] := by
    rw [wiimoteReadData, hRep'.connected]
    rfl
  have hState : (wiimotePressedButtons device (aData.drop 2)).handshakeState = 4 :=
    hRep'.handshakeState
  have hDrop : (aData.drop 2).drop 5 = aData.drop 7 := aData.drop_drop 2 5
  have hTurn : handshakeTurn 0x21 (some (aData.drop 7))
      (wiimotePressedButtons device (aData.drop 2)) = some (.returns 0
        { wiimotePressedButtons device (aData.drop 2) with handshakeState := 5 }
        [calibrationRequest]) := by
    simp [handshakeTurn, hState, handshakeTurnIdentify, (isClassicId_iff aData).mpr hId, hAsk]
  have hReport : handleReport aData device = some
      ({ wiimotePressedButtons device (aData.drop 2) with handshakeState := 5 },
        [calibrationRequest]) := by
    simp [handleReport, hRead, hDrop, wiimoteHandshake, handshakeLoop_returns hTurn 2]
  rw [handlePacket, hReport] at hHandle
  obtain ⟨rfl, rfl⟩ := Prod.mk.inj (Option.some.inj hHandle)
  exact List.mem_cons_self

/-! ## The invariant -/

/-- A driver that waits for the identification has had no read reply, and one that waits
for the calibration data has had that identification, unless the attachment was
reported again. -/
structure History.Inv (history : History) (phase : Phase) : Prop where
  trace : history.trace.Inv phase
  unidentified : phase = .awaitId → history.replies = []
  identified : phase = .awaitCalibration →
    history.replies = [] ∨ ∃ first : ReadReply, history.replies = [first] ∧ first.Identifies

variable {history : History} {phase : Phase}

theorem History.Inv.step (hInv : history.Inv phase) (e : Event) :
    ∃ history', history.step e = some history' ∧ history'.trace.Inv (phase.next e.signal) ∧
      ∃ calls, history'.replies = e.replies calls history.replies ∧
        ∀ aData, e = .handlePacket aData → ∃ device',
          handlePacket aData history.trace.device = some (device', calls) := by
  obtain ⟨trace', hStep, hInv', -⟩ := hInv.trace.step e
  refine ⟨⟨trace', e.replies (trace'.calls.drop history.trace.calls.length) history.replies⟩,
    by rw [History.step, hStep]; rfl, hInv', _, rfl, ?_⟩
  rintro aData rfl
  obtain ⟨⟨device', calls⟩, hHandle, hTrace⟩ := Option.bind_eq_some_iff.mp hStep
  obtain rfl := Option.some.inj hTrace
  exact ⟨device', by rw [hHandle, List.drop_left]⟩

/-- The same of a phase. -/
def phaseProgress : Phase → Nat
  | .classic => 3
  | .awaitCalibration => 2
  | .awaitId => 1
  | _ => 0

theorem progress_of_represents {device : WiimoteT} (hRep : Represents device phase) :
    progress device = phaseProgress phase := by
  rw [progress, hRep.type, hRep.handshakeState]
  cases phase <;> rfl

/-- A driver that gets no further, and whose type does not become `EXP_CLASSIC`, advances
as it should. -/
theorem advances_of_stay {history' : History} {e : Event} {phase' : Phase}
    (hRep : Represents history.trace.device phase)
    (hRep' : Represents history'.trace.device phase')
    (hType : phase'.expType = .classic → phase.expType = .classic)
    (hProgress : e.IsRead → progress history'.trace.device ≤ progress history.trace.device) :
    AdvancesOnSuccess history history' e where
  classic hNot hClassic := by
    rw [hRep'.type] at hClassic
    exact absurd (hRep.type.trans (hType hClassic)) hNot
  failed aData hEvent hRead _ := hProgress (by rw [hEvent]; exact hRead)

/-- Events other than read replies. -/
theorem event_unread {e : Event} (hUnread : ¬ e.IsRead) :
    (e.signal = .attached ∧ ∀ calls replies, e.replies calls replies = []) ∨
      ((e.signal = .detached ∨ e.signal = .other) ∧
        ∀ calls replies, e.replies calls replies = replies) := by
  cases e with
  | setPlayerIndex aIndex => exact .inr ⟨.inr rfl, fun _ _ => rfl⟩
  | handlePacket aData =>
      have hNoRead : aData 1 ≠ 0x21 := hUnread
      by_cases hStatus : aData 1 = 0x20
      · cases hBit : attachmentBit aData with
        | true => exact .inl (by simp [Event.signal, Event.replies, hStatus, hBit])
        | false => exact .inr (by simp [Event.signal, Event.replies, hStatus, hBit])
      · exact .inr (by simp [Event.signal, Event.replies, hStatus, hNoRead])

theorem History.Inv.unread (hInv : history.Inv phase) {e : Event} (hUnread : ¬ e.IsRead) :
    ∃ history', history.step e = some history' ∧ AdvancesOnSuccess history history' e ∧
      history'.Inv (phase.next e.signal) := by
  obtain ⟨history', hStep, hInv', calls, hReplies, -⟩ := hInv.step e
  refine ⟨history', hStep, advances_of_stay hInv.trace.represents hInv'.represents ?_
    (absurd · hUnread), hInv', ?_, ?_⟩
  · rcases event_unread hUnread with ⟨h, -⟩ | ⟨h | h, -⟩ <;> rw [h] <;> cases phase <;>
      simp [Phase.next, Phase.expType]
  · -- the wait for the identification begins with the report of the attachment
    rw [hReplies]
    rcases event_unread hUnread with ⟨-, hNone⟩ | ⟨hSignal, hSame⟩
    · exact fun _ => hNone _ _
    · intro hNext
      rw [hSame]
      refine hInv.unidentified ?_
      rcases hSignal with h | h <;> rw [h] at hNext <;> cases phase <;>
        first | rfl | cases hNext
  · rw [hReplies]
    rcases event_unread hUnread with ⟨-, hNone⟩ | ⟨hSignal, hSame⟩
    · exact fun _ => .inl (hNone _ _)
    · intro hNext
      rw [hSame]
      refine hInv.identified ?_
      rcases hSignal with h | h <;> rw [h] at hNext <;> cases phase <;>
        first | rfl | cases hNext

variable {aData : Bytes}

theorem replies_of_read (hRead : aData 1 = 0x21) (calls : List DriverCall)
    (replies : List ReadReply) :
    Event.replies calls replies (.handlePacket aData) = replies ++ [⟨aData, calls⟩] := by
  simp [Event.replies, hRead]

/-- A read reply that nothing is waiting for. -/
theorem History.Inv.unasked (hInv : history.Inv phase) (hRead : aData 1 = 0x21)
    (hIdle : phase ≠ .awaitId ∧ phase ≠ .awaitCalibration) :
    ∃ history', history.step (.handlePacket aData) = some history' ∧
      AdvancesOnSuccess history history' (.handlePacket aData) ∧ history'.Inv phase := by
  obtain ⟨history', hStep, hInv', -⟩ := hInv.step (.handlePacket aData)
  have hNext : phase.next (Event.signal (.handlePacket aData)) = phase := by
    rw [signal_of_read hRead]
    split_ifs <;> cases phase <;> simp [Phase.next] at hIdle ⊢
  rw [hNext] at hInv'
  refine ⟨history', hStep, advances_of_stay hInv.trace.represents hInv'.represents id
    (fun _ => ?_), hInv', (absurd · hIdle.1), (absurd · hIdle.2)⟩
  rw [progress_of_represents hInv.trace.represents, progress_of_represents hInv'.represents]

/-- A read reply in state 4. -/
theorem History.Inv.identify (hInv : history.Inv .awaitId) (hRead : aData 1 = 0x21) :
    ∃ history', history.step (.handlePacket aData) = some history' ∧
      (AdvancesOnSuccess history history' (.handlePacket aData) ↔
        (IsClassicId aData → errorNibble aData = 0)) ∧
      ((IsClassicId aData → errorNibble aData = 0) → ∃ phase', history'.Inv phase') := by
  obtain ⟨history', hStep, hInv', calls, hReplies, hHandle⟩ := hInv.step (.handlePacket aData)
  obtain ⟨device', hHandle⟩ := hHandle aData rfl
  rw [signal_of_read hRead] at hInv'
  refine ⟨history', hStep, ?_⟩
  have hBefore := progress_of_represents hInv.trace.represents
  by_cases hId : IsClassicId aData
  · rw [if_pos ((isClassicId_iff aData).mpr hId)] at hInv'
    have hAfter := progress_of_represents hInv'.represents
    refine ⟨⟨fun hAdvances _ => ?_, fun hSuccess => ⟨fun _ hType => ?_, ?_⟩⟩,
      fun hSuccess => ⟨_, hInv', (nomatch ·), fun _ => .inr ⟨⟨aData, calls⟩, ?_, hSuccess hId, hId,
        calibrationRequest_sent hInv.trace.represents hRead hId hHandle⟩⟩⟩
    · by_contra hFailed
      have hLess := hAdvances.failed aData rfl hRead hFailed
      rw [hBefore, hAfter] at hLess
      exact absurd hLess (by decide)
    · rw [hInv'.represents.type] at hType
      cases hType
    · rintro _ hEvent _ hFailed
      cases hEvent
      exact absurd (hSuccess hId) hFailed
    · rw [hReplies, replies_of_read hRead, hInv.unidentified rfl]
      rfl
  · rw [if_neg (mt (isClassicId_iff aData).mp hId)] at hInv'
    have hAfter := progress_of_represents hInv'.represents
    refine ⟨iff_of_true (advances_of_stay hInv.trace.represents hInv'.represents
      (nomatch ·) fun _ => ?_) (absurd · hId), fun _ => ⟨_, hInv', (nomatch ·), (nomatch ·)⟩⟩
    rw [hBefore, hAfter]
    decide

/-- A read reply in state 5. -/
theorem History.Inv.calibrate (hInv : history.Inv .awaitCalibration) (hRead : aData 1 = 0x21) :
    ∃ history', history.step (.handlePacket aData) = some history' ∧ history'.Inv .classic ∧
      (AdvancesOnSuccess history history' (.handlePacket aData) ↔
        errorNibble aData = 0 ∧ ∃ reply ∈ history.replies, 4 ≤ replySize reply.aData) := by
  obtain ⟨history', hStep, hInv', calls, hReplies, -⟩ := hInv.step (.handlePacket aData)
  have hNext : Phase.next .awaitCalibration (Event.signal (.handlePacket aData)) = .classic := by
    rw [signal_of_read hRead]
    split_ifs <;> rfl
  rw [hNext] at hInv'
  rw [replies_of_read hRead] at hReplies
  have hBefore := progress_of_represents hInv.trace.represents
  have hAfter := progress_of_represents hInv'.represents
  have hNone : history.trace.device.exp.type ≠ .classic := by
    rw [hInv.trace.represents.type]
    decide
  refine ⟨history', hStep, ⟨hInv', (nomatch ·), (nomatch ·)⟩, fun hAdvances => ⟨?_, ?_⟩, ?_⟩
  · by_contra hFailed
    have hLess := hAdvances.failed aData rfl hRead hFailed
    rw [hBefore, hAfter] at hLess
    exact absurd hLess (by decide)
  · obtain ⟨first, second, hSuffix, -, hSize, -⟩ :=
      hAdvances.classic hNone hInv'.represents.type
    rw [hReplies] at hSuffix
    refine ⟨first, ?_, hSize⟩
    obtain ⟨earlier, hEarlier⟩ := hSuffix
    have hSplit : (earlier ++ [first]) ++ [second] = history.replies ++ [⟨aData, calls⟩] := by
      rw [List.append_assoc]
      exact hEarlier
    rw [← (List.append_inj' hSplit rfl).1]
    exact List.mem_append_right _ (List.mem_singleton.mpr rfl)
  · rintro ⟨hSuccess, reply, hReply, hSize⟩
    refine ⟨fun _ _ => ?_, ?_⟩
    · -- there was a reply, so it was the identification
      rcases hInv.identified rfl with hEmpty | ⟨first, hFirst, hIdentifies⟩
      · rw [hEmpty] at hReply
        cases hReply
      · rw [hFirst] at hReply hReplies
        obtain rfl := List.mem_singleton.mp hReply
        exact ⟨reply, ⟨aData, calls⟩, by rw [hReplies]; exact List.suffix_rfl, hIdentifies, hSize,
          hSuccess⟩
    · rintro _ hEvent _ hFailed
      cases hEvent
      exact absurd hSuccess hFailed

/-! ## Whole runs -/

theorem advances_iff_of_step {history' : History} {e : Event}
    (hStep : history.step e = some history') :
    Advances history e ↔ AdvancesOnSuccess history history' e := by
  constructor
  · rintro ⟨other, hOther, hAdvances⟩
    obtain rfl := Option.some.inj (hStep.symm.trans hOther)
    exact hAdvances
  · exact fun hAdvances => ⟨history', hStep, hAdvances⟩

/-- One event: it advances the handshake as it should if and only if the reads it needs
have succeeded. -/
theorem History.Inv.advances_iff (hInv : history.Inv phase) (e : Event) :
    (Advances history e ↔ ReadsSucceed history e) ∧
      (ReadsSucceed history e → ∃ history' phase', history.step e = some history' ∧
        history'.Inv phase') := by
  have hState := hInv.trace.represents.handshakeState
  by_cases hRead : e.IsRead
  · obtain ⟨aData, rfl⟩ : ∃ aData, e = .handlePacket aData := by
      cases e with
      | handlePacket aData => exact ⟨aData, rfl⟩
      | setPlayerIndex aIndex => cases hRead
    have hReadId : aData 1 = 0x21 := hRead
    by_cases hId : phase = .awaitId
    · subst hId
      obtain ⟨history', hStep, hIff, hNext⟩ := hInv.identify hReadId
      have hReads : ReadsSucceed history (.handlePacket aData) ↔
          (IsClassicId aData → errorNibble aData = 0) := by
        simp [ReadsSucceed, hReadId, hState, Phase.handshakeState]
      rw [advances_iff_of_step hStep, hReads]
      refine ⟨hIff, fun hSuccess => ?_⟩
      obtain ⟨phase', hInv'⟩ := hNext hSuccess
      exact ⟨history', phase', hStep, hInv'⟩
    by_cases hCalibration : phase = .awaitCalibration
    · subst hCalibration
      obtain ⟨history', hStep, hInv', hIff⟩ := hInv.calibrate hReadId
      have hReads : ReadsSucceed history (.handlePacket aData) ↔ errorNibble aData = 0 ∧
          ∃ reply ∈ history.replies, 4 ≤ replySize reply.aData := by
        simp [ReadsSucceed, hReadId, hState, Phase.handshakeState]
      rw [advances_iff_of_step hStep, hReads]
      exact ⟨hIff, fun _ => ⟨history', _, hStep, hInv'⟩⟩
    · obtain ⟨history', hStep, hAdvances, hInv'⟩ := hInv.unasked hReadId ⟨hId, hCalibration⟩
      refine ⟨iff_of_true ⟨history', hStep, hAdvances⟩ fun _ => ?_,
        fun _ => ⟨history', _, hStep, hInv'⟩⟩
      rw [hState]
      cases phase <;> simp [Phase.handshakeState] at hId hCalibration ⊢
  · obtain ⟨history', hStep, hAdvances, hInv'⟩ := hInv.unread hRead
    refine ⟨iff_of_true ⟨history', hStep, hAdvances⟩ ?_, fun _ => ⟨history', _, hStep, hInv'⟩⟩
    cases e with
    | handlePacket aData => exact fun hReadId => absurd hReadId hRead
    | setPlayerIndex aIndex => trivial

/-- From the construction on, every event of a run advances the handshake as it should if
and only if the reads it rests on have succeeded each time. -/
theorem advances_iff_readsSucceed (events : List Event) :
    ∃ start, Trace.start = some start ∧
      (Along History.step Advances ⟨start, []⟩ events ↔
        Along History.step ReadsSucceed ⟨start, []⟩ events) := by
  obtain ⟨start, hStart, hInit, -⟩ := construct_inv
  have hIff (history : History) (e : Event) (hInv : ∃ phase, history.Inv phase) :
      Advances history e ↔ ReadsSucceed history e := by
    obtain ⟨phase, hInv⟩ := hInv
    exact (hInv.advances_iff e).1
  have hKept (history : History) (e : Event) (history' : History)
      (hInv : ∃ phase, history.Inv phase) (hSucceed : ReadsSucceed history e)
      (hStep : history.step e = some history') : ∃ phase, history'.Inv phase := by
    obtain ⟨phase, hInv⟩ := hInv
    obtain ⟨other, phase', hOther, hInv'⟩ := (hInv.advances_iff e).2 hSucceed
    obtain rfl := Option.some.inj (hStep.symm.trans hOther)
    exact ⟨phase', hInv'⟩
  exact ⟨start, hStart, along_iff_along hIff hKept
    ⟨.awaitStatus, hInit, (nomatch ·), (nomatch ·)⟩ events⟩

/-- The controller is pulled out after its identification: the read of the calibration
data fails, with error 7, and the driver takes the extension for a classic
controller. -/
theorem failed_read_advances :
    ∃ start, Trace.start = some start ∧
      ¬ Along History.step Advances ⟨start, []⟩
        [report [0xA1, 0x20, 0, 0, 0x02],
          report [0xA1, 0x21, 0, 0, 0x30, 0x00, 0xFC, 0xA4, 0x20, 0x01, 0x01],
          report [0xA1, 0x21, 0, 0, 0xF7, 0x00, 0x20]] := by
  refine ⟨_, rfl, ?_⟩
  rintro ⟨-, hSecond⟩
  obtain ⟨-, hThird⟩ := hSecond _ rfl
  obtain ⟨⟨history', hStep, hAdvances⟩, -⟩ := hThird _ rfl
  obtain rfl := Option.some.inj hStep
  exact absurd (hAdvances.failed _ rfl rfl (by decide)) (by decide)

end WiiMote
end MFiWrapper
