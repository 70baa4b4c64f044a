import MFiWrapper.Backend.HIDPadWiiMote

/-!
# The Wii Remote driver over whole runs

What the phases of the handshake mean for the numbered states and flags of the
code, in every run of reports and player indices; and when the driver agrees
with the remote on whether an extension is plugged in.
-/

namespace MFiWrapper
namespace WiiMote

open Library HIDPad Wiimote

/-! ## States and flags -/

/-- The states and flags between two calls of the handshake, and the report
type the remote was last asked for. -/
structure HandshakeInvariant (trace : Trace) : Prop where
  state : trace.device.handshakeState = 1 ∨ trace.device.handshakeState = 4 ∨
    trace.device.handshakeState = 5
  exactlyOne : trace.device.isSet .handshake ≠ trace.device.isSet .handshakeComplete
  complete : trace.device.isSet .handshakeComplete → trace.device.handshakeState = 1
  waiting : trace.device.handshakeState = 4 ∨ trace.device.handshakeState = 5 →
    trace.device.isSet .handshake ∧ trace.device.isSet .exp ∧ trace.device.exp.type = .none
  classic : trace.device.exp.type = .classic →
    trace.device.isSet .exp ∧ trace.device.isSet .handshakeComplete
  connected : trace.device.isSet .connected
  reportType : trace.device.isSet .handshakeComplete →
    (reportTypes trace.calls).getLast? =
      some (if trace.device.exp.type = .classic then 0x34 else 0x30)

theorem Trace.Inv.handshakeInvariant {trace : Trace} {phase : Phase}
    (hInv : trace.Inv phase) : HandshakeInvariant trace := by
  have hRep := hInv.represents
  constructor
  · rw [hRep.handshakeState]
    cases phase <;> simp [Phase.handshakeState]
  · rw [hRep.handshake, hRep.complete]
    cases phase.waiting <;> simp
  · rw [hRep.complete, hRep.handshakeState]
    cases phase <;> simp [Phase.waiting, Phase.handshakeState]
  · rw [hRep.handshakeState, hRep.handshake, hRep.exp, hRep.type]
    cases phase <;> simp [Phase.waiting, Phase.handshakeState, Phase.extension, Phase.expType]
  · rw [hRep.type, hRep.exp, hRep.complete]
    cases phase <;> simp [Phase.waiting, Phase.extension, Phase.expType]
  · exact hRep.connected
  · rw [hRep.complete, hRep.type]
    intro hDone
    apply hInv.reports
    cases phase <;> first | rfl | cases hDone

/-- Every run of the driver completes, so that every call of the handshake in
it has returned; and the states and flags it leaves are related as stated. -/
theorem handshake_invariant (events : List Event) :
    ∃ trace, Trace.after events = some trace ∧ HandshakeInvariant trace := by
  obtain ⟨trace, phase, hAfter, hInv⟩ := Trace.after_inv events
  exact ⟨trace, hAfter, hInv.handshakeInvariant⟩

/-! ## Agreement with the remote -/

/-- Once the handshake is complete, the extension flag is the attachment bit of
the most recent status report, and there is a classic controller only if that
bit is set. -/
def HotPlugAgrees (trace : Trace) : Prop :=
  trace.device.isSet .handshakeComplete ∧ trace.device.handshakeState = 1 →
    trace.attachment = some (trace.device.isSet .exp) ∧
      (trace.device.exp.type = .classic → trace.attachment = some true)

/-- The event is a read reply that ends the wait for the extension: the reply
to the calibration request, or an identification other than a classic
controller's. -/
def EndsWait (device : WiimoteT) : Event → Prop
  | .handlePacket aData =>
      aData 1 = 0x21 ∧ (device.handshakeState = 5 ∨
        device.handshakeState = 4 ∧ bigEndianLong (aData.drop 7) ≠ 0xa4200101)
  | .setPlayerIndex _ => False

/-- A reply that ends the wait comes while the most recent status report still
says that an extension is attached. -/
def AttachedAtReply (trace : Trace) (e : Event) : Prop :=
  EndsWait trace.device e → trace.attachment = some true

/-- In the phases, the wait ends with the step that leads out of the waiting
phases with an extension. -/
theorem endsWait_iff {device : WiimoteT} {phase : Phase} (hRep : Represents device phase)
    (e : Event) :
    EndsWait device e ↔
      (phase = .awaitId ∨ phase = .awaitCalibration) ∧
        (phase.next e.signal).waiting = false := by
  cases e with
  | setPlayerIndex aIndex =>
      simp only [EndsWait, Event.signal, false_iff]
      rintro ⟨rfl | rfl, hDone⟩ <;> cases hDone
  | handlePacket aData =>
      by_cases hRead : aData 1 = 0x21
      · by_cases hId : bigEndianLong (aData.drop 7) = 0xa4200101 <;> cases phase <;>
          simp [EndsWait, Event.signal, Wiimote.signal, hRead, hId, hRep.handshakeState,
            Phase.handshakeState, Phase.next, Phase.waiting]
      · simp only [EndsWait, hRead, false_and, false_iff]
        rintro ⟨hPhase, hDone⟩
        by_cases hStatus : aData 1 = 0x20 <;> cases hBit : attachmentBit aData <;>
          rcases hPhase with rfl | rfl <;>
          simp [Event.signal, hRead, hStatus, hBit, Phase.next, Phase.waiting] at hDone

/-- The agreement, as an invariant of the phases. -/
def Agrees (trace : Trace) : Prop :=
  ∃ phase, trace.Inv phase ∧ (phase.waiting = false → trace.attachment = some phase.extension)

theorem Agrees.hotPlugAgrees {trace : Trace} (hAgrees : Agrees trace) :
    HotPlugAgrees trace := by
  obtain ⟨phase, hInv, hAttachment⟩ := hAgrees
  have hRep := hInv.represents
  rintro ⟨hComplete, -⟩
  rw [hRep.complete, Bool.not_eq_true'] at hComplete
  rw [hRep.exp, hRep.type, hAttachment hComplete]
  refine ⟨rfl, fun hType => ?_⟩
  cases phase <;> first | rfl | cases hType

/-- From the wait for an extension every step leads to a phase with one. -/
theorem extension_of_wait {phase : Phase} (hPhase : phase = .awaitId ∨ phase = .awaitCalibration)
    (s : Signal) : (phase.next s).extension = true := by
  rcases hPhase with rfl | rfl <;> cases s <;> rfl

/-- A step that is not a status report either keeps the phase or stays in the
waiting phases, or it ends the wait. -/
theorem next_of_no_status (phase : Phase) {s : Signal} (hSignal : s ≠ .attached ∧ s ≠ .detached)
    (hDone : (phase.next s).waiting = false) :
    phase.next s = phase ∨
      (phase = .awaitId ∨ phase = .awaitCalibration) ∧ (phase.next s).extension = true := by
  obtain ⟨hAttached, hDetached⟩ := hSignal
  cases s with
  | attached => exact absurd rfl hAttached
  | detached => exact absurd rfl hDetached
  | other => exact .inl (by cases phase <;> rfl)
  | classicId | otherReply =>
      cases phase with
      | awaitStatus | bare | unknownExtension | classic => exact .inl rfl
      | awaitId => exact .inr ⟨.inl rfl, extension_of_wait (.inl rfl) _⟩
      | awaitCalibration => exact .inr ⟨.inr rfl, extension_of_wait (.inr rfl) _⟩

/-- Outside the waiting phases the attachment bit follows the phase. -/
theorem attachment_next {phase : Phase} {attachment : Option Bool} {e : Event}
    (hOld : phase.waiting = false → attachment = some phase.extension)
    (hReply : (phase = .awaitId ∨ phase = .awaitCalibration) ∧
      (phase.next e.signal).waiting = false → attachment = some true)
    (hDone : (phase.next e.signal).waiting = false) :
    e.attachment attachment = some (phase.next e.signal).extension := by
  by_cases hStatus : ∃ aData, e = .handlePacket aData ∧ aData 1 = 0x20
  · obtain ⟨aData, rfl, hId⟩ := hStatus
    cases hBit : attachmentBit aData <;> cases phase <;>
      simp [Event.signal, Event.attachment, hId, hBit, Phase.next, Phase.waiting,
        Phase.extension] at hDone ⊢
  · have hKeep : e.attachment attachment = attachment ∧ e.signal ≠ .attached ∧
        e.signal ≠ .detached := by
      cases e with
      | setPlayerIndex aIndex => exact ⟨rfl, by simp [Event.signal], by simp [Event.signal]⟩
      | handlePacket aData =>
          have hId : aData 1 ≠ 0x20 := fun h => hStatus ⟨aData, rfl, h⟩
          refine ⟨if_neg hId, ?_⟩
          by_cases hRead : aData 1 = 0x21
          · by_cases hClassic : bigEndianLong (aData.drop 7) = 0xa4200101 <;>
              simp [Event.signal, Wiimote.signal, hRead, hClassic]
          · simp [Event.signal, hRead, hId]
    rw [hKeep.1]
    rcases next_of_no_status phase hKeep.2 hDone with hSame | ⟨hPhase, hExtension⟩
    · rw [hSame] at hDone ⊢
      exact hOld hDone
    · rw [hExtension]
      exact hReply ⟨hPhase, hDone⟩

/-- The driver agrees with the remote throughout a run if and only if every
reply that ends the wait for an extension comes while the most recent status
report says that one is attached.  In states 4 and 5 status reports are
dropped, so that an extension unplugged there is not noticed. -/
theorem hotPlugAgrees_iff_attachedAtReply (events : List Event) :
    ∃ start, Trace.start = some start ∧
      (Throughout Trace.step HotPlugAgrees start events ↔
        Along Trace.step AttachedAtReply start events) := by
  obtain ⟨start, hStart, hInit, -⟩ := construct_inv
  have hGood : ∀ trace : Trace, Agrees trace → HotPlugAgrees trace :=
    fun trace hAgrees => hAgrees.hotPlugAgrees
  refine ⟨start, hStart, throughout_iff_along hGood ?_ ?_ ?_ events⟩
  · rintro trace e ⟨phase, hInv, hAttachment⟩ hReply
    obtain ⟨trace', hStep, hInv', hNext⟩ := hInv.step e
    refine ⟨trace', hStep, _, hInv', fun hDone => ?_⟩
    rw [hNext]
    exact attachment_next hAttachment
      (fun hEnds => hReply ((endsWait_iff hInv.represents e).mpr hEnds)) hDone
  · rintro trace e ⟨phase, hInv, -⟩ hReply trace' hStep' hAgrees
    obtain ⟨hEnds, hDetached⟩ := Classical.not_imp.mp hReply
    obtain ⟨trace'', hStep, hInv', hNext⟩ := hInv.step e
    obtain rfl : trace'' = trace' := Option.some.inj (hStep.symm.trans hStep')
    obtain ⟨hPhase, hDone⟩ := (endsWait_iff hInv.represents e).mp hEnds
    have hKeep : e.attachment trace.attachment = trace.attachment := by
      cases e with
      | setPlayerIndex aIndex => rfl
      | handlePacket aData => exact if_neg (by rw [hEnds.1]; decide)
    have hComplete : trace''.device.isSet .handshakeComplete = true := by
      rw [hInv'.represents.complete, hDone]
      rfl
    have hBit := (hAgrees ⟨hComplete, hInv'.handshakeInvariant.complete hComplete⟩).1
    rw [hNext, hKeep, hInv'.represents.exp, extension_of_wait hPhase] at hBit
    exact hDetached hBit
  · exact ⟨_, hInit, fun hDone => by cases hDone⟩

instance (trace : Trace) : Decidable (HotPlugAgrees trace) :=
  inferInstanceAs (Decidable (_ → _))

/-- A report with the given first bytes, and zeros behind them. -/
def report (bytes : List UInt8) : Event := .handlePacket fun i => bytes.getD i 0

/-- An extension is plugged in and unplugged again before it has answered; a
late reply then completes the handshake with the extension flag set. -/
theorem not_hotPlugAgrees_after_unplug :
    ∃ trace, Trace.after
        [report [0xA1, 0x20, 0, 0, 0x02], report [0xA1, 0x20, 0, 0, 0x00],
          report [0xA1, 0x21, 0, 0, 0x30, 0, 0xFC, 0, 0, 0, 0]] = some trace ∧
      ¬ HotPlugAgrees trace := by
  refine ⟨_, rfl, ?_⟩
  decide

end WiiMote
end MFiWrapper
