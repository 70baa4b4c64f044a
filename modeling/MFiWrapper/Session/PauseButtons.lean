import MFiWrapper.Session.Pauses

/-!
# Pause buttons from end to end

A pause button that goes down in the reports of a pad calls the `controllerPausedHandler`
of the pad's controller: not twice, and not at all when it was down in the report before.
-/

namespace MFiWrapper

open Library HIDPad Frontend

/-! ## What a pad sends -/

namespace HIDPad

/-- How often a button goes down. -/
def rises : Bool → List Bool → Nat
  | _, [] => 0
  | held, down :: rest => (if !held && down then 1 else 0) + rises down rest

/-- How often the pause button goes down in the reports that a pad accepts.  It counts as
held before the first of them, and a Wii Remote has none. -/
def Kind.pausePresses (calls : List PadCall) : Kind → Nat
  | .playstation3 => rises true (calls.filterMap PausePad.playstation3.pauseOf)
  | .dualShock4 => rises true (calls.filterMap PausePad.dualShock4.pauseOf)
  | .wiiUPro => rises true (calls.filterMap PausePad.wiiUPro.pauseOf)
  | .wiiMote => 0

theorem Kind.pausePresses_of_pause (pause : PausePad) (calls : List PadCall) :
    pause.kind.pausePresses calls = rises true (calls.filterMap pause.pauseOf) := by
  cases pause <;> rfl

/-- The pause packets of a run. -/
theorem PausePad.inputsOf_count (pause : PausePad) (memory : InputMemory)
    (calls : List PadCall) :
    (pause.inputsOf memory calls).count .sendPausePressed =
      rises memory.pauseHeld (calls.filterMap pause.pauseOf) := by
  induction calls generalizing memory with
  | nil => rfl
  | cons c calls ih =>
      rw [inputsOf, List.count_append, ih, List.filterMap_cons]
      cases c with
      | setPlayerIndex aIndex => exact Nat.zero_add _
      | handlePacket aData aSize =>
          simp only [inputs, hear, pauseOf]
          split_ifs with hAccepts hDown
          · rw [after_pauseHeld, rises, if_pos hDown]
            rfl
          · rw [after_pauseHeld, rises, if_neg hDown]
            rfl
          · exact Nat.zero_add _

theorem count_inputs (pad : Pad) :
    pad.inputs.count .sendPausePressed = pad.calls.count .sendPausePressed :=
  List.count_filter rfl

/-- A pad sends a pause whenever its button goes down, and never else. -/
theorem pauses_of_receive {kind : Kind} {platform : Platform} {pad : Pad}
    {calls : List (Statics × PadCall)} (hCalls : ∀ c ∈ calls, c.1.Inv)
    (hRun : run Pad.receive (kind.connected platform) calls = some pad) :
    pad.calls.count .sendPausePressed = kind.pausePresses (calls.map Prod.snd) := by
  have hPause (pause : PausePad) (hKind : kind = pause.kind) :
      pad.calls.count .sendPausePressed = kind.pausePresses (calls.map Prod.snd) := by
    subst hKind
    obtain ⟨hNone, hHeld, -⟩ := connected_start platform pause
    obtain ⟨pad', hRun', hReached⟩ := Pad.reached (connected_serves platform pause)
      (pause.kind.connected_sound platform) calls
    obtain rfl : pad' = pad := Option.some.inj (hRun'.symm.trans hRun)
    rw [← count_inputs, hReached.inputs, hNone, List.nil_append, pause.inputsOf_count, hHeld,
      Kind.pausePresses_of_pause]
  cases kind with
  | playstation3 => exact hPause .playstation3 rfl
  | dualShock4 => exact hPause .dualShock4 rfl
  | wiiUPro => exact hPause .wiiUPro rfl
  | wiiMote =>
      have hSpeaks := (Pad.speaks_connected platform .wiiMote).run hCalls hRun
      exact List.count_eq_zero.mpr fun hMem => hSpeaks.allows.pause hMem rfl

end HIDPad

namespace Process

variable {format : FloatFormat} {process : Process} {system : System}

/-- The pauses that a pad has sent are those under its handle. -/
theorem pausesFor_of_served {manager : HIDManager} {interface : Interface}
    {platform : Platform} {kind : Kind} {pad : Pad}
    (hServed : manager.Served interface platform kind pad) :
    System.pausesFor interface.handle manager.backend.sent =
      pad.calls.count .sendPausePressed := by
  have hOfPad (packets : List (MFiWPacket ℚ)) :
      System.pausesFor interface.handle packets =
        (packets.filter (HIDManager.ofPad interface.handle)).count
          (.pausePressed interface.handle) := by
    have hOwn : HIDManager.ofPad interface.handle (.pausePressed interface.handle) = true :=
      beq_self_eq_true _
    rw [List.count_filter hOwn, System.pausesFor, List.count_filterMap, List.count_eq_countP]
    refine List.countP_congr fun packet _ => ?_
    rw [beq_iff_eq, beq_iff_eq]
    cases packet <;> simp [System.pauseHandle]
  have hMade (calls : List DriverCall) :
      (calls.filterMap (DriverCall.packet interface.handle)).count
        (.pausePressed interface.handle) = calls.count .sendPausePressed := by
    rw [List.count_filterMap, List.count_eq_countP]
    refine List.countP_congr fun made _ => ?_
    rw [beq_iff_eq, beq_iff_eq]
    cases made <;> simp [DriverCall.packet]
  rw [hOfPad, hServed.packets, hMade]

/-- What the handler of a controller has heard of the pad at an address, when the frontend
has read everything. -/
theorem Pauses.buttons {ref : ControllerRef} {listens : Prop}
    (hPauses : Pauses ref listens process system) (hRefines : Refines format process system)
    (hRead : process.toFrontend = []) {interface : Interface} {platform : Platform}
    {kind : Kind} {pad : Pad} (hServed : process.manager.Served interface platform kind pad)
    (hOwner : process.owners[ref]? = some interface.handle) :
    process.pausesHeard ref ≤ kind.pausePresses (process.manager.callsAt interface.address) ∧
      (listens → process.pausesHeard ref =
        kind.pausePresses (process.manager.callsAt interface.address)) := by
  have hPresses : System.pausesFor interface.handle system.processed =
      kind.pausePresses (process.manager.callsAt interface.address) := by
    calc System.pausesFor interface.handle system.processed
        = System.pausesFor interface.handle process.manager.backend.sent := by
          rw [hRefines.processed, System.pausesFor_convert, hRefines.all_processed hRead]
      _ = pad.calls.count .sendPausePressed := pausesFor_of_served hServed
      _ = kind.pausePresses (process.manager.callsAt interface.address) :=
          pauses_of_receive (hRefines.serves.own_found interface.address) hServed.calls
  rw [← hPresses]
  exact ⟨hPauses.atMost _ hOwner, fun hListens => hPauses.all hListens _ hOwner⟩

end Process
end MFiWrapper
