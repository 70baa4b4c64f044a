import MFiWrapper.Backend.Isolation
import MFiWrapper.Backend.PadReports
import MFiWrapper.Backend.PlayerLightRuns

/-!
# Player lights with the buffers of others

The static buffers may hold whatever other pads of the class have left in them.  A pad
that was given a player last shows that player all the same: only the DualShock 4 sends
what it has not stored itself, and for the index of a player it has.
-/

namespace MFiWrapper
namespace HIDPad

open Library Wiimote

variable {kind : Kind} {history : History} {statics : Statics} {pad pad' : Pad}

/-! ## Histories -/

/-- The indices are those of the calls. -/
def PadCall.index : PadCall → Option Int32
  | .setPlayerIndex aIndex => some aIndex
  | .handlePacket _ _ => none

/-- The player that was reached last, if it was one. -/
def History.reachedPlayer (history : History) : Option (Fin 4) :=
  history.reached.getLast?.bind fun aIndex => storedPlayer (storedIndex aIndex)

/-- What a DualShock 4 keeps and shows, whatever the stored colour is. -/
structure ColourKept (history : History) (device : DualShock4) (pad : Pad) : Prop where
  driver : pad.driver = .dualShock4 device
  due : DuePlayer history device.needSetReport device.playerIndex
  rest : history.due = none → history.reached ≠ [] → device.needSetReport = false
  shows : ∀ p, history.reachedPlayer = some p →
    pad.shows .dualShock4 = Kind.dualShock4.light (some p)

/-- A stored player is stored over any colour. -/
theorem dualShock4_lit_player {device : DualShock4} {p : Fin 4} (hInv : statics.Inv)
    (hPlayer : storedPlayer device.playerIndex = some p) :
    Kind.dualShock4.lit (false, 0x11, (device.setReport statics.dualShock4).1) =
      some (Kind.dualShock4.light (some p)) := by
  have hStored : device.playerIndex < 4 := by
    by_contra hNot
    rw [storedPlayer_of_not_lt hNot] at hPlayer
    cases hPlayer
  obtain ⟨q, hSame, hIndex⟩ := storedPlayer_of_lt hStored
  obtain rfl : q = p := Option.some.inj (hSame.symm.trans hPlayer)
  rw [dualShock4_setReport device hInv, if_pos hStored, hIndex]
  exact dualShock4_lit (some q)

theorem ColourKept.receive {device : DualShock4} {c : Statics × PadCall}
    (hKept : ColourKept history device pad) (hInv : c.1.Inv)
    (hReceive : Pad.receive pad c = some pad') :
    ∃ device', ColourKept (history.record c.2) device' pad' := by
  obtain ⟨statics, c⟩ := c
  obtain ⟨hDriver, hDue, hRest, hShows⟩ := hKept
  rw [Pad.receive, Pad.turn, hDriver] at hReceive
  cases c with
  | setPlayerIndex aIndex =>
      obtain rfl := Option.some.inj hReceive
      refine ⟨device.setPlayerIndex aIndex, rfl, rfl, fun hNone => (by cases hNone), ?_⟩
      intro p hPlayer
      rw [← hShows p hPlayer]
      show Pad.shows _ ⟨_, pad.calls ++ []⟩ = _
      rw [List.append_nil]
      rfl
  | handlePacket aData aSize =>
      rw [Driver.call, DualShock4.handlePacket_eq] at hReceive
      obtain rfl := Option.some.inj hReceive
      refine ⟨device.next aData aSize, rfl, duePlayer_handlePacket _ aData aSize,
        fun _ _ => rfl, fun p hPlayer => ?_⟩
      show Pad.shows .dualShock4 ⟨.dualShock4 (device.next aData aSize),
        pad.calls ++ (_ ++ device.answer aData aSize)⟩ = _
      rw [shows_append, lights_append, lights_of_reports (device.answer_reports aData aSize),
        List.append_nil]
      rw [History.reachedPlayer, reached_getLast?] at hPlayer
      cases hIndex : history.due with
      | some aIndex =>
          -- the report applies the index that is due
          rw [hIndex] at hPlayer
          replace hPlayer : storedPlayer (storedIndex aIndex) = some p := hPlayer
          rw [DuePlayer, hIndex, Option.bind_some, hPlayer] at hDue
          split_ifs at hDue with hNeed
          rw [if_pos hNeed]
          show ((List.filterMap Kind.dualShock4.lit
            [(false, 0x11, (device.setReport statics.dualShock4).1)]).getLast?).getD _ = _
          rw [List.filterMap_cons_some (dualShock4_lit_player hInv hDue)]
          rfl
      | none =>
          -- the index has been applied before
          rw [hIndex] at hPlayer
          have hReached : history.reached ≠ [] := by
            intro hEmpty
            rw [hEmpty] at hPlayer
            cases hPlayer
          rw [hRest hIndex hReached]
          exact hShows p hPlayer

end HIDPad
end MFiWrapper
