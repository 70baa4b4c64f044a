import MFiWrapper.Backend.PadCalls
import MFiWrapper.Library.Interleaving

/-!
# Isolation of the drivers

Several pads are connected and their calls interleave.  What is sent to one of
them depends on the calls of the others through the buffer of
`DualShock4::SetReport` only: for a player index outside of 0 to 3 the buffer is
sent with the colour that is in it, whoever has stored it.
-/

namespace MFiWrapper
namespace HIDPad

open Library

/-- The call sends a DualShock 4 the colour that is in the static buffer. -/
def Driver.SendsStoredColour : Driver → PadCall → Prop
  | .dualShock4 pad, .handlePacket _ _ => pad.needSetReport = true ∧ ¬ pad.playerIndex < 4
  | _, _ => False

/-- The static buffer matters to such a call only. -/
def SameColour (s₁ s₂ : Statics) (pad : Pad) (c : PadCall) : Prop :=
  pad.driver.SendsStoredColour c → s₁.dualShock4 = s₂.dualShock4

/-- Outside of the bytes that are stored the buffers keep their initial contents. -/
structure Statics.Inv (statics : Statics) : Prop where
  playstation3 : ∃ ledByte, statics.playstation3 = Playstation3.reportBuffer.set 11 ledByte
  dualShock4 : ∃ colour,
    statics.dualShock4 = DualShock4.storeColour colour DualShock4.reportBuffer

theorem Statics.inv_initial : Statics.initial.Inv where
  playstation3 := ⟨0, rfl⟩
  dualShock4 := ⟨[], rfl⟩

variable {s₁ s₂ : Statics}

/-! ## One call -/

/-- The call makes the same calls whatever the static buffers hold. -/
def Driver.Independent (driver : Driver) (c : PadCall) : Prop :=
  ∃ driver' calls, driver'.Sound ∧ ∀ statics : Statics, statics.Inv →
    ∃ statics', driver.call statics c = some (statics', driver', calls) ∧ statics'.Inv

theorem playstation3_independent (pad : Playstation3) (c : PadCall) :
    (Driver.playstation3 pad).Independent c := by
  cases c with
  | setPlayerIndex aIndex =>
      exact ⟨.playstation3 (pad.setPlayerIndex aIndex), [], trivial,
        fun statics hInv => ⟨statics, rfl, hInv⟩⟩
  | handlePacket aData aSize =>
      refine ⟨.playstation3 (pad.next aData),
        (if pad.needSetReport then
            [.setReport false 0x01 (Playstation3.reportBuffer.set 11 pad.ledByte)] else []) ++
          pad.answer aData, trivial, fun statics hInv => ?_⟩
      obtain ⟨ledByte, hBuffer⟩ := hInv.playstation3
      -- the one byte that varies is stored by every call
      have hStored : (pad.setReport statics.playstation3).1 =
          Playstation3.reportBuffer.set 11 pad.ledByte := by
        rw [Playstation3.setReport, hBuffer, List.set_set]
      rw [Driver.call, Playstation3.handlePacket_eq, hStored, Option.map_some]
      refine ⟨_, rfl, ?_, hInv.dualShock4⟩
      split_ifs
      · exact ⟨pad.ledByte, rfl⟩
      · exact ⟨ledByte, hBuffer⟩

theorem wiiMote_independent {device : Wiimote.WiimoteT}
    (hSound : (Driver.wiiMote device).Sound) (c : PadCall) :
    (Driver.wiiMote device).Independent c := by
  obtain ⟨device', calls, hCall, hSound'⟩ := hSound.wiiMote c
  exact ⟨_, calls, hSound', fun statics hInv => ⟨statics, hCall statics, hInv⟩⟩

theorem wiiUPro_independent {pad : WiiUPro} (hSound : (Driver.wiiUPro pad).Sound)
    (c : PadCall) : (Driver.wiiUPro pad).Independent c := by
  obtain ⟨pad', calls, hCall, hSound'⟩ := hSound.wiiUPro c
  exact ⟨_, calls, hSound', fun statics hInv => ⟨statics, hCall statics, hInv⟩⟩

/-- A report to a DualShock 4: only for an index outside of 0 to 3 it depends on what
the buffer holds. -/
theorem dualShock4_setReport (pad : DualShock4) {statics : Statics} (hInv : statics.Inv) :
    (pad.setReport statics.dualShock4).1 =
      if pad.playerIndex < 4 then
        DualShock4.storeColour (DualShock4.rgb pad.playerIndex) DualShock4.reportBuffer
      else statics.dualShock4 := by
  obtain ⟨colour, hBuffer⟩ := hInv.dualShock4
  rw [DualShock4.setReport]
  split_ifs
  · rw [hBuffer, DualShock4.storeColour_storeColour]
  · rfl

/-- The buffer keeps its form. -/
theorem dualShock4_inv (pad : DualShock4) {statics : Statics} (hInv : statics.Inv) :
    Statics.Inv { statics with dualShock4 :=
      if pad.needSetReport then (pad.setReport statics.dualShock4).1 else statics.dualShock4 } := by
  refine ⟨hInv.playstation3, ?_⟩
  rw [dualShock4_setReport pad hInv]
  split_ifs
  · exact ⟨_, rfl⟩
  · exact hInv.dualShock4
  · exact hInv.dualShock4

theorem independent_of_not_sendsStoredColour {driver : Driver} (hSound : driver.Sound)
    {c : PadCall} (hNot : ¬ driver.SendsStoredColour c) : driver.Independent c := by
  cases driver with
  | playstation3 pad => exact playstation3_independent pad c
  | wiiMote device => exact wiiMote_independent hSound c
  | wiiUPro pad => exact wiiUPro_independent hSound c
  | dummy => exact ⟨.dummy, [], trivial, fun statics hInv => ⟨statics, rfl, hInv⟩⟩
  | dualShock4 pad =>
      cases c with
      | setPlayerIndex aIndex =>
          exact ⟨.dualShock4 (pad.setPlayerIndex aIndex), [], trivial,
            fun statics hInv => ⟨statics, rfl, hInv⟩⟩
      | handlePacket aData aSize =>
          refine ⟨.dualShock4 (pad.next aData aSize),
            (if pad.needSetReport then [.setReport false 0x11 (DualShock4.storeColour
              (DualShock4.rgb pad.playerIndex) DualShock4.reportBuffer)] else []) ++
              pad.answer aData aSize, trivial, fun statics hInv => ?_⟩
          have hCall := DualShock4.handlePacket_eq statics.dualShock4 aData aSize pad
          refine ⟨_, ?_, dualShock4_inv pad hInv⟩
          rw [Driver.call, hCall, Option.map_some]
          by_cases hDue : pad.needSetReport = true
          · have hIndex : pad.playerIndex < 4 := by
              by_contra hIndex
              exact hNot ⟨hDue, hIndex⟩
            rw [dualShock4_setReport pad hInv, if_pos hIndex]
          · simp only [if_neg hDue]

/-- A call that sends the stored colour. -/
theorem sendsStoredColour_call {driver : Driver} {c : PadCall}
    (hSends : driver.SendsStoredColour c) :
    ∃ driver' answer, driver'.Sound ∧ ∀ statics : Statics, statics.Inv →
      driver.call statics c = some (statics, driver',
        .setReport false 0x11 statics.dualShock4 :: answer) := by
  cases driver with
  | dualShock4 pad =>
      cases c with
      | setPlayerIndex aIndex => exact hSends.elim
      | handlePacket aData aSize =>
          obtain ⟨hDue, hIndex⟩ := hSends
          refine ⟨.dualShock4 (pad.next aData aSize), pad.answer aData aSize, trivial,
            fun statics hInv => ?_⟩
          rw [Driver.call, DualShock4.handlePacket_eq, Option.map_some,
            dualShock4_setReport pad hInv, if_neg hIndex, if_pos hDue, if_pos hDue]
          rfl
  | playstation3 pad => exact hSends.elim
  | wiiMote device => exact hSends.elim
  | wiiUPro pad => exact hSends.elim
  | dummy => exact hSends.elim

/-- Two shared states make a difference to a turn exactly if the stored colour is
sent and differs. -/
theorem comparable_turn :
    Comparable Pad.turn Statics.Inv (fun pad => pad.driver.Sound) SameColour Pad.reports := by
  refine ⟨fun s₁ s₂ pad c h₁ h₂ hSound => ?_⟩
  by_cases hSends : pad.driver.SendsStoredColour c
  · obtain ⟨driver', answer, hSound', hCall⟩ := sendsStoredColour_call hSends
    refine ⟨s₁, s₂, _, _, by rw [Pad.turn, hCall s₁ h₁]; rfl, by rw [Pad.turn, hCall s₂ h₂]; rfl,
      h₁, h₂, hSound', fun hSame => ?_, fun hNot hReports => hNot fun _ => ?_⟩
    · rw [hSame hSends]
    · -- the reports before and after this one are the same
      simpa [Pad.reports, DriverCall.report] using hReports
  · obtain ⟨driver', calls, hSound', hCall⟩ := independent_of_not_sendsStoredColour hSound hSends
    obtain ⟨s₁', hCall₁, hInv₁⟩ := hCall s₁ h₁
    obtain ⟨s₂', hCall₂, hInv₂⟩ := hCall s₂ h₂
    refine ⟨s₁', s₂', _, _, by rw [Pad.turn, hCall₁]; rfl, by rw [Pad.turn, hCall₂]; rfl,
      hInv₁, hInv₂, hSound', fun _ => rfl, fun hNot => absurd (fun h => absurd h hSends) hNot⟩

/-- For every set of connected pads and every interleaving of calls, the reports sent
to each pad are those that its own calls alone lead to, if and only if every
DualShock 4 that reports without a player finds in the static buffer the colour it
has stored there itself. -/
theorem pads_isolated_iff {κ : Type} [DecidableEq κ] (platform : Platform) (kind : κ → Kind)
    (events : List (κ × PadCall)) :
    Throughout (Interleaved.step Pad.turn)
        (Isolated Pad.turn Pad.reports .initial fun k => (kind k).connected platform)
        (.start .initial fun k => (kind k).connected platform) events ↔
      Along (Interleaved.step Pad.turn)
        (Undisturbed Pad.turn SameColour .initial fun k => (kind k).connected platform)
        (.start .initial fun k => (kind k).connected platform) events :=
  isolated_iff comparable_turn Statics.inv_initial
    (fun k => (kind k).connected_sound platform) events

/-- A first DualShock 4 becomes player 1; a second one, which is no player, then
reports and lights up red as well. -/
theorem colour_of_other_pad :
    ¬ ∀ (platform : Platform) (kind : Bool → Kind) (events : List (Bool × PadCall)),
      Throughout (Interleaved.step Pad.turn)
        (Isolated Pad.turn Pad.reports .initial fun k => (kind k).connected platform)
        (.start .initial fun k => (kind k).connected platform) events := by
  intro hAll
  let platform : Platform := ⟨false, fun _ => ⟨0, 0, 0, 0⟩⟩
  let pads : Bool → Pad := fun _ => Kind.dualShock4.connected platform
  let events : List (Bool × PadCall) :=
    [(false, .setPlayerIndex 0), (false, .handlePacket (fun _ => 0) 1),
      (true, .handlePacket (fun _ => 0) 1)]
  obtain ⟨state, hRun, hIsolated⟩ := hAll platform (fun _ => .dualShock4) events _ List.prefix_rfl
  obtain ⟨final, hAlone, hReports⟩ := hIsolated true
  have hShown : (run (Interleaved.step Pad.turn) (.start .initial pads) events).map
      (fun state => (state.parts true).reports) =
        some [(false, 0x11, DualShock4.storeColour [0xFF, 0, 0] DualShock4.reportBuffer)] := by
    decide +kernel
  have hOwn : (run (Interleaved.step Pad.turn) (.start .initial pads) events).bind
      (fun state => (alone Pad.turn .initial (pads true) (own true state.history)).map
        fun final => final.2.reports) = some [(false, 0x11, DualShock4.reportBuffer)] := by
    decide +kernel
  have hRun' : run (Interleaved.step Pad.turn) (.start .initial pads) events = some state := hRun
  have hAlone' : alone Pad.turn .initial (pads true) (own true state.history) = some final := hAlone
  rw [hRun', Option.map_some] at hShown
  rw [hRun', Option.bind_some, hAlone', Option.map_some, ← hReports] at hOwn
  have hSame := (Option.some.inj hShown).symm.trans (Option.some.inj hOwn)
  revert hSame
  decide +kernel

end HIDPad
end MFiWrapper
