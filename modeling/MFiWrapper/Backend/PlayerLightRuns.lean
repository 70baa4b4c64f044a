import MFiWrapper.Backend.PlayerLights

/-!
# The player that a pad shows

`alone_lights` says for each kind of pad which player it shows after any calls, and
`Kind.ShowsIndex` when that is the player it was given last.
-/

namespace MFiWrapper
namespace HIDPad

open Library Wiimote

variable {kind : Kind} {history : History} {statics : Statics}

/-! ## Runs -/

theorem Keeps.keepsUp {driver : Driver} (hKeeps : Keeps history kind statics driver) :
    driver.KeepsUp kind history statics := by
  cases hKeeps with
  | playstation3 hBuffer hLed hDue =>
      exact playstation3_keepsUp (.playstation3 hBuffer hLed hDue)
  | dualShock4 hColour hDue => exact dualShock4_keepsUp (.dualShock4 hColour hDue)
  | wiiMote hSound hUnid => exact wiiMote_keepsUp (.wiiMote hSound hUnid)
  | wiiUPro hSound hDue => exact wiiUPro_keepsUp (.wiiUPro hSound hDue)

/-- A turn of the pad. -/
theorem ShowsShown.call {state : Statics × Pad} (hShows : ShowsShown kind history state)
    (c : PadCall) :
    ∃ state', Pad.turn state.1 state.2 c = some state' ∧
      ShowsShown kind (history.record c) state' := by
  obtain ⟨statics', driver', calls, hCall, hKeeps, hLights⟩ := hShows.keeps.keepsUp c
  refine ⟨(statics', ⟨driver', state.2.calls ++ calls⟩), by rw [Pad.turn, hCall]; rfl, ?_, hKeeps⟩
  rw [shows_append, hShows.shows]
  exact hLights

theorem ShowsShown.run (calls : List PadCall) {state : Statics × Pad}
    (hShows : ShowsShown kind history state) :
    ∃ state', run (fun s c => Pad.turn s.1 s.2 c) state calls = some state' ∧
      ShowsShown kind (calls.foldl History.record history) state' := by
  induction calls generalizing history state with
  | nil => exact ⟨state, rfl, hShows⟩
  | cons c calls ih =>
      obtain ⟨next, hTurn, hNext⟩ := hShows.call c
      obtain ⟨state', hRun, hFinal⟩ := ih hNext
      exact ⟨state', by rw [run_cons, hTurn]; exact hRun, hFinal⟩

/-- A pad that has just been connected shows no player. -/
theorem connected_shows (platform : Platform) (kind : Kind) :
    ShowsShown kind ⟨[], [], none⟩ (.initial, kind.connected platform) := by
  have hSound := kind.connected_sound platform
  cases kind with
  | playstation3 =>
      refine ⟨?_, .playstation3 (show 11 < Playstation3.reportBuffer.length by decide) rfl
        fun h => by cases h⟩
      show Pad.shows .playstation3 ⟨_, (Playstation3.construct platform.ios).2⟩ = [0]
      cases platform.ios <;> rfl
  | dualShock4 =>
      have hColour : DualShock4.reportBuffer =
          DualShock4.storeColour (Kind.dualShock4.light none) DualShock4.reportBuffer := by
        decide +kernel
      exact ⟨rfl, .dualShock4 hColour rfl⟩
  | wiiMote =>
      obtain ⟨device, hDriver, hUnid⟩ : ∃ device : WiimoteT,
          (Kind.wiiMote.connected platform).driver = .wiiMote device ∧ device.unid = -1 :=
        ⟨_, rfl, rfl⟩
      rw [hDriver] at hSound
      refine ⟨rfl, ?_⟩
      show Keeps _ _ _ (Kind.wiiMote.connected platform).driver
      rw [hDriver]
      refine .wiiMote hSound fun p hPlayer => ?_
      rw [hUnid] at hPlayer
      cases hPlayer
  | wiiUPro => exact ⟨rfl, .wiiUPro hSound rfl⟩

/-- After any calls a pad shows what its kind makes of them. -/
theorem alone_lights (platform : Platform) (kind : Kind) (calls : List PadCall) :
    ∃ final, alone Pad.turn .initial (kind.connected platform) calls = some final ∧
      final.2.shows kind = kind.light (kind.shown (.of calls)) := by
  obtain ⟨final, hRun, hShows⟩ := (connected_shows platform kind).run calls
  exact ⟨final, hRun, hShows.shows⟩

/-! ## The player given last -/

/-- The index is that of a player. -/
def OfPlayer (aIndex : Int32) : Prop := 0 ≤ aIndex.toInt ∧ aIndex.toInt < 4

/-- The pad comes to show an index that it is given after `history`: always for the
PlayStation 3; for the Wii Remote unless it is to go dark after having shown a player;
for the others if the index is that of a player, or if what is kept of it is none
and the pad has not shown one either. -/
def Kind.ShowsIndex (kind : Kind) (history : History) (aIndex : Int32) : Prop :=
  match kind with
  | .playstation3 => True
  | .wiiMote => OfPlayer aIndex ∨ ∀ i ∈ history.indices, ¬ OfPlayer i
  | .dualShock4 | .wiiUPro =>
      OfPlayer aIndex ∨ 4 ≤ storedIndex aIndex ∧ ∀ i ∈ history.reached, 4 ≤ storedIndex i

/-- The index, and the reports after it. -/
def setAndReport (aIndex : Int32) (reports : List (Bytes × UInt16)) : List PadCall :=
  .setPlayerIndex aIndex :: reports.map fun report => .handlePacket report.1 report.2

theorem foldl_handlePacket (history : History) (reports : List (Bytes × UInt16)) :
    ((reports.map fun report => PadCall.handlePacket report.1 report.2).foldl History.record
        history).indices = history.indices ∧
      (reports ≠ [] →
        ((reports.map fun report => PadCall.handlePacket report.1 report.2).foldl History.record
          history).reached = history.reached ++ history.due.toList) := by
  induction reports generalizing history with
  | nil => exact ⟨rfl, fun h => absurd rfl h⟩
  | cons report reports ih =>
      obtain ⟨hIndices, hReached⟩ := ih (history.record (.handlePacket report.1 report.2))
      refine ⟨hIndices, fun _ => ?_⟩
      cases reports with
      | nil => rfl
      | cons second rest => exact (hReached (List.cons_ne_nil _ _)).trans (List.append_nil _)

theorem History.of_setAndReport (before : List PadCall) (aIndex : Int32)
    (reports : List (Bytes × UInt16)) :
    (History.of (before ++ setAndReport aIndex reports)).indices =
        (History.of before).indices ++ [aIndex] ∧
      (reports ≠ [] → (History.of (before ++ setAndReport aIndex reports)).reached =
        (History.of before).reached ++ [aIndex]) := by
  rw [History.of, List.foldl_append]
  exact foldl_handlePacket ((History.of before).record (.setPlayerIndex aIndex)) reports

theorem player_eq_none_iff {aIndex : Int32} : player aIndex = none ↔ ¬ OfPlayer aIndex := by
  by_cases hPlayer : OfPlayer aIndex
  · simp [player, hPlayer, show 0 ≤ aIndex.toInt ∧ aIndex.toInt < 4 from hPlayer]
  · simp [player, hPlayer, show ¬ (0 ≤ aIndex.toInt ∧ aIndex.toInt < 4) from hPlayer]

theorem storedPlayer_eq_none_iff {aIndex : Int32} :
    storedPlayer (storedIndex aIndex) = none ↔ 4 ≤ storedIndex aIndex := by
  rw [← UInt8.not_lt]
  refine ⟨fun hNone hStored => ?_, storedPlayer_of_not_lt⟩
  obtain ⟨p, hPlayer, -⟩ := storedPlayer_of_lt hStored
  rw [hPlayer] at hNone
  cases hNone

/-- A player is not lost in the byte. -/
theorem storedPlayer_of_ofPlayer {aIndex : Int32} (hPlayer : OfPlayer aIndex) :
    storedPlayer (storedIndex aIndex) = player aIndex := by
  rcases player_cases aIndex with ⟨p, hSome, rfl⟩ | ⟨hNone, -⟩
  · have hStored : ∀ p : Fin 4, storedPlayer (storedIndex (Int32.ofNat p)) = some p := by
      decide
    rw [hSome, hStored]
  · exact absurd hPlayer (player_eq_none_iff.mp hNone)

/-- Which player is shown last, if the indices are taken for players by `f`. -/
theorem getLast?_filterMap_eq_iff {f : Int32 → Option (Fin 4)} {indices : List Int32}
    {aIndex : Int32} (hKeeps : OfPlayer aIndex → f aIndex = player aIndex) :
    ((indices ++ [aIndex]).filterMap f).getLast? = player aIndex ↔
      OfPlayer aIndex ∨ f aIndex = none ∧ ∀ i ∈ indices, f i = none := by
  by_cases hPlayer : OfPlayer aIndex
  · obtain ⟨p, hSome⟩ := Option.ne_none_iff_exists'.mp
      (mt player_eq_none_iff.mp (not_not.mpr hPlayer))
    rw [List.filterMap_append, List.filterMap_cons_some ((hKeeps hPlayer).trans hSome), hSome,
      List.getLast?_append]
    exact iff_of_true rfl (.inl hPlayer)
  · rw [player_eq_none_iff.mpr hPlayer, List.getLast?_eq_none_iff, List.filterMap_eq_nil_iff,
      List.forall_mem_append, List.forall_mem_singleton]
    exact ⟨fun ⟨hBefore, hLast⟩ => .inr ⟨hLast, hBefore⟩,
      fun h => (h.resolve_left hPlayer).symm⟩

theorem shown_eq_player_iff (kind : Kind) (before : List PadCall) (aIndex : Int32)
    (reports : List (Bytes × UInt16)) (hReports : kind ≠ .wiiMote → reports ≠ []) :
    kind.shown (.of (before ++ setAndReport aIndex reports)) = player aIndex ↔
      kind.ShowsIndex (.of before) aIndex := by
  obtain ⟨hIndices, hReached⟩ := History.of_setAndReport before aIndex reports
  have hStored : ((((History.of before).reached ++ [aIndex]).filterMap fun i =>
        storedPlayer (storedIndex i)).getLast? = player aIndex) ↔
      OfPlayer aIndex ∨ 4 ≤ storedIndex aIndex ∧
        ∀ i ∈ (History.of before).reached, 4 ≤ storedIndex i := by
    rw [getLast?_filterMap_eq_iff storedPlayer_of_ofPlayer]
    simp only [storedPlayer_eq_none_iff]
  cases kind with
  | playstation3 =>
      rw [Kind.shown, hReached (hReports (by decide)), List.getLast?_concat]
      exact iff_of_true rfl trivial
  | dualShock4 =>
      rw [Kind.shown, hReached (hReports (by decide))]
      exact hStored
  | wiiMote =>
      rw [Kind.shown, hIndices, getLast?_filterMap_eq_iff fun _ => rfl, Kind.ShowsIndex]
      simp only [player_eq_none_iff]
      exact or_congr_right' fun hOther => and_iff_right hOther
  | wiiUPro =>
      rw [Kind.shown, hReached (hReports (by decide))]
      exact hStored

/-- For every kind of pad, every index and all calls before it: once the index has been
followed by a report, which the Wii Remote does not need, the pad shows the player
of the index if and only if its driver can make it. -/
theorem showsIndex_iff (platform : Platform) (kind : Kind) (before : List PadCall)
    (aIndex : Int32) (reports : List (Bytes × UInt16))
    (hReports : kind ≠ .wiiMote → reports ≠ []) :
    (∃ final, alone Pad.turn .initial (kind.connected platform)
        (before ++ setAndReport aIndex reports) = some final ∧
      final.2.shows kind = kind.light (player aIndex)) ↔
        kind.ShowsIndex (.of before) aIndex := by
  obtain ⟨final, hRun, hShows⟩ :=
    alone_lights platform kind (before ++ setAndReport aIndex reports)
  rw [← shown_eq_player_iff kind before aIndex reports hReports]
  constructor
  · rintro ⟨final', hRun', hPlayer⟩
    obtain rfl : final = final' := Option.some.inj (hRun.symm.trans hRun')
    exact light_inj (hShows.symm.trans hPlayer)
  · intro hShown
    exact ⟨final, hRun, by rw [hShows, hShown]⟩

/-- A Wii U Pro Controller that is given the index 1 and a report. -/
theorem showsIndex_iff_second_player :
    (∃ final, alone Pad.turn .initial (Kind.wiiUPro.connected ⟨false, fun _ => ⟨0, 0, 0, 0⟩⟩)
        ([] ++ setAndReport 1 [(fun _ => 0, 23)]) = some final ∧
      final.2.shows .wiiUPro = Kind.wiiUPro.light (player 1)) ↔
        Kind.wiiUPro.ShowsIndex (.of []) 1 :=
  showsIndex_iff ⟨false, fun _ => ⟨0, 0, 0, 0⟩⟩ .wiiUPro [] 1 [(fun _ => 0, 23)]
    fun _ => List.cons_ne_nil _ _

/-- A DualShock 4 that was player 1 stays red when its index is unset. -/
theorem unset_index_stays_lit :
    ¬ ∀ (platform : Platform) (kind : Kind) (before : List PadCall) (aIndex : Int32)
      (reports : List (Bytes × UInt16)), (kind ≠ .wiiMote → reports ≠ []) →
        ∃ final, alone Pad.turn .initial (kind.connected platform)
            (before ++ setAndReport aIndex reports) = some final ∧
          final.2.shows kind = kind.light (player aIndex) := by
  intro hAll
  obtain ⟨final, hRun, hDark⟩ := hAll ⟨false, fun _ => ⟨0, 0, 0, 0⟩⟩ .dualShock4
    [.setPlayerIndex 0, .handlePacket (fun _ => 0) 1] (-1) [(fun _ => 0, 1)]
    fun _ => List.cons_ne_nil _ _
  obtain ⟨final', hRun', hShows⟩ := alone_lights ⟨false, fun _ => ⟨0, 0, 0, 0⟩⟩ .dualShock4
    ([.setPlayerIndex 0, .handlePacket (fun _ => 0) 1] ++ setAndReport (-1) [(fun _ => 0, 1)])
  obtain rfl : final = final' := Option.some.inj (hRun.symm.trans hRun')
  have hRed := light_inj (hShows.symm.trans hDark)
  revert hRed
  decide

end HIDPad
end MFiWrapper
