import MFiWrapper.Backend.PadCalls
import MFiWrapper.Library.Interleaving

/-!
# Player lights

A pad shows its player by four LEDs, the DualShock 4 by a colour.  The drivers keep
the index in different ways and apply it at different times.  What a pad is to show is
told from the history of its calls, and one call is shown to keep up with it, driver by
driver.
-/

namespace MFiWrapper
namespace HIDPad

open Library Wiimote

/-! ## What a pad shows -/

/-- The player of an index. -/
def player (aIndex : Int32) : Option (Fin 4) :=
  if h : 0 ≤ aIndex.toInt ∧ aIndex.toInt < 4 then some ⟨aIndex.toInt.toNat, by omega⟩ else none

/-- The byte that a driver with a `uint8_t playerIndex` keeps of an index. -/
def storedIndex (aIndex : Int32) : UInt8 := aIndex.toUInt32.toUInt8

/-- The player that such a driver takes the stored index for. -/
def storedPlayer (stored : UInt8) : Option (Fin 4) :=
  if h : stored.toNat < 4 then some ⟨stored.toNat, h⟩ else none

/-- The byte of LEDs with the LED of the player alone, the colour of the player, or
no light. -/
def Kind.light : Kind → Option (Fin 4) → List UInt8
  | .dualShock4, none => [0, 0, 0]
  | _, none => [0]
  | .playstation3, some p => [1 <<< (UInt8.ofNat p + 1)]
  | .dualShock4, some p => DualShock4.rgb (UInt8.ofNat p)
  | .wiiMote, some p => [0x10 <<< UInt8.ofNat p]
  | .wiiUPro, some p => [1 <<< (4 + UInt8.ofNat p)]

/-- The lights that an output report sets, if it sets them. -/
def Kind.lit : Kind → Bool × UInt8 × List UInt8 → Option (List UInt8)
  | .playstation3, (false, 0x01, contents) => some [contents.getD 11 0]
  | .dualShock4, (false, 0x11, contents) => some ((contents.drop 9).take 3)
  | .wiiMote, (false, 0x11, contents) => some [contents.getD 2 0]
  | .wiiUPro, (false, 0x11, contents) => some [contents.getD 2 0]
  | _, _ => none

/-- The lights set by the output reports among the calls, in order. -/
def Kind.lights (kind : Kind) (calls : List DriverCall) : List (List UInt8) :=
  (calls.filterMap DriverCall.report).filterMap kind.lit

/-- What the pad shows after all reports sent to it. -/
def Pad.shows (kind : Kind) (pad : Pad) : List UInt8 :=
  (kind.lights pad.calls).getLast?.getD (kind.light none)

/-! ## What it has been told -/

/-- The indices set so far, those that a report has followed before the next one was
set, and the one that waits for a report. -/
structure History where
  indices : List Int32
  reached : List Int32
  due : Option Int32

def History.record (history : History) : PadCall → History
  | .setPlayerIndex aIndex =>
      { history with indices := history.indices ++ [aIndex], due := some aIndex }
  | .handlePacket _ _ =>
      { history with reached := history.reached ++ history.due.toList, due := none }

def History.of (calls : List PadCall) : History := calls.foldl History.record ⟨[], [], none⟩

/-- The player that a pad shows: for the PlayStation 3 of the last index that was
followed by a report, for the others of the last one they have taken for a player. -/
def Kind.shown (kind : Kind) (history : History) : Option (Fin 4) :=
  match kind with
  | .playstation3 => history.reached.getLast?.bind player
  | .wiiMote => (history.indices.filterMap player).getLast?
  | .dualShock4 | .wiiUPro =>
      (history.reached.filterMap fun aIndex => storedPlayer (storedIndex aIndex)).getLast?

/-! ## Lights -/

variable {kind : Kind} {history : History} {statics : Statics}

@[simp] theorem lights_append (kind : Kind) (first second : List DriverCall) :
    kind.lights (first ++ second) = kind.lights first ++ kind.lights second := by
  rw [Kind.lights, List.filterMap_append, List.filterMap_append]
  rfl

/-- Calls without output reports. -/
theorem lights_of_reports {calls : List DriverCall}
    (hReports : calls.filterMap DriverCall.report = []) : kind.lights calls = [] := by
  rw [Kind.lights, hReports]
  rfl

/-- The calls of a turn change what the pad shows if they set lights. -/
theorem shows_append (pad : Pad) (driver : Driver) (calls : List DriverCall) :
    Pad.shows kind ⟨driver, pad.calls ++ calls⟩ =
      (kind.lights calls).getLast?.getD (pad.shows kind) := by
  rw [Pad.shows, Pad.shows, lights_append, List.getLast?_append]
  cases (kind.lights calls).getLast? <;> rfl

theorem light_inj {p q : Option (Fin 4)} (hSame : kind.light p = kind.light q) : p = q := by
  revert hSame
  revert p q
  cases kind <;> decide

/-- A report makes the index that is due a reached one. -/
theorem reached_getLast? (history : History) (aData : Bytes) (aSize : UInt16) :
    (history.record (.handlePacket aData aSize)).reached.getLast? =
      history.due.or history.reached.getLast? := by
  rw [History.record, List.getLast?_append]
  cases history.due <;> rfl

theorem reached_filterMap_getLast? (history : History) (aData : Bytes) (aSize : UInt16)
    (f : Int32 → Option (Fin 4)) :
    ((history.record (.handlePacket aData aSize)).reached.filterMap f).getLast? =
      (history.due.bind f).or (history.reached.filterMap f).getLast? := by
  rw [History.record, List.filterMap_append, List.getLast?_append]
  cases hDue : history.due with
  | none => rfl
  | some aIndex => cases hPlayer : f aIndex <;> simp [hPlayer]

/-! ## The drivers -/

/-- The player in a stored index, if the next report is to apply it. -/
def DuePlayer (history : History) (needSetReport : Bool) (playerIndex : UInt8) : Prop :=
  (if needSetReport then storedPlayer playerIndex else none) =
    history.due.bind fun aIndex => storedPlayer (storedIndex aIndex)

/-- What a driver and the static buffers keep of the indices. -/
inductive Keeps (history : History) : Kind → Statics → Driver → Prop
  | playstation3 {statics : Statics} {pad : Playstation3}
      (hBuffer : 11 < statics.playstation3.length)
      (hLed : [pad.ledByte] =
        Kind.playstation3.light ((history.due.or history.reached.getLast?).bind player))
      (hDue : history.due.isSome → pad.needSetReport = true) :
      Keeps history .playstation3 statics (.playstation3 pad)
  | dualShock4 {statics : Statics} {pad : DualShock4}
      (hColour : statics.dualShock4 = DualShock4.storeColour
        (Kind.dualShock4.light (Kind.dualShock4.shown history)) DualShock4.reportBuffer)
      (hDue : DuePlayer history pad.needSetReport pad.playerIndex) :
      Keeps history .dualShock4 statics (.dualShock4 pad)
  | wiiMote {statics : Statics} {device : WiimoteT} (hSound : (Driver.wiiMote device).Sound)
      (hUnid : ∀ p, player device.unid = some p → Kind.wiiMote.shown history = some p) :
      Keeps history .wiiMote statics (.wiiMote device)
  | wiiUPro {statics : Statics} {pad : WiiUPro} (hSound : (Driver.wiiUPro pad).Sound)
      (hDue : DuePlayer history pad.needSetReport pad.playerIndex) :
      Keeps history .wiiUPro statics (.wiiUPro pad)

/-- The pad shows what its driver has been told, in the way of its kind. -/
structure ShowsShown (kind : Kind) (history : History) (state : Statics × Pad) : Prop where
  shows : state.2.shows kind = kind.light (kind.shown history)
  keeps : Keeps history kind state.1 state.2.driver

/-- One call keeps up with the history. -/
def Driver.KeepsUp (driver : Driver) (kind : Kind) (history : History) (statics : Statics) :
    Prop :=
  ∀ c, ∃ statics' driver' calls, driver.call statics c = some (statics', driver', calls) ∧
    Keeps (history.record c) kind statics' driver' ∧
    (kind.lights calls).getLast?.getD (kind.light (kind.shown history)) =
      kind.light (kind.shown (history.record c))

/-- The four indices of players, and the others. -/
theorem player_cases (aIndex : Int32) :
    (∃ p : Fin 4, player aIndex = some p ∧ aIndex = Int32.ofNat p) ∨
      (player aIndex = none ∧ (aIndex < 0 ∨ aIndex ≥ 4)) := by
  by_cases hRange : 0 ≤ aIndex.toInt ∧ aIndex.toInt < 4
  · refine .inl ⟨⟨aIndex.toInt.toNat, by omega⟩, dif_pos hRange, ?_⟩
    rw [← Int32.toInt_inj, Int32.toInt_ofNat_of_lt (by simp only; omega)]
    simp only
    omega
  · refine .inr ⟨dif_neg hRange, ?_⟩
    rw [Int32.lt_iff_toInt_lt, ge_iff_le, Int32.le_iff_toInt_le]
    show aIndex.toInt < 0 ∨ 4 ≤ aIndex.toInt
    omega

/-! ### PlayStation 3 -/

theorem playstation3_ledByte (pad : Playstation3) (aIndex : Int32) :
    [(pad.setPlayerIndex aIndex).ledByte] = Kind.playstation3.light (player aIndex) := by
  rcases player_cases aIndex with ⟨p, hPlayer, rfl⟩ | ⟨hPlayer, hOut⟩
  · have hByte : ∀ p : Fin 4,
        (if Int32.ofNat p < 0 ∨ Int32.ofNat p ≥ 4 then (0 : UInt8)
          else 1 <<< ((Int32.ofNat p).toUInt32.toUInt8 + 1)) = 1 <<< (UInt8.ofNat p + 1) := by
      decide
    rw [hPlayer, Playstation3.setPlayerIndex, hByte]
    rfl
  · rw [hPlayer, Playstation3.setPlayerIndex, if_pos hOut]
    rfl

theorem playstation3_keepsUp {pad : Playstation3}
    (hKeeps : Keeps history .playstation3 statics (.playstation3 pad)) :
    (Driver.playstation3 pad).KeepsUp .playstation3 history statics := by
  intro c
  obtain ⟨hBuffer, hLed, hDue⟩ := hKeeps
  cases c with
  | setPlayerIndex aIndex =>
      exact ⟨statics, _, [], rfl,
        .playstation3 hBuffer (playstation3_ledByte pad aIndex) fun _ => rfl, rfl⟩
  | handlePacket aData aSize =>
      have hShown : Kind.playstation3.shown (history.record (.handlePacket aData aSize)) =
          (history.due.or history.reached.getLast?).bind player := by
        rw [Kind.shown, reached_getLast?]
      refine ⟨_, _, _, by rw [Driver.call, Playstation3.handlePacket_eq]; rfl,
        .playstation3 ?_ ?_ fun h => absurd h (by simp [History.record]), ?_⟩
      · show 11 < List.length (if pad.needSetReport then _ else _)
        rw [apply_ite List.length, Playstation3.setReport, List.length_set, ite_self]
        exact hBuffer
      · rw [reached_getLast?]
        exact hLed
      · rw [lights_append, lights_of_reports (pad.answer_reports aData), List.append_nil, hShown,
          ← hLed]
        split_ifs with hNeed
        · have hStored : ((pad.setReport statics.playstation3).1).getD 11 0 = pad.ledByte := by
            simp [Playstation3.setReport, hBuffer]
          show [_] = _
          rw [hStored]
        · -- nothing is due, so the byte has been sent
          have hNone : history.due = none := by
            by_contra hSome
            exact hNeed (hDue (Option.ne_none_iff_isSome.mp hSome))
          rw [hLed, hNone, Kind.shown]
          rfl

/-! ### DualShock 4 -/

theorem storedPlayer_of_lt {stored : UInt8} (hStored : stored < 4) :
    ∃ p : Fin 4, storedPlayer stored = some p ∧ stored = UInt8.ofNat p := by
  have hNat : stored.toNat < 4 := hStored
  exact ⟨⟨stored.toNat, hNat⟩, dif_pos hNat, UInt8.ofNat_toNat.symm⟩

theorem storedPlayer_of_not_lt {stored : UInt8} (hStored : ¬ stored < 4) :
    storedPlayer stored = none :=
  dif_neg hStored

/-- The buffer after `SetReport`, by the player in the stored index. -/
theorem dualShock4_setReport_light {pad : DualShock4} {buffer : List UInt8}
    {shown : Option (Fin 4)}
    (hColour : buffer =
      DualShock4.storeColour (Kind.dualShock4.light shown) DualShock4.reportBuffer) :
    (pad.setReport buffer).1 = DualShock4.storeColour
      (Kind.dualShock4.light ((storedPlayer pad.playerIndex).or shown))
      DualShock4.reportBuffer := by
  rw [DualShock4.setReport, hColour]
  by_cases hStored : pad.playerIndex < 4
  · obtain ⟨p, hPlayer, hIndex⟩ := storedPlayer_of_lt hStored
    rw [if_pos hStored, hPlayer, hIndex, DualShock4.storeColour_storeColour]
    rfl
  · rw [if_neg hStored, storedPlayer_of_not_lt hStored]
    rfl

/-- The colour in a buffer. -/
theorem dualShock4_lit (shown : Option (Fin 4)) :
    Kind.dualShock4.lit (false, 0x11, DualShock4.storeColour (Kind.dualShock4.light shown)
      DualShock4.reportBuffer) = some (Kind.dualShock4.light shown) := by
  revert shown
  decide +kernel

/-- The player shown after a report, for the drivers that keep the index in a byte. -/
theorem shown_handlePacket {needSetReport : Bool} {playerIndex : UInt8}
    (hDue : DuePlayer history needSetReport playerIndex) (aData : Bytes) (aSize : UInt16) :
    Kind.dualShock4.shown (history.record (.handlePacket aData aSize)) =
      (if needSetReport then storedPlayer playerIndex else none).or
        (Kind.dualShock4.shown history) := by
  rw [Kind.shown, reached_filterMap_getLast?, hDue]
  rfl

/-- After the report nothing is due. -/
theorem duePlayer_handlePacket (playerIndex : UInt8) (aData : Bytes) (aSize : UInt16) :
    DuePlayer (history.record (.handlePacket aData aSize)) false playerIndex := rfl

theorem dualShock4_keepsUp {pad : DualShock4}
    (hKeeps : Keeps history .dualShock4 statics (.dualShock4 pad)) :
    (Driver.dualShock4 pad).KeepsUp .dualShock4 history statics := by
  intro c
  obtain - | ⟨hColour, hDue⟩ := hKeeps
  cases c with
  | setPlayerIndex aIndex => exact ⟨statics, _, [], rfl, .dualShock4 hColour rfl, rfl⟩
  | handlePacket aData aSize =>
      refine ⟨_, _, _, by rw [Driver.call, DualShock4.handlePacket_eq]; rfl,
        .dualShock4 ?_ (duePlayer_handlePacket pad.playerIndex aData aSize), ?_⟩
      · rw [shown_handlePacket hDue]
        cases hNeed : pad.needSetReport with
        | true => exact dualShock4_setReport_light hColour
        | false => exact hColour
      · rw [lights_append, lights_of_reports (pad.answer_reports aData aSize), List.append_nil,
          shown_handlePacket hDue]
        cases hNeed : pad.needSetReport with
        | true =>
            show ((List.filterMap Kind.dualShock4.lit
              [(false, 0x11, (pad.setReport statics.dualShock4).1)]).getLast?).getD _ = _
            rw [dualShock4_setReport_light hColour, List.filterMap_cons_some (dualShock4_lit _)]
            rfl
        | false => rfl

/-! ### Wii U Pro Controller -/

/-- The LED command, if the stored index is a player. -/
theorem wiiUPro_setReport_lights (pad : WiiUPro) :
    Kind.wiiUPro.lights pad.setReport =
      ((storedPlayer pad.playerIndex).map fun p => Kind.wiiUPro.light (some p)).toList := by
  rw [WiiUPro.setReport]
  by_cases hStored : pad.playerIndex < 4
  · obtain ⟨p, hPlayer, hIndex⟩ := storedPlayer_of_lt hStored
    rw [if_pos hStored, hPlayer, hIndex]
    rfl
  · rw [if_neg hStored, storedPlayer_of_not_lt hStored]
    rfl

/-- A handled report: the rest of the answer has no output reports. -/
theorem wiiUPro_handlePacket_lights {pad pad' : WiiUPro} {aData : Bytes} {aSize : UInt16}
    {calls : List DriverCall}
    (hHandle : WiiUPro.handlePacket aData aSize pad = some (pad', calls)) :
    pad'.needSetReport = false ∧ pad'.playerIndex = pad.playerIndex ∧
      Kind.wiiUPro.lights calls =
        Kind.wiiUPro.lights (if pad.needSetReport then pad.setReport else []) := by
  by_cases hAccepts : WiiUPro.Accepts aData aSize
  · simp only [WiiUPro.handlePacket, if_neg (not_not.mpr hAccepts), WiiUPro.handleInput] at hHandle
    obtain ⟨⟨next, input⟩, hInput, hReturn⟩ := Option.bind_eq_some_iff.mp hHandle
    obtain ⟨state, -, hSend⟩ := Option.bind_eq_some_iff.mp hInput
    have hInputCalls : (WiiUPro.sendInput aData { pad with needSetReport := false } state).2 =
        input := congrArg Prod.snd (Option.some.inj hSend)
    obtain rfl : (WiiUPro.sendInput aData { pad with needSetReport := false } state).1 = next :=
      congrArg Prod.fst (Option.some.inj hSend)
    have hQuiet : Kind.wiiUPro.lights input = [] := by
      rw [← hInputCalls, WiiUPro.sendInput, lights_append]
      split_ifs <;> rfl
    cases hReturn
    rw [lights_append, hQuiet, List.append_nil]
    exact ⟨rfl, rfl, rfl⟩
  · rw [WiiUPro.handlePacket_rejected pad hAccepts] at hHandle
    cases hHandle
    exact ⟨rfl, rfl, rfl⟩

theorem wiiUPro_keepsUp {pad : WiiUPro}
    (hKeeps : Keeps history .wiiUPro statics (.wiiUPro pad)) :
    (Driver.wiiUPro pad).KeepsUp .wiiUPro history statics := by
  intro c
  obtain - | - | - | ⟨hSound, hDue⟩ := hKeeps
  obtain ⟨pad', calls, hCall, hSound'⟩ := hSound.wiiUPro c
  cases c with
  | setPlayerIndex aIndex =>
      obtain rfl : pad.setPlayerIndex aIndex = pad' := by
        cases hCall statics
        rfl
      exact ⟨statics, _, [], rfl, .wiiUPro hSound' rfl, rfl⟩
  | handlePacket aData aSize =>
      obtain ⟨⟨pad₁, calls₁⟩, hHandle, hReturn⟩ := Option.map_eq_some_iff.mp (hCall statics)
      cases hReturn
      obtain ⟨hNeed', hIndex', hLights⟩ := wiiUPro_handlePacket_lights hHandle
      refine ⟨statics, _, calls, hCall statics, .wiiUPro hSound' ?_, ?_⟩
      · rw [hNeed']
        rfl
      · rw [hLights]
        show _ = Kind.wiiUPro.light (Kind.dualShock4.shown _)
        rw [shown_handlePacket hDue]
        cases hNeed : pad.needSetReport with
        | true =>
            rw [if_pos rfl, if_pos rfl, wiiUPro_setReport_lights]
            cases storedPlayer pad.playerIndex <;> rfl
        | false => rfl

/-! ### Wii Remote -/

/-- The calls set no light but that of the player with this index. -/
def LightsOnly (aIndex : Int32) (calls : List DriverCall) : Prop :=
  ∀ lit ∈ Kind.wiiMote.lights calls, ∃ p, player aIndex = some p ∧ lit = Kind.wiiMote.light (some p)

theorem LightsOnly.append {aIndex : Int32} {first second : List DriverCall}
    (hFirst : LightsOnly aIndex first) (hSecond : LightsOnly aIndex second) :
    LightsOnly aIndex (first ++ second) := by
  intro lit hLit
  rw [lights_append, List.mem_append] at hLit
  exact hLit.elim (hFirst lit) (hSecond lit)

theorem lightsOnly_of_nil {aIndex : Int32} {calls : List DriverCall}
    (hCalls : Kind.wiiMote.lights calls = []) : LightsOnly aIndex calls := by
  intro lit hLit
  rw [hCalls] at hLit
  cases hLit

/-- Other commands than that for the LEDs. -/
theorem wiimoteSend_lights {reportType : UInt8} {msg : List UInt8} {calls : List DriverCall}
    (hType : reportType ≠ 0x11) (hSend : wiimoteSend reportType msg = some calls) :
    Kind.wiiMote.lights calls = [] := by
  rw [wiimoteSend] at hSend
  split_ifs at hSend
  cases hSend
  have hLit : Kind.wiiMote.lit (false, reportType, [0x50 ||| 0x02, reportType] ++ msg) = none := by
    unfold Kind.lit
    split <;> first | rfl | simp_all
  show [(false, reportType, _)].filterMap Kind.wiiMote.lit = []
  rw [List.filterMap_cons_none hLit, List.filterMap_nil]

theorem wiimoteDataReport_lights {wm : WiimoteT} {type : UInt8} {calls : List DriverCall}
    (hReport : wiimoteDataReport wm type = some calls) : Kind.wiiMote.lights calls = [] := by
  rw [wiimoteDataReport] at hReport
  split_ifs at hReport
  · cases hReport
    rfl
  · exact wiimoteSend_lights (by decide) hReport

theorem wiimoteReadData_lights {wm : WiimoteT} {addr : UInt32} {len : UInt16}
    {calls : List DriverCall} (hRead : wiimoteReadData wm addr len = some calls) :
    Kind.wiiMote.lights calls = [] := by
  rw [wiimoteReadData] at hRead
  split_ifs at hRead
  · cases hRead
    rfl
  · cases hRead
    rfl
  · exact wiimoteSend_lights (by decide) hRead

theorem wiimoteWriteData_lights {wm : WiimoteT} {addr : UInt32} {data : List UInt8}
    {calls : List DriverCall} (hWrite : wiimoteWriteData wm addr data = some calls) :
    Kind.wiiMote.lights calls = [] := by
  rw [wiimoteWriteData] at hWrite
  split_ifs at hWrite
  · cases hWrite
    rfl
  · cases hWrite
    rfl
  · exact wiimoteSend_lights (by decide) hWrite

theorem wiimoteSetLeds_lights {wm : WiimoteT} (hConnected : wm.isSet .connected = true)
    (p : Fin 4) :
    wiimoteSetLeds wm (0x10 <<< UInt8.ofNat p) =
      some ({ wm with leds := 0x10 <<< UInt8.ofNat p },
        [.setReport false 0x11 ([0x52, 0x11] ++ Kind.wiiMote.light (some p))]) := by
  have hLower : ∀ p : Fin 4, ((0x10 : UInt8) <<< UInt8.ofNat p) &&& 0xF0 =
      (0x10 : UInt8) <<< UInt8.ofNat p := by
    decide
  rw [wiimoteSetLeds, if_neg (by simp [hConnected]), hLower]
  rfl

/-- The `switch` over the index. -/
theorem setPlayerLeds_eq (wm : WiimoteT) (aIndex : Int32) :
    setPlayerLeds wm aIndex =
      match player aIndex with
      | some p => wiimoteSetLeds wm (0x10 <<< UInt8.ofNat p)
      | none => some (wm, []) := by
  rcases player_cases aIndex with ⟨p, hPlayer, rfl⟩ | ⟨hPlayer, hOut⟩
  · rw [hPlayer]
    match p with
    | 0 | 1 | 2 | 3 => rfl
  · rw [hPlayer, setPlayerLeds, if_neg, if_neg, if_neg, if_neg]
    all_goals
      rintro rfl
      revert hOut
      decide

/-- What a call of the handshake keeps of the device, and the lights it sets. -/
structure KeepsUnid (wm wm' : WiimoteT) (calls : List DriverCall) : Prop where
  unid : wm'.unid = wm.unid
  handshakeState : wm'.handshakeState ≠ 0
  lights : LightsOnly wm.unid calls

theorem setPlayerLeds_keepsUnid {wm wm' : WiimoteT} {calls : List DriverCall}
    (hState : wm.handshakeState ≠ 0) (hLeds : setPlayerLeds wm wm.unid = some (wm', calls)) :
    KeepsUnid wm wm' calls := by
  rw [setPlayerLeds_eq] at hLeds
  cases hPlayer : player wm.unid with
  | none =>
      rw [hPlayer] at hLeds
      cases hLeds
      exact ⟨rfl, hState, lightsOnly_of_nil rfl⟩
  | some p =>
      rw [hPlayer] at hLeds
      by_cases hConnected : wm.isSet .connected = true
      · cases (wiimoteSetLeds_lights hConnected p).symm.trans hLeds
        exact ⟨rfl, hState, fun lit hLit => ⟨p, hPlayer, List.mem_singleton.mp hLit⟩⟩
      · have hNone : wiimoteSetLeds wm (0x10 <<< UInt8.ofNat p) = some (wm, []) := by
          rw [wiimoteSetLeds, if_pos (by simp [hConnected])]
        cases hNone.symm.trans hLeds
        exact ⟨rfl, hState, lightsOnly_of_nil rfl⟩

/-- The device and the calls after a turn. -/
def turnResult : Turn → WiimoteT × List DriverCall
  | .returns _ wm calls => (wm, calls)
  | .continues wm calls => (wm, calls)

variable {wm : WiimoteT} {event : UInt8} {data : Option Bytes} {turn : Turn}

theorem forceHandshake_unid (wm : WiimoteT) : (forceHandshake wm).unid = wm.unid := by
  rw [forceHandshake]
  split_ifs <;> rfl

theorem unplugged_handshakeState (wm : WiimoteT) :
    (unplugged wm).handshakeState = wm.handshakeState := by
  rw [unplugged, forceHandshake]
  split_ifs <;> rfl

theorem handshakeTurnAttachment_keepsUnid {attachment : Bool} (hState : wm.handshakeState ≠ 0)
    (hTurn : handshakeTurnAttachment attachment wm = some turn) :
    KeepsUnid wm (turnResult turn).1 (turnResult turn).2 := by
  cases attachment <;> cases hExp : wm.isSet .exp
  · rw [handshakeTurnAttachment_bare hExp] at hTurn
    split at hTurn <;> cases hTurn
    · exact ⟨rfl, Nat.succ_ne_zero 1, lightsOnly_of_nil rfl⟩
    · exact ⟨rfl, hState, lightsOnly_of_nil rfl⟩
  · rw [handshakeTurnAttachment_unplug hExp] at hTurn
    split at hTurn <;> cases hTurn
    · exact ⟨forceHandshake_unid _, Nat.succ_ne_zero 1, lightsOnly_of_nil rfl⟩
    · refine ⟨forceHandshake_unid _, ?_, lightsOnly_of_nil rfl⟩
      rw [turnResult, unplugged_handshakeState]
      exact hState
  · simp only [handshakeTurnAttachment, hExp, Bool.not_false, Bool.and_true, if_true,
      Option.bind_eq_bind, Option.bind_eq_some_iff] at hTurn
    obtain ⟨first, hFirst, second, hSecond, third, hThird, hReturn⟩ := hTurn
    cases hReturn
    refine ⟨forceHandshake_unid _, Nat.succ_ne_zero 3, lightsOnly_of_nil ?_⟩
    rw [turnResult, lights_append, lights_append, wiimoteWriteData_lights hFirst,
      wiimoteWriteData_lights hSecond, wiimoteReadData_lights hThird]
    rfl
  · rw [handshakeTurnAttachment_known hExp] at hTurn
    cases hTurn
    exact ⟨rfl, hState, lightsOnly_of_nil rfl⟩

/-- After the first one, the turns of the handshake set no light but that of the
player whose index they find. -/
theorem handshakeTurn_keepsUnid (hState : wm.handshakeState ≠ 0)
    (hTurn : handshakeTurn event data wm = some turn) :
    KeepsUnid wm (turnResult turn).1 (turnResult turn).2 := by
  unfold handshakeTurn at hTurn
  split at hTurn
  -- state 0, which turns the LEDs off, is that of the construction only
  case h_1 hStart => exact absurd hStart hState
  case h_2 =>
    simp only [handshakeTurnStatus, Option.bind_eq_bind] at hTurn
    split at hTurn
    · cases hTurn
      exact ⟨rfl, hState, lightsOnly_of_nil rfl⟩
    · obtain ⟨_, -, hAttachment⟩ := Option.bind_eq_some_iff.mp hTurn
      exact handshakeTurnAttachment_keepsUnid hState hAttachment
  case h_3 | h_4 =>
    obtain ⟨calls, hReport, hReturn⟩ := Option.bind_eq_some_iff.mp hTurn
    cases hReturn
    exact ⟨rfl, Nat.succ_ne_zero 5, lightsOnly_of_nil (wiimoteDataReport_lights hReport)⟩
  case h_5 =>
    simp only [handshakeTurnIdentify, Option.bind_eq_bind] at hTurn
    split at hTurn
    · cases hTurn
      exact ⟨rfl, hState, lightsOnly_of_nil rfl⟩
    · obtain ⟨_, -, hIdentify⟩ := Option.bind_eq_some_iff.mp hTurn
      split at hIdentify
      · cases hIdentify
        exact ⟨rfl, Nat.succ_ne_zero 1, lightsOnly_of_nil rfl⟩
      · obtain ⟨calls, hRead, hReturn⟩ := Option.bind_eq_some_iff.mp hIdentify
        cases hReturn
        exact ⟨rfl, Nat.succ_ne_zero 4, lightsOnly_of_nil (wiimoteReadData_lights hRead)⟩
  case h_6 =>
    split at hTurn <;> cases hTurn
    · exact ⟨rfl, hState, lightsOnly_of_nil rfl⟩
    · exact ⟨rfl, Nat.succ_ne_zero 2, lightsOnly_of_nil rfl⟩
  case h_7 =>
    -- the end of the handshake sets the LEDs again
    obtain ⟨⟨wm', calls⟩, hLeds, hReturn⟩ := Option.bind_eq_some_iff.mp hTurn
    cases hReturn
    obtain ⟨hUnid, hState', hLights⟩ := setPlayerLeds_keepsUnid (Nat.succ_ne_zero 0) hLeds
    exact ⟨hUnid, hState', hLights⟩
  case h_8 =>
    cases hTurn
    exact ⟨rfl, hState, lightsOnly_of_nil rfl⟩

theorem handshakeLoop_keepsUnid {turns : Nat} {value : Int} {wm' : WiimoteT}
    {calls : List DriverCall} (hState : wm.handshakeState ≠ 0)
    (hLoop : handshakeLoop event data turns wm = some (value, wm', calls)) :
    KeepsUnid wm wm' calls := by
  induction turns generalizing wm calls with
  | zero => cases hLoop
  | succ turns ih =>
      obtain ⟨turn, hTurn, hRest⟩ := Option.bind_eq_some_iff.mp hLoop
      have hKeeps := handshakeTurn_keepsUnid hState hTurn
      cases turn with
      | returns value' wm₁ calls₁ =>
          cases hRest
          exact hKeeps
      | continues wm₁ calls₁ =>
          obtain ⟨⟨value', wm₂, calls₂⟩, hMore, hReturn⟩ := Option.bind_eq_some_iff.mp hRest
          cases hReturn
          have hMoreKeeps := ih hKeeps.handshakeState hMore
          refine ⟨hMoreKeeps.unid.trans hKeeps.unid, hMoreKeeps.handshakeState, ?_⟩
          exact hKeeps.lights.append (hKeeps.unid ▸ hMoreKeeps.lights)

theorem handlePacket_keepsUnid {device device' : WiimoteT} {aData : Bytes}
    {calls : List DriverCall} (hState : device.handshakeState ≠ 0)
    (hHandle : WiiMote.handlePacket aData device = some (device', calls)) :
    KeepsUnid device device' calls := by
  obtain ⟨⟨handled, reports⟩, hReport, hReturn⟩ := Option.bind_eq_some_iff.mp hHandle
  have hHandshake (event : UInt8) (bytes : Bytes)
      (hCall : (wiimoteHandshake (wiimotePressedButtons device (aData.drop 2)) event
        (some bytes)).bind (fun result => some result.2) = some (handled, reports)) :
      KeepsUnid device handled reports := by
    obtain ⟨⟨value, wm', calls'⟩, hLoop, hReturn⟩ := Option.bind_eq_some_iff.mp hCall
    cases hReturn
    have hPressed : (wiimotePressedButtons device (aData.drop 2)).handshakeState ≠ 0 := hState
    obtain ⟨hUnid, hState', hLights⟩ := handshakeLoop_keepsUnid hPressed hLoop
    exact ⟨hUnid, hState', hLights⟩
  have hKeeps : KeepsUnid device handled reports := by
    rw [WiiMote.handleReport] at hReport
    split_ifs at hReport with hButton hRead hStatus hExtension
    · cases hReport
      exact ⟨rfl, hState, lightsOnly_of_nil rfl⟩
    · exact hHandshake 0x21 _ hReport
    · exact hHandshake 0x20 _ hReport
    · obtain ⟨wm', hMore, hReturn⟩ := Option.bind_eq_some_iff.mp hReport
      cases hReturn
      unfold wiimoteHandleExpansion at hMore
      split at hMore
      · obtain ⟨classic, -, hMoved⟩ := Option.bind_eq_some_iff.mp hMore
        cases hMoved
        exact ⟨rfl, hState, lightsOnly_of_nil rfl⟩
      · cases hMore
        exact ⟨rfl, hState, lightsOnly_of_nil rfl⟩
    · cases hReport
      exact ⟨rfl, hState, lightsOnly_of_nil rfl⟩
  cases hReturn
  exact ⟨hKeeps.unid, hKeeps.handshakeState, hKeeps.lights.append (lightsOnly_of_nil rfl)⟩

/-- Lights that only ever are those of the player shown change nothing. -/
theorem lightsOnly_shown {aIndex : Int32} {calls : List DriverCall} {shown : Option (Fin 4)}
    (hLights : LightsOnly aIndex calls) (hShown : ∀ p, player aIndex = some p → shown = some p) :
    (Kind.wiiMote.lights calls).getLast?.getD (Kind.wiiMote.light shown) =
      Kind.wiiMote.light shown := by
  cases hLast : (Kind.wiiMote.lights calls).getLast? with
  | none => rfl
  | some lit =>
      obtain ⟨p, hPlayer, rfl⟩ := hLights lit (List.mem_of_getLast? hLast)
      rw [hShown p hPlayer]
      rfl

theorem shown_setPlayerIndex (history : History) (aIndex : Int32) :
    Kind.wiiMote.shown (history.record (.setPlayerIndex aIndex)) =
      (player aIndex).or (Kind.wiiMote.shown history) := by
  rw [Kind.shown, Kind.shown, History.record, List.filterMap_append, List.getLast?_append]
  cases hPlayer : player aIndex <;> simp [hPlayer]

/-- An index of a player lights up at once, any other changes nothing. -/
theorem setPlayerIndex_lights {device device' : WiimoteT} {aIndex : Int32}
    {calls : List DriverCall} (hConnected : device.isSet .connected = true)
    (hSet : WiiMote.setPlayerIndex aIndex device = some (device', calls)) :
    device'.unid = aIndex ∧ Kind.wiiMote.lights calls =
      ((player aIndex).map fun p => Kind.wiiMote.light (some p)).toList := by
  rw [WiiMote.setPlayerIndex, setPlayerLeds_eq] at hSet
  cases hPlayer : player aIndex with
  | none =>
      rw [hPlayer] at hSet
      cases hSet
      exact ⟨rfl, rfl⟩
  | some p =>
      rw [hPlayer] at hSet
      have hConnected' : ({ device with unid := aIndex } : WiimoteT).isSet .connected = true :=
        hConnected
      cases (wiimoteSetLeds_lights hConnected' p).symm.trans hSet
      exact ⟨rfl, rfl⟩

theorem wiiMote_keepsUp {device : WiimoteT}
    (hKeeps : Keeps history .wiiMote statics (.wiiMote device)) :
    (Driver.wiiMote device).KeepsUp .wiiMote history statics := by
  intro c
  obtain - | - | ⟨hSound, hUnid⟩ := hKeeps
  obtain ⟨device', calls, hCall, hSound'⟩ := hSound.wiiMote c
  obtain ⟨phase, hRep, -⟩ := hSound.handled
  refine ⟨statics, _, calls, hCall statics, ?_⟩
  cases c with
  | setPlayerIndex aIndex =>
      obtain ⟨⟨device₁, calls₁⟩, hSet, hReturn⟩ := Option.map_eq_some_iff.mp (hCall statics)
      cases hReturn
      obtain ⟨rfl, hLights⟩ := setPlayerIndex_lights hRep.connected hSet
      rw [hLights, shown_setPlayerIndex]
      refine ⟨.wiiMote hSound' fun p hPlayer => ?_, ?_⟩
      · rw [shown_setPlayerIndex, hPlayer]
        rfl
      · cases player device'.unid <;> rfl
  | handlePacket aData aSize =>
      obtain ⟨⟨device₁, calls₁⟩, hHandle, hReturn⟩ := Option.map_eq_some_iff.mp (hCall statics)
      cases hReturn
      have hState : device.handshakeState ≠ 0 := by
        rw [hRep.handshakeState]
        cases phase <;> decide
      have hKeepsUnid := handlePacket_keepsUnid hState hHandle
      refine ⟨.wiiMote hSound' fun p hPlayer => hUnid p ?_,
        lightsOnly_shown hKeepsUnid.lights hUnid⟩
      rw [← hKeepsUnid.unid]
      exact hPlayer

end HIDPad
end MFiWrapper
