import MFiWrapper.Backend.Wiimote

/-!
# The handshake as a six-phase machine

The seven numbered states, the flags and the extension type of a remote are
not independent: between two calls of `wiimote_handshake` only six combinations
occur.  This file gives the machine of these six phases and shows that one call
of the handshake, with any event and any data, is one transition of it
(`wiimoteHandshake_refines`); in particular the loop always returns.
-/

namespace MFiWrapper
namespace Wiimote

open WiimoteT StateFlag

/-! ## The phases -/

/-- What the driver is waiting for, or what it has found. -/
inductive Phase
  | awaitStatus | awaitId | awaitCalibration | bare | unknownExtension | classic
  deriving DecidableEq

/-- What a report says to the handshake. -/
inductive Signal
  | attached | detached | classicId | otherReply | other
  deriving DecidableEq

namespace Phase

/-- The handshake is not complete yet. -/
def waiting : Phase → Bool
  | awaitStatus | awaitId | awaitCalibration => true
  | bare | unknownExtension | classic => false

/-- An extension is known to be plugged in. -/
def extension : Phase → Bool
  | awaitStatus | bare => false
  | awaitId | awaitCalibration | unknownExtension | classic => true

def expType : Phase → ExpType
  | classic => .classic
  | _ => .none

def handshakeState : Phase → Nat
  | awaitId => 4
  | awaitCalibration => 5
  | _ => 1

/-- The report type the remote is asked to send, once the handshake is over. -/
def reportType : Phase → Option UInt8
  | bare | unknownExtension => some 0x30
  | classic => some 0x34
  | _ => none

/-- The transition of one call of the handshake. -/
def next : Phase → Signal → Phase
  | awaitStatus, .attached => awaitId
  | awaitStatus, .detached => bare
  | awaitId, .classicId => awaitCalibration
  | awaitId, .otherReply => unknownExtension
  | awaitCalibration, .classicId => classic
  | awaitCalibration, .otherReply => classic
  | bare, .attached => awaitId
  | unknownExtension, .detached => bare
  | classic, .detached => bare
  | phase, _ => phase

end Phase

/-- The signal in the arguments of `wiimote_handshake`. -/
def signal (event : UInt8) (data : Bytes) : Signal :=
  if event = 0x20 then
    if data 2 &&& 0x02 = 0x02 then .attached else .detached
  else if event = 0x21 then
    if bigEndianLong data = 0xa4200101 then .classicId else .otherReply
  else .other

/-- The state of a remote between two calls of the handshake. -/
structure Represents (wm : WiimoteT) (phase : Phase) : Prop where
  handshakeState : wm.handshakeState = phase.handshakeState
  connected : wm.isSet .connected = true
  handshake : wm.isSet .handshake = phase.waiting
  complete : wm.isSet .handshakeComplete = !phase.waiting
  exp : wm.isSet .exp = phase.extension
  type : wm.exp.type = phase.expType

/-! ## Commands -/

/-- The report type a call asks the remote for: `WM_CMD_REPORT_TYPE`. -/
def reportTypeCommand : DriverCall → Option UInt8
  | .setReport false 0x12 [0x52, 0x12, _, type] => some type
  | _ => none

/-- The report types asked for by a list of calls. -/
def reportTypes (calls : List DriverCall) : List UInt8 := calls.filterMap reportTypeCommand

/-- The calls are reports to the remote which ask for the given report types;
none of them sends an input state. -/
structure Commands (calls : List DriverCall) (types : List UInt8) : Prop where
  types : reportTypes calls = types
  quiet : calls.filterMap DriverCall.sentState = []

theorem Commands.nil : Commands [] [] := ⟨rfl, rfl⟩

theorem Commands.append {first second : List DriverCall} {types types' : List UInt8}
    (hFirst : Commands first types) (hSecond : Commands second types') :
    Commands (first ++ second) (types ++ types') where
  types := by
    rw [reportTypes, List.filterMap_append]
    exact congrArg₂ _ hFirst.types hSecond.types
  quiet := by rw [List.filterMap_append, hFirst.quiet, hSecond.quiet, List.append_nil]

theorem wiimoteSend_fits (reportType : UInt8) {msg : List UInt8} (hLen : msg.length ≤ 30) :
    wiimoteSend reportType msg =
      some [.setReport false reportType (0x52 :: reportType :: msg)] := by
  rw [wiimoteSend, if_pos (by omega)]
  rfl

/-- A command other than `WM_CMD_REPORT_TYPE` asks for no report type. -/
theorem wiimoteSend_other {reportType : UInt8} (hType : reportType ≠ 0x12)
    {msg : List UInt8} (hLen : msg.length ≤ 30) :
    ∃ calls, wiimoteSend reportType msg = some calls ∧ Commands calls [] := by
  refine ⟨_, wiimoteSend_fits reportType hLen, ?_, rfl⟩
  rw [reportTypes, List.filterMap_cons_none, List.filterMap_nil]
  unfold reportTypeCommand
  split
  · rename_i hCall
    injection hCall with _ hID
    exact absurd hID hType
  · rfl

variable {wm : WiimoteT}

theorem wiimoteDataReport_connected (hConnected : wm.isSet .connected = true) (type : UInt8) :
    ∃ calls, wiimoteDataReport wm type = some calls ∧ Commands calls [type] := by
  refine ⟨[.setReport false 0x12 [0x52, 0x12, 0, type]], ?_, rfl, rfl⟩
  rw [wiimoteDataReport, if_neg (by simp [hConnected])]
  exact wiimoteSend_fits 0x12 (by simp)

theorem wiimoteSetLeds_connected (hConnected : wm.isSet .connected = true) (leds : UInt8) :
    ∃ calls, wiimoteSetLeds wm leds = some ({ wm with leds := leds &&& 0xF0 }, calls) ∧
      Commands calls [] := by
  obtain ⟨calls, hSend, hTypes⟩ :
      ∃ calls, wiimoteSend 0x11 [leds &&& 0xF0] = some calls ∧ Commands calls [] :=
    wiimoteSend_other (by decide) (by simp)
  exact ⟨calls, by simp [wiimoteSetLeds, hConnected, hSend], hTypes⟩

theorem setPlayerLeds_connected (hConnected : wm.isSet .connected = true) (index : Int32) :
    ∃ leds calls, setPlayerLeds wm index = some ({ wm with leds := leds }, calls) ∧
      Commands calls [] := by
  unfold setPlayerLeds
  split_ifs
  · exact ⟨_, wiimoteSetLeds_connected hConnected 0x10⟩
  · exact ⟨_, wiimoteSetLeds_connected hConnected 0x20⟩
  · exact ⟨_, wiimoteSetLeds_connected hConnected 0x40⟩
  · exact ⟨_, wiimoteSetLeds_connected hConnected 0x80⟩
  · exact ⟨wm.leds, [], rfl, .nil⟩

/-- The player index can be shown in every state of the remote. -/
theorem setPlayerLeds_isSome (wm : WiimoteT) (index : Int32) :
    ∃ result, setPlayerLeds wm index = some result := by
  by_cases hConnected : wm.isSet .connected = true
  · obtain ⟨leds, calls, hLeds, -⟩ := setPlayerLeds_connected hConnected index
    exact ⟨_, hLeds⟩
  · have hLeds (leds : UInt8) : wiimoteSetLeds wm leds = some (wm, []) := by
      simp [wiimoteSetLeds, hConnected]
    unfold setPlayerLeds
    split_ifs <;> simp [hLeds]

theorem wiimoteReadData_connected (hConnected : wm.isSet .connected = true)
    (addr : UInt32) {len : UInt16} (hLen : len ≠ 0) :
    ∃ calls, wiimoteReadData wm addr len = some calls ∧ Commands calls [] := by
  rw [wiimoteReadData, if_neg (by simp [hConnected]), if_neg hLen]
  exact wiimoteSend_other (by decide) (by simp)

theorem wiimoteWriteData_connected (hConnected : wm.isSet .connected = true)
    (addr : UInt32) (byte : UInt8) :
    ∃ calls, wiimoteWriteData wm addr [byte] = some calls ∧ Commands calls [] := by
  rw [wiimoteWriteData, if_neg (by simp [hConnected]), if_neg (by simp), if_pos (by simp)]
  exact wiimoteSend_other (by decide) (by simp)

/-! ## Turns of the loop -/

variable {event : UInt8} {data : Option Bytes}

theorem handshakeLoop_returns {value : Int} {wm' : WiimoteT} {calls : List DriverCall}
    (hTurn : handshakeTurn event data wm = some (.returns value wm' calls)) (turns : Nat) :
    handshakeLoop event data (turns + 1) wm = some (value, wm', calls) := by
  simp [handshakeLoop, hTurn]

theorem handshakeLoop_continues {value : Int} {wm₁ wm₂ : WiimoteT}
    {calls calls' : List DriverCall} {turns : Nat}
    (hTurn : handshakeTurn event data wm = some (.continues wm₁ calls))
    (hRest : handshakeLoop event data turns wm₁ = some (value, wm₂, calls')) :
    handshakeLoop event data (turns + 1) wm = some (value, wm₂, calls ++ calls') := by
  simp [handshakeLoop, hTurn, hRest]

/-- The remote after state 6. -/
def concluded (wm : WiimoteT) (leds : UInt8) : WiimoteT :=
  { (wm.disable .handshake).enable .handshakeComplete with
    handshakeState := 1
    leds := leds }

/-- State 6 returns, whatever the player index. -/
theorem handshakeTurnFinish_connected (hConnected : wm.isSet .connected = true) :
    ∃ leds calls, handshakeTurnFinish wm = some (.returns 1 (concluded wm leds) calls) ∧
      Commands calls [] := by
  have hKeep : (concluded wm wm.leds).isSet .connected = true := by
    rw [isSet] at hConnected ⊢
    simp [concluded, enable, disable, hConnected]
  obtain ⟨leds, calls, hLeds, hNone⟩ := setPlayerLeds_connected hKeep wm.unid
  refine ⟨leds, calls, ?_, hNone⟩
  show (setPlayerLeds (concluded wm wm.leds) wm.unid).bind _ = _
  rw [hLeds]
  rfl

/-- States 2 and 3 ask for a report type and lead through state 6 to the end. -/
theorem handshakeLoop_conclude (hConnected : wm.isSet .connected = true) {s : Nat}
    {type : UInt8} (hReport : s = 2 ∧ type = 0x30 ∨ s = 3 ∧ type = 0x34) :
    ∃ leds calls, handshakeLoop event data 2 { wm with handshakeState := s } =
        some (1, concluded wm leds, calls) ∧ Commands calls [type] := by
  obtain ⟨report, hSend, hType⟩ :
      ∃ calls, wiimoteDataReport { wm with handshakeState := s } type = some calls ∧
        Commands calls [type] :=
    wiimoteDataReport_connected hConnected type
  obtain ⟨leds, finish, hFinish, hNone⟩ :
      ∃ leds calls, handshakeTurn event data { wm with handshakeState := 6 } =
        some (.returns 1 (concluded wm leds) calls) ∧ Commands calls [] :=
    handshakeTurnFinish_connected hConnected
  refine ⟨leds, report ++ finish, ?_, hType.append hNone⟩
  have hTurn : handshakeTurn event data { wm with handshakeState := s } =
      some (.continues { wm with handshakeState := 6 } report) := by
    rcases hReport with ⟨rfl, rfl⟩ | ⟨rfl, rfl⟩
    · simp only [handshakeTurn, hSend]
      rfl
    · simp only [handshakeTurn, hSend]
      rfl
  exact handshakeLoop_continues hTurn (handshakeLoop_returns hFinish 0)

/-! ## Attachment changes -/

/-- The remote after an attachment was plugged in. -/
def plugged (wm : WiimoteT) : WiimoteT :=
  { forceHandshake (wm.enable .exp) with handshakeState := 4 }

/-- The remote after an attachment was unplugged. -/
def unplugged (wm : WiimoteT) : WiimoteT :=
  forceHandshake { wm.disable .exp with exp := { wm.exp with type := .none } }

theorem isSet_forceHandshake (wm : WiimoteT) (t : StateFlag) :
    (forceHandshake wm).isSet t =
      (wm.isSet .handshakeComplete && decide (t = .handshake) ||
        wm.isSet t && !(wm.isSet .handshakeComplete && decide (t = .handshakeComplete))) := by
  unfold forceHandshake
  by_cases hComplete : wm.isSet .handshakeComplete = true
  · rw [if_pos hComplete, hComplete]
    cases t <;> simp [isSet, enable, disable]
  · rw [if_neg hComplete]
    simp [hComplete]

theorem handshakeTurnAttachment_plug (hConnected : wm.isSet .connected = true)
    (hExp : wm.isSet .exp = false) :
    ∃ calls, handshakeTurnAttachment true wm = some (.returns 0 (plugged wm) calls) ∧
      Commands calls [] := by
  have hConn : (forceHandshake (wm.enable .exp)).isSet .connected = true := by
    rw [isSet] at hConnected
    rw [isSet_forceHandshake]
    simp [isSet, enable, hConnected]
  obtain ⟨first, hFirst, hFirstNone⟩ := wiimoteWriteData_connected hConn 0x04A400F0 0x55
  obtain ⟨second, hSecond, hSecondNone⟩ := wiimoteWriteData_connected hConn 0x04A400FB 0x00
  obtain ⟨third, hThird, hThirdNone⟩ :=
    wiimoteReadData_connected hConn (0x04A40020 + 220) (show (4 : UInt16) ≠ 0 by decide)
  refine ⟨first ++ second ++ third, ?_, (hFirstNone.append hSecondNone).append hThirdNone⟩
  simp only [handshakeTurnAttachment, hExp, hFirst, hSecond, hThird]
  rfl

theorem handshakeTurnAttachment_known (hExp : wm.isSet .exp = true) :
    handshakeTurnAttachment true wm = some (.returns 0 wm []) := by
  simp [handshakeTurnAttachment, hExp]

theorem handshakeTurnAttachment_bare (hExp : wm.isSet .exp = false) :
    handshakeTurnAttachment false wm =
      if wm.isSet .handshake then some (.continues { wm with handshakeState := 2 } [])
      else some (.returns 0 wm []) := by
  simp [handshakeTurnAttachment, hExp]

theorem handshakeTurnAttachment_unplug (hExp : wm.isSet .exp = true) :
    handshakeTurnAttachment false wm =
      if (unplugged wm).isSet .handshake then
        some (.continues { unplugged wm with handshakeState := 2 } [])
      else some (.returns 0 (unplugged wm) []) := by
  simp only [handshakeTurnAttachment, hExp]
  rfl

/-! ## Why three turns are enough -/

theorem handshakeTurnAttachment_continues {attachment : Bool} {wm₁ : WiimoteT}
    {calls : List DriverCall}
    (hTurn : handshakeTurnAttachment attachment wm = some (.continues wm₁ calls)) :
    wm₁.handshakeState = 2 := by
  cases attachment <;> cases hExp : wm.isSet .exp
  · rw [handshakeTurnAttachment_bare hExp] at hTurn
    split at hTurn <;> cases hTurn
    rfl
  · rw [handshakeTurnAttachment_unplug hExp] at hTurn
    split at hTurn <;> cases hTurn
    rfl
  · simp only [handshakeTurnAttachment, hExp, Bool.not_false, Bool.and_true, if_true,
      Option.bind_eq_bind, Option.bind_eq_some_iff] at hTurn
    obtain ⟨_, -, _, -, _, -, hReturn⟩ := hTurn
    cases hReturn
  · rw [handshakeTurnAttachment_known hExp] at hTurn
    cases hTurn

/-- A turn that does not return moves on to the next stage of the handshake,
except in the states that the code never enters. -/
theorem handshakeTurn_continues {wm₁ : WiimoteT} {calls : List DriverCall}
    (hTurn : handshakeTurn event data wm = some (.continues wm₁ calls)) :
    ((wm.handshakeState = 1 ∨ wm.handshakeState = 4 ∨ wm.handshakeState = 5) ∧
        (wm₁.handshakeState = 2 ∨ wm₁.handshakeState = 3)) ∨
      ((wm.handshakeState = 2 ∨ wm.handshakeState = 3) ∧ wm₁.handshakeState = 6) ∨
      (6 < wm.handshakeState ∧ wm₁ = wm ∧ calls = []) := by
  unfold handshakeTurn at hTurn
  split at hTurn
  case h_1 =>
    simp only [Option.bind_eq_bind, Option.bind_eq_some_iff] at hTurn
    grind
  case h_2 hState =>
    simp only [handshakeTurnStatus, Option.bind_eq_bind] at hTurn
    split at hTurn
    · cases hTurn
    · obtain ⟨_, -, hAttachment⟩ := Option.bind_eq_some_iff.mp hTurn
      exact .inl ⟨.inl hState, .inl (handshakeTurnAttachment_continues hAttachment)⟩
  case h_5 hState =>
    simp only [handshakeTurnIdentify, Option.bind_eq_bind] at hTurn
    split at hTurn
    · cases hTurn
    · obtain ⟨_, -, hIdentify⟩ := Option.bind_eq_some_iff.mp hTurn
      split at hIdentify
      · cases hIdentify
        exact .inl ⟨.inr (.inl hState), .inl rfl⟩
      · obtain ⟨_, -, hReturn⟩ := Option.bind_eq_some_iff.mp hIdentify
        cases hReturn
  case h_6 => grind
  case h_7 =>
    simp only [handshakeTurnFinish, Option.bind_eq_bind, Option.bind_eq_some_iff] at hTurn
    grind
  case h_8 h₀ h₁ h₂ h₃ h₄ h₅ h₆ =>
    cases hTurn
    simp only [imp_false] at h₀ h₁ h₂ h₃ h₄ h₅ h₆
    exact .inr (.inr ⟨by omega, rfl, rfl⟩)
  all_goals
    simp only [Option.bind_eq_bind, Option.bind_eq_some_iff] at hTurn
    grind

/-- In a state beyond 6 the loop turns forever. -/
theorem handshakeLoop_spins (hState : 6 < wm.handshakeState) (turns : Nat) :
    handshakeLoop event data turns wm = none := by
  induction turns with
  | zero => rfl
  | succ turns ih =>
      have hTurn : handshakeTurn event data wm = some (.continues wm []) := by
        unfold handshakeTurn
        split <;> first | rfl | omega
      simp [handshakeLoop, hTurn, ih]

theorem handshakeLoop_succ_congr {n m : Nat}
    (hNext : ∀ wm₁ calls, handshakeTurn event data wm = some (.continues wm₁ calls) →
      handshakeLoop event data n wm₁ = handshakeLoop event data m wm₁) :
    handshakeLoop event data (n + 1) wm = handshakeLoop event data (m + 1) wm := by
  unfold handshakeLoop
  cases hTurn : handshakeTurn event data wm with
  | none => rfl
  | some turn =>
      cases turn with
      | returns value wm' calls => rfl
      | continues wm₁ calls => simp [hNext wm₁ calls hTurn]

/-- More than three turns change nothing: the loop has returned, or it never
will. -/
theorem handshakeLoop_eq_handshake (turns : Nat) :
    handshakeLoop event data (turns + 3) wm = wiimoteHandshake wm event data := by
  refine handshakeLoop_succ_congr fun wm₁ _ h₁ => ?_
  rcases handshakeTurn_continues h₁ with ⟨-, hMiddle⟩ | ⟨-, hLast⟩ | ⟨hSpin, rfl, -⟩
  · refine handshakeLoop_succ_congr fun wm₂ _ h₂ => ?_
    refine handshakeLoop_succ_congr fun wm₃ _ h₃ => ?_
    rcases handshakeTurn_continues h₂ with ⟨h, -⟩ | ⟨-, hLast⟩ | ⟨hSpin, -⟩
    · omega
    · rcases handshakeTurn_continues h₃ with ⟨h, -⟩ | ⟨h, -⟩ | ⟨h, -⟩ <;> omega
    · omega
  · refine handshakeLoop_succ_congr fun wm₂ _ h₂ => ?_
    rcases handshakeTurn_continues h₂ with ⟨h, -⟩ | ⟨h, -⟩ | ⟨h, -⟩ <;> omega
  · rw [handshakeLoop_spins hSpin, handshakeLoop_spins hSpin]

/-! ## What the data decide -/

/-- Only states 1 and 4 look at the data. -/
theorem handshakeTurn_ignores {data' : Option Bytes} (hStatus : wm.handshakeState ≠ 1)
    (hIdentify : wm.handshakeState ≠ 4) :
    handshakeTurn event data wm = handshakeTurn event data' wm := by
  unfold handshakeTurn
  split
  case h_2 hState => exact absurd hState hStatus
  case h_5 hState => exact absurd hState hIdentify
  all_goals rfl

/-- From any other state the whole loop does not. -/
theorem handshakeLoop_ignores {data' : Option Bytes} (hStatus : wm.handshakeState ≠ 1)
    (hIdentify : wm.handshakeState ≠ 4) (turns : Nat) :
    handshakeLoop event data turns wm = handshakeLoop event data' turns wm := by
  induction turns generalizing wm with
  | zero => rfl
  | succ turns ih =>
      have hTurn : handshakeTurn event data wm = handshakeTurn event data' wm :=
        handshakeTurn_ignores hStatus hIdentify
      rw [handshakeLoop, handshakeLoop, ← hTurn]
      cases hNext : handshakeTurn event data wm with
      | none => rfl
      | some turn =>
          cases turn with
          | returns value wm' calls => rfl
          | continues wm₁ calls =>
              have hStates : wm₁.handshakeState ≠ 1 ∧ wm₁.handshakeState ≠ 4 := by
                rcases handshakeTurn_continues hNext with ⟨-, h⟩ | ⟨-, h⟩ | ⟨h, rfl, -⟩ <;> omega
              simp [ih hStates.1 hStates.2]

/-- So the handshake depends on the data through its first turn. -/
theorem wiimoteHandshake_congr {data' : Option Bytes}
    (hTurn : handshakeTurn event data wm = handshakeTurn event data' wm) :
    wiimoteHandshake wm event data = wiimoteHandshake wm event data' := by
  rw [wiimoteHandshake, wiimoteHandshake, handshakeLoop, handshakeLoop, ← hTurn]
  cases hNext : handshakeTurn event data wm with
  | none => rfl
  | some turn =>
      cases turn with
      | returns value wm' calls => rfl
      | continues wm₁ calls =>
          have hStates : wm₁.handshakeState ≠ 1 ∧ wm₁.handshakeState ≠ 4 := by
            rcases handshakeTurn_continues hNext with ⟨-, h⟩ | ⟨-, h⟩ | ⟨h, rfl, -⟩ <;> omega
          have hRest (turns : Nat) :
              handshakeLoop event data turns wm₁ = handshakeLoop event data' turns wm₁ :=
            handshakeLoop_ignores hStates.1 hStates.2 turns
          simp [hRest]

/-- The phase of a remote is determined by its state. -/
theorem represents_unique {phase phase' : Phase} (hRep : Represents wm phase)
    (hRep' : Represents wm phase') : phase = phase' := by
  have hState := hRep.handshakeState.symm.trans hRep'.handshakeState
  have hWaiting := hRep.handshake.symm.trans hRep'.handshake
  have hExtension := hRep.exp.symm.trans hRep'.exp
  have hType := hRep.type.symm.trans hRep'.type
  cases phase <;> cases phase' <;>
    simp [Phase.handshakeState, Phase.waiting, Phase.extension, Phase.expType] at *

/-! ## Representation -/

theorem represents_plugged {phase : Phase} (hRep : Represents wm phase)
    (hBare : phase.extension = false) : Represents (plugged wm) .awaitId := by
  have hType : phase.expType = .none := by
    cases phase <;> first | rfl | cases hBare
  have hFlag (t : StateFlag) :
      (plugged wm).isSet t =
        (wm.isSet .handshakeComplete && decide (t = .handshake) ||
          (wm.isSet t || decide (StateFlag.exp = t)) &&
            !(wm.isSet .handshakeComplete && decide (t = .handshakeComplete))) := by
    show (forceHandshake (wm.enable .exp)).isSet t = _
    rw [isSet_forceHandshake]
    simp [isSet, enable]
  constructor
  · rfl
  · simp [hFlag, hRep.connected]
  · rw [hFlag, hRep.complete, hRep.handshake]
    cases phase.waiting <;> rfl
  · rw [hFlag, hRep.complete]
    cases phase.waiting <;> rfl
  · simp [hFlag, Phase.extension]
  · have hKeep : (plugged wm).exp = wm.exp := by
      simp only [plugged, forceHandshake]
      split_ifs <;> rfl
    rw [hKeep, hRep.type, hType]
    rfl

/-- Unplugging leaves a remote whose handshake is under way and which has no
extension. -/
theorem isSet_unplugged (t : StateFlag) :
    (unplugged wm).isSet t =
      (wm.isSet .handshakeComplete && decide (t = .handshake) ||
        wm.isSet t && !decide (StateFlag.exp = t) &&
          !(wm.isSet .handshakeComplete && decide (t = .handshakeComplete))) := by
  rw [unplugged, isSet_forceHandshake]
  simp [isSet, disable]

theorem represents_concluded {phase : Phase} (hDone : phase.waiting = false)
    (hConnected : wm.isSet .connected = true) (hExp : wm.isSet .exp = phase.extension)
    (hType : wm.exp.type = phase.expType) (leds : UInt8) :
    Represents (concluded wm leds) phase := by
  have hFlag (t : StateFlag) :
      (concluded wm leds).isSet t =
        ((wm.isSet t && !decide (StateFlag.handshake = t)) ||
          decide (StateFlag.handshakeComplete = t)) := by
    simp [isSet, concluded, enable, disable]
  constructor
  · cases phase <;> first | rfl | cases hDone
  · simp [hFlag, hConnected]
  · simp [hFlag, hDone]
  · simp [hFlag, hDone]
  · simp [hFlag, hExp]
  · exact hType

/-! ## The refinement -/

/-- What one call of the handshake does, seen from the phase it starts in. -/
structure Outcome (phase : Phase) (s : Signal) (wm wm' : WiimoteT)
    (calls : List DriverCall) : Prop where
  represents : Represents wm' (phase.next s)
  /-- A report type is asked for exactly when a concluded phase is entered. -/
  reports : Commands calls
    (if phase.next s = phase then [] else (phase.next s).reportType.toList)
  /-- The classic controller is reset when it is found, and only then. -/
  classic : wm'.exp.classic =
    if phase ≠ .classic ∧ phase.next s = .classic then .zero else wm.exp.classic
  unid : wm'.unid = wm.unid
  btns : wm'.btns = wm.btns

/-- A call that does nothing is a transition from a phase to itself. -/
theorem Outcome.stay {phase : Phase} {s : Signal} (hRep : Represents wm phase)
    (hNext : phase.next s = phase) : Outcome phase s wm wm [] where
  represents := hNext.symm ▸ hRep
  reports := by rw [if_pos hNext]; exact .nil
  classic := by rw [if_neg fun hEnter => hEnter.1 (hNext ▸ hEnter.2)]
  unid := rfl
  btns := rfl

theorem signal_cases (event : UInt8) (data : Bytes) :
    (event = 0x20 ∧ (data 2 &&& 0x02 == 0x02) = true ∧ signal event data = .attached) ∨
    (event = 0x20 ∧ (data 2 &&& 0x02 == 0x02) = false ∧ signal event data = .detached) ∨
    (event = 0x21 ∧ bigEndianLong data = 0xa4200101 ∧ signal event data = .classicId) ∨
    (event = 0x21 ∧ bigEndianLong data ≠ 0xa4200101 ∧ signal event data = .otherReply) ∨
    (event ≠ 0x20 ∧ event ≠ 0x21 ∧ signal event data = .other) := by
  unfold signal
  by_cases hStatus : event = 0x20
  · by_cases hBit : data 2 &&& 0x02 = 0x02
    · simp [hStatus, hBit]
    · simp [hStatus, hBit]
  · by_cases hRead : event = 0x21
    · by_cases hId : bigEndianLong data = 0xa4200101
      · simp [hRead, hId]
      · simp [hRead, hId]
    · simp [hStatus, hRead]

/-- One call of the handshake is one transition of the phases. -/
def Refines (phase : Phase) (s : Signal) (wm : WiimoteT) (event : UInt8)
    (data : Option Bytes) : Prop :=
  ∃ value wm' calls, wiimoteHandshake wm event data = some (value, wm', calls) ∧
    Outcome phase s wm wm' calls

variable {phase phase' : Phase} {s : Signal}

theorem refines_stay (hRep : Represents wm phase) (hNext : phase.next s = phase)
    (hTurn : handshakeTurn event data wm = some (.returns 0 wm [])) :
    Refines phase s wm event data :=
  ⟨0, wm, [], handshakeLoop_returns hTurn 2, Outcome.stay hRep hNext⟩

/-- A turn that returns in a waiting phase. -/
theorem refines_wait {wm' : WiimoteT} {calls : List DriverCall}
    (hNext : phase.next s = phase') (hWaiting : phase'.waiting = true)
    (hTurn : handshakeTurn event data wm = some (.returns 0 wm' calls))
    (hNone : Commands calls []) (hRep : Represents wm' phase')
    (hClassic : wm'.exp.classic = wm.exp.classic) (hUnid : wm'.unid = wm.unid)
    (hBtns : wm'.btns = wm.btns) : Refines phase s wm event data := by
  have hNoReport : phase'.reportType = none := by
    cases phase' <;> first | rfl | cases hWaiting
  refine ⟨0, wm', calls, handshakeLoop_returns hTurn 2, hNext ▸ hRep, ?_, ?_, hUnid, hBtns⟩
  · rw [hNext, hNoReport]
    exact (ite_self ([] : List UInt8)).symm ▸ hNone
  · rw [if_neg, hClassic]
    rintro ⟨-, hEnter⟩
    rw [← hNext, hEnter] at hWaiting
    cases hWaiting

/-- A turn that leads on to state 2 or 3. -/
theorem refines_conclude {wm₁ : WiimoteT} {n : Nat} {type : UInt8}
    (hNext : phase.next s = phase') (hMove : phase' ≠ phase)
    (hDone : phase'.waiting = false)
    (hTurn : handshakeTurn event data wm =
      some (.continues { wm₁ with handshakeState := n } []))
    (hReport : n = 2 ∧ type = 0x30 ∨ n = 3 ∧ type = 0x34)
    (hReportType : phase'.reportType = some type)
    (hConnected : wm₁.isSet .connected = true) (hExp : wm₁.isSet .exp = phase'.extension)
    (hType : wm₁.exp.type = phase'.expType)
    (hClassic : wm₁.exp.classic =
      if phase ≠ .classic ∧ phase' = .classic then .zero else wm.exp.classic)
    (hUnid : wm₁.unid = wm.unid) (hBtns : wm₁.btns = wm.btns) :
    Refines phase s wm event data := by
  obtain ⟨leds, calls, hLoop, hTypes⟩ := handshakeLoop_conclude hConnected hReport
  refine ⟨1, concluded wm₁ leds, [] ++ calls, handshakeLoop_continues hTurn hLoop, ?_⟩
  subst hNext
  constructor
  · exact represents_concluded hDone hConnected hExp hType leds
  · rw [if_neg hMove, hReportType]
    exact hTypes
  · exact hClassic
  · exact hUnid
  · exact hBtns

variable {bytes : Bytes}

theorem handshakeTurn_status (hState : wm.handshakeState = 1) (event : UInt8)
    (data : Option Bytes) : handshakeTurn event data wm = handshakeTurnStatus event data wm := by
  simp only [handshakeTurn, hState]

theorem handshakeTurn_attachment (hState : wm.handshakeState = 1) {attachment : Bool}
    (hBit : (bytes 2 &&& 0x02 == 0x02) = attachment) :
    handshakeTurn 0x20 (some bytes) wm = handshakeTurnAttachment attachment wm := by
  rw [handshakeTurn_status hState, ← hBit]
  rfl

/-- Two strings of data lead to the same turn when they agree in what the state looks
at: the attachment bit, or whether a classic controller is identified. -/
theorem handshakeTurn_congr {bytes' : Bytes}
    (hStatus : event = 0x20 → wm.handshakeState = 1 → bytes 2 = bytes' 2)
    (hIdentify : event = 0x21 → wm.handshakeState = 4 →
      (bigEndianLong bytes = 0xa4200101 ↔ bigEndianLong bytes' = 0xa4200101)) :
    handshakeTurn event (some bytes) wm = handshakeTurn event (some bytes') wm := by
  by_cases hOne : wm.handshakeState = 1
  · rw [handshakeTurn_status hOne, handshakeTurn_status hOne]
    by_cases hEvent : event = 0x20
    · simp [handshakeTurnStatus, hStatus hEvent hOne]
    · simp [handshakeTurnStatus, hEvent]
  by_cases hFour : wm.handshakeState = 4
  · simp only [handshakeTurn, hFour, handshakeTurnIdentify]
    by_cases hEvent : event = 0x21
    · have hSame := hIdentify hEvent hFour
      by_cases hId : bigEndianLong bytes = 0xa4200101
      · simp [hEvent, hId, hSame.mp hId]
      · simp [hEvent, hId, mt hSame.mpr hId]
    · simp [hEvent]
  · exact handshakeTurn_ignores hOne hFour

/-- A status report says that an attachment is plugged in. -/
theorem refines_attached (hRep : Represents wm phase) (hState : phase.handshakeState = 1)
    (hBit : (bytes 2 &&& 0x02 == 0x02) = true) :
    Refines phase .attached wm 0x20 (some bytes) := by
  have hTurn := handshakeTurn_attachment (hRep.handshakeState.trans hState) hBit
  cases hExp : phase.extension
  · obtain ⟨calls, hPlug, hNone⟩ :=
      handshakeTurnAttachment_plug hRep.connected (hRep.exp.trans hExp)
    have hKeep : (plugged wm).exp = wm.exp ∧ (plugged wm).unid = wm.unid ∧
        (plugged wm).btns = wm.btns := by
      simp only [plugged, forceHandshake]
      split_ifs <;> exact ⟨rfl, rfl, rfl⟩
    have hNext : phase.next .attached = .awaitId := by
      cases phase <;> first | rfl | cases hExp
    exact refines_wait hNext rfl (hTurn.trans hPlug) hNone (represents_plugged hRep hExp)
      (by rw [hKeep.1]) hKeep.2.1 hKeep.2.2
  · have hNext : phase.next .attached = phase := by
      cases phase <;> first | rfl | cases hExp
    exact refines_stay hRep hNext
      (hTurn.trans (handshakeTurnAttachment_known (hRep.exp.trans hExp)))

/-- A status report says that no attachment is plugged in. -/
theorem refines_detached (hRep : Represents wm phase) (hState : phase.handshakeState = 1)
    (hBit : (bytes 2 &&& 0x02 == 0x02) = false) :
    Refines phase .detached wm 0x20 (some bytes) := by
  have hTurn := handshakeTurn_attachment (hRep.handshakeState.trans hState) hBit
  have hExp := hRep.exp
  cases phase with
  | awaitStatus =>
      -- the first status report: the remote has no extension
      have hHandshake : wm.isSet .handshake = true := hRep.handshake
      rw [handshakeTurnAttachment_bare hExp, if_pos hHandshake] at hTurn
      exact refines_conclude rfl (by decide) rfl hTurn (.inl ⟨rfl, rfl⟩) rfl hRep.connected
        hExp hRep.type rfl rfl rfl
  | bare =>
      rw [handshakeTurnAttachment_bare hExp, if_neg (by simp [hRep.handshake, Phase.waiting])]
        at hTurn
      exact refines_stay hRep rfl hTurn
  | unknownExtension | classic =>
      have hComplete : wm.isSet .handshakeComplete = true := hRep.complete
      have hHandshake : (unplugged wm).isSet .handshake = true := by
        simp [isSet_unplugged, hComplete]
      rw [handshakeTurnAttachment_unplug hExp, if_pos hHandshake] at hTurn
      have hKeep : (unplugged wm).exp = { wm.exp with type := .none } ∧
          (unplugged wm).unid = wm.unid ∧ (unplugged wm).btns = wm.btns := by
        simp only [unplugged, forceHandshake]
        split_ifs <;> exact ⟨rfl, rfl, rfl⟩
      exact refines_conclude rfl (by decide) rfl hTurn (.inl ⟨rfl, rfl⟩) rfl
        (by simp [isSet_unplugged, hRep.connected])
        (by simp [isSet_unplugged, Phase.next, Phase.extension])
        (by rw [hKeep.1]; rfl) (by rw [hKeep.1]; rfl) hKeep.2.1 hKeep.2.2
  | awaitId | awaitCalibration => cases hState

/-- A reply to the identification request. -/
theorem refines_identify (hRep : Represents wm .awaitId) :
    Refines .awaitId (signal 0x21 bytes) wm 0x21 (some bytes) := by
  have hState : wm.handshakeState = 4 := hRep.handshakeState
  have hTurn : handshakeTurn 0x21 (some bytes) wm =
      handshakeTurnIdentify 0x21 (some bytes) wm := by
    simp only [handshakeTurn, hState]
  by_cases hId : bigEndianLong bytes = 0xa4200101
  · have hSignal : signal 0x21 bytes = .classicId := by simp [signal, hId]
    obtain ⟨calls, hRead, hNone⟩ :=
      wiimoteReadData_connected hRep.connected 0x04A40020 (show (16 : UInt16) ≠ 0 by decide)
    have hIdentify : handshakeTurnIdentify 0x21 (some bytes) wm =
        some (.returns 0 { wm with handshakeState := 5 } calls) := by
      simp [handshakeTurnIdentify, hId, hRead]
    rw [hSignal]
    exact refines_wait rfl rfl (hTurn.trans hIdentify) hNone
      ⟨rfl, hRep.connected, hRep.handshake, hRep.complete, hRep.exp, hRep.type⟩ rfl rfl rfl
  · have hSignal : signal 0x21 bytes = .otherReply := by simp [signal, hId]
    have hIdentify : handshakeTurnIdentify 0x21 (some bytes) wm =
        some (.continues { wm with handshakeState := 2 } []) := by
      simp [handshakeTurnIdentify, hId]
    rw [hSignal]
    exact refines_conclude rfl (by decide) rfl (hTurn.trans hIdentify) (.inl ⟨rfl, rfl⟩) rfl
      hRep.connected hRep.exp hRep.type rfl rfl rfl

/-- A reply to the calibration request. -/
theorem refines_calibrate (hRep : Represents wm .awaitCalibration) :
    Refines .awaitCalibration (signal 0x21 bytes) wm 0x21 (some bytes) := by
  have hState : wm.handshakeState = 5 := hRep.handshakeState
  have hTurn : handshakeTurn 0x21 (some bytes) wm =
      some (.continues { classicCtrlHandshake wm with handshakeState := 3 } []) := by
    simp [handshakeTurn, hState]
  have hNext : Phase.next .awaitCalibration (signal 0x21 bytes) = .classic := by
    by_cases hId : bigEndianLong bytes = 0xa4200101 <;> simp [signal, hId, Phase.next]
  exact refines_conclude hNext (by decide) rfl hTurn (.inr ⟨rfl, rfl⟩) rfl hRep.connected
    hRep.exp rfl (by simp [classicCtrlHandshake]) rfl rfl

/-- In states 4 and 5 everything but a read reply is ignored. -/
theorem refines_ignored (hRep : Represents wm phase) (hState : phase.handshakeState ≠ 1)
    (hEvent : event ≠ 0x21) : Refines phase (signal event bytes) wm event (some bytes) := by
  have hNext : phase.next (signal event bytes) = phase := by
    rcases signal_cases event bytes with ⟨-, -, h⟩ | ⟨-, -, h⟩ | ⟨h, -⟩ | ⟨h, -⟩ | ⟨-, -, h⟩
    · rw [h]; cases phase <;> first | rfl | cases hState rfl
    · rw [h]; cases phase <;> first | rfl | cases hState rfl
    · exact absurd h hEvent
    · exact absurd h hEvent
    · rw [h]; cases phase <;> rfl
  refine refines_stay hRep hNext ?_
  have hNumber := hRep.handshakeState
  cases phase with
  | awaitId => simp [handshakeTurn, hNumber, Phase.handshakeState, handshakeTurnIdentify, hEvent]
  | awaitCalibration => simp [handshakeTurn, hNumber, Phase.handshakeState, hEvent]
  | _ => cases hState rfl

/-- Refinement: from a represented state, one call of `wiimote_handshake` with
any event and any data returns, and it is one transition of the phases. -/
theorem wiimoteHandshake_refines (hRep : Represents wm phase) (event : UInt8)
    (bytes : Bytes) : Refines phase (signal event bytes) wm event (some bytes) := by
  by_cases hState : phase.handshakeState = 1
  · rcases signal_cases event bytes with ⟨rfl, hBit, h⟩ | ⟨rfl, hBit, h⟩ | ⟨rfl, -, h⟩ |
      ⟨rfl, -, h⟩ | ⟨hStatus, -, h⟩
    · rw [h]
      exact refines_attached hRep hState hBit
    · rw [h]
      exact refines_detached hRep hState hBit
    all_goals
      rw [h]
      refine refines_stay hRep ?_ ?_
      · cases phase <;> first | rfl | cases hState
      · rw [handshakeTurn_status (hRep.handshakeState.trans hState), handshakeTurnStatus,
          if_pos (by first | decide | assumption)]
        rfl
  · by_cases hRead : event = 0x21
    · subst hRead
      cases phase with
      | awaitId => exact refines_identify hRep
      | awaitCalibration => exact refines_calibrate hRep
      | _ => cases hState rfl
    · exact refines_ignored hRep hState hRead

end Wiimote
end MFiWrapper
