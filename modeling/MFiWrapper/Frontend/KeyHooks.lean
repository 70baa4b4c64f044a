import Mathlib.Data.List.ReduceOption
import MFiWrapper.Frontend.HeldKeys

/-!
# `GCController_Hook_iOS.xm`: the hooks of the iCade build

The application's calls are taken over, and so are the key commands that the system looks
up.  It looks a key event up twice with the same time stamp, so an event with the time
stamp of the one before it is not passed on to the keyboard.
-/

namespace MFiWrapper
namespace Frontend

open Library

/-- A key event: its time stamp, which is a finite number, and, unless its `_hidEvent` is
null, what `_isKeyDown` and `_keyCode` return. -/
structure UIEvent where
  timestamp : ℚ
  hidEvent : Option (Bool × Int64)

/-- The call of `Keyboard::Event` for a key event; the code is cut to 32 bits. -/
def UIEvent.call (event : UIEvent) : Option ICadeCall :=
  event.hidEvent.map fun (isKeyDown, keyCode) => .event isKeyDown keyCode.toUInt64.toUInt32

/-- What the application does. -/
inductive AppCall
  /-- `addObserverForName:object:queue:usingBlock:`. -/
  | addObserverForName (name : Option String)
  /-- `addObserver:selector:name:object:`. -/
  | addObserver (notificationName : Option String)
  | startWirelessControllerDiscovery
  | stopWirelessControllerDiscovery
  | controllers
  | setPausedHandler (tweak : ControllerRef) (isSet : Bool)
  | setPlayerIndex (tweak : ControllerRef) (index : Int64)

inductive HookCall
  /-- `_keyCommandForEvent:`. -/
  | keyCommandForEvent (event : UIEvent)
  | app (call : AppCall)

def gcControllerDidConnectNotification : String := "GCControllerDidConnectNotification"

/-- What a call of the application becomes; observers of other notifications concern the
notification centre only. -/
def AppCall.call : AppCall → Option ICadeCall
  | .addObserverForName name | .addObserver name =>
      if name = some gcControllerDidConnectNotification then some .startup else none
  | .startWirelessControllerDiscovery | .stopWirelessControllerDiscovery | .controllers =>
      some .startup
  | .setPausedHandler tweak isSet => some (.setPausedHandler tweak isSet)
  | .setPlayerIndex tweak index => some (.setPlayerIndex tweak index)

/-- The iCade build, and `last_time_stamp`. -/
structure Hooked where
  iCade : ICade
  lastTimeStamp : ℚ

namespace Hooked

def initial : Hooked := ⟨.initial, 0⟩

/-- A call is passed on, if there is one. -/
def pass (hooked : Hooked) : Option ICadeCall → Option Hooked
  | none => some hooked
  | some call => do
      let iCade ← hooked.iCade.step call
      return { hooked with iCade := iCade }

/-- `_keyCommandForEvent:`. -/
def keyCommandForEvent (event : UIEvent) (hooked : Hooked) : Option Hooked :=
  if hooked.lastTimeStamp ≠ event.timestamp then
    { hooked with lastTimeStamp := event.timestamp }.pass event.call
  else some hooked

def step (hooked : Hooked) : HookCall → Option Hooked
  | .keyCommandForEvent event => hooked.keyCommandForEvent event
  | .app call => hooked.pass call.call

end Hooked

/-! ## What is passed on -/

/-- The calls that are passed on, when an event had the time stamp. -/
def passed : ℚ → List HookCall → List ICadeCall
  | _, [] => []
  | last, .keyCommandForEvent event :: calls =>
      if last ≠ event.timestamp then event.call.toList ++ passed event.timestamp calls
      else passed last calls
  | last, .app call :: calls => call.call.toList ++ passed last calls

/-- The time stamp of the last event. -/
def lastStamp : ℚ → List HookCall → ℚ
  | last, [] => last
  | _, .keyCommandForEvent event :: calls => lastStamp event.timestamp calls
  | last, .app _ :: calls => lastStamp last calls

section Passed

variable {last : ℚ}

theorem passed_append (first second : List HookCall) :
    passed last (first ++ second) = passed last first ++ passed (lastStamp last first) second := by
  induction first generalizing last with
  | nil => rfl
  | cons call first ih =>
      cases call with
      | keyCommandForEvent event =>
          simp only [List.cons_append, passed, lastStamp]
          split_ifs with hNew
          · rw [ih, List.append_assoc]
          · rw [ih, not_not.mp hNew]
      | app call => simp only [List.cons_append, passed, lastStamp, ih, List.append_assoc]

namespace Hooked

variable {hooked : Hooked}

theorem pass_run (hooked : Hooked) (call : Option ICadeCall) :
    hooked.pass call =
      (run ICade.step hooked.iCade call.toList).map (⟨·, hooked.lastTimeStamp⟩) := by
  cases call with
  | none => rfl
  | some call =>
      rw [Option.toList_some, run_singleton, pass]
      cases hooked.iCade.step call <;> rfl

/-- The hooks do to the iCade build what the calls that are passed on do. -/
theorem run_passed (hooked : Hooked) (calls : List HookCall) :
    run step hooked calls =
      (run ICade.step hooked.iCade (passed hooked.lastTimeStamp calls)).map
        (⟨·, lastStamp hooked.lastTimeStamp calls⟩) := by
  induction calls generalizing hooked with
  | nil => rfl
  | cons call calls ih =>
      rw [run_cons]
      cases call with
      | keyCommandForEvent event =>
          simp only [step, keyCommandForEvent, passed, lastStamp]
          split_ifs with hNew
          · rw [pass_run, run_append]
            cases run ICade.step hooked.iCade event.call.toList with
            | none => rfl
            | some iCade => exact ih ⟨iCade, event.timestamp⟩
          · rw [← not_not.mp hNew]
            exact ih hooked
      | app call =>
          simp only [step, passed, lastStamp]
          rw [pass_run, run_append]
          cases run ICade.step hooked.iCade call.call.toList with
          | none => rfl
          | some iCade => exact ih ⟨iCade, hooked.lastTimeStamp⟩

end Hooked

/-! ## Reports of one event -/

/-- What happens after the first report of an event: one more report, or a call of the
application. -/
def UIEvent.further (event : UIEvent) : Option AppCall → HookCall
  | none => .keyCommandForEvent event
  | some call => .app call

/-- A key event that is reported, and what happens until the next one. -/
structure Press where
  event : UIEvent
  rest : List (Option AppCall)

namespace Press

def reports (press : Press) : List HookCall :=
  .keyCommandForEvent press.event :: press.rest.map press.event.further

/-- The same with one report. -/
def calls (press : Press) : List ICadeCall :=
  press.event.call.toList ++ press.rest.reduceOption.filterMap AppCall.call

end Press

/-- Further reports of an event are not passed on. -/
theorem passed_again (event : UIEvent) (rest : List (Option AppCall)) :
    passed event.timestamp (rest.map event.further) =
        rest.reduceOption.filterMap AppCall.call ∧
      lastStamp event.timestamp (rest.map event.further) = event.timestamp := by
  induction rest with
  | nil => exact ⟨rfl, rfl⟩
  | cons call rest ih =>
      obtain ⟨hPassed, hLast⟩ := ih
      cases call with
      | none =>
          refine ⟨?_, hLast⟩
          rw [List.map_cons, List.reduceOption_cons_of_none, UIEvent.further, passed,
            if_neg (not_not.mpr rfl), hPassed]
      | some call =>
          refine ⟨?_, hLast⟩
          rw [List.map_cons, List.reduceOption_cons_of_some, List.filterMap_cons,
            UIEvent.further, passed, hPassed]
          cases call.call <;> rfl

theorem passed_reports {press : Press} (hNew : last ≠ press.event.timestamp) :
    passed last press.reports = press.calls ∧
      lastStamp last press.reports = press.event.timestamp := by
  obtain ⟨hPassed, hLast⟩ := passed_again press.event press.rest
  refine ⟨?_, hLast⟩
  rw [Press.reports, passed, if_pos hNew, hPassed]
  rfl

theorem passed_presses {presses : List Press}
    (hStamps : (last :: presses.map fun press => press.event.timestamp).IsChain (· ≠ ·)) :
    passed last (presses.flatMap Press.reports) = presses.flatMap Press.calls := by
  induction presses generalizing last with
  | nil => rfl
  | cons press presses ih =>
      rw [List.map_cons, List.isChain_cons_cons] at hStamps
      obtain ⟨hPassed, hLast⟩ := passed_reports hStamps.1
      rw [List.flatMap_cons, List.flatMap_cons, passed_append, hPassed, hLast, ih hStamps.2]

theorem passed_app (last : ℚ) (calls : List AppCall) :
    passed last (calls.map .app) = calls.filterMap AppCall.call ∧
      lastStamp last (calls.map .app) = last := by
  induction calls with
  | nil => exact ⟨rfl, rfl⟩
  | cons call calls ih =>
      refine ⟨?_, ih.2⟩
      rw [List.map_cons, passed, ih.1, List.filterMap_cons]
      cases call.call <;> rfl

end Passed

/-! ## Keys -/

/-- The application presses no keys. -/
theorem key_of_app {calls : List AppCall} :
    (calls.filterMap AppCall.call).filterMap ICadeCall.key = [] := by
  rw [List.filterMap_filterMap, List.filterMap_eq_nil_iff]
  intro call _
  cases call with
  | addObserverForName name | addObserver name =>
      simp only [AppCall.call]
      split_ifs <;> rfl
  | _ => rfl

/-- The key that a press is about. -/
def Press.key (press : Press) : Option ICadeKey := press.event.call.bind ICadeCall.key

theorem keys_of_presses (presses : List Press) :
    (presses.flatMap Press.calls).filterMap ICadeCall.key = presses.filterMap Press.key := by
  induction presses with
  | nil => rfl
  | cons press presses ih =>
      rw [List.flatMap_cons, List.filterMap_append, ih, Press.calls, List.filterMap_append,
        key_of_app, List.append_nil, List.filterMap_cons, Press.key]
      cases press.event.call with
      | none => rfl
      | some call =>
          simp only [Option.toList_some, List.filterMap_cons, Option.bind_some]
          cases call.key <;> rfl

/-- However often every key event is reported, and whatever the application does in between:
if successive key events have different time stamps and the first is not 0, the iCade build
is as if each had been passed to the keyboard once, and its state packet is what the keys,
each taken once, make of it. -/
theorem reports_count_once (first : List AppCall) (presses : List Press)
    (hStamps : (0 :: presses.map fun press => press.event.timestamp).IsChain (· ≠ ·)) :
    ∃ hooked, run Hooked.step .initial (first.map .app ++ presses.flatMap Press.reports) =
        some hooked ∧
      run ICade.step .initial
        (first.filterMap AppCall.call ++ presses.flatMap Press.calls) = some hooked.iCade ∧
      hooked.iCade.state = shown (presses.filterMap Press.key).reverse := by
  obtain ⟨iCade, hRun, -, hState⟩ :=
    run_shown (first.filterMap AppCall.call ++ presses.flatMap Press.calls)
  have hPassed : passed 0 (first.map .app ++ presses.flatMap Press.reports) =
      first.filterMap AppCall.call ++ presses.flatMap Press.calls := by
    obtain ⟨hFirst, hLast⟩ := passed_app 0 first
    rw [passed_append, hFirst, hLast, passed_presses hStamps]
  refine ⟨⟨iCade, lastStamp 0 (first.map .app ++ presses.flatMap Press.reports)⟩, ?_, hRun, ?_⟩
  · rw [Hooked.run_passed, Hooked.initial, hPassed, hRun]
    rfl
  · show iCade.state = _
    rw [hState, keysOf, List.filterMap_append, key_of_app, List.nil_append, keys_of_presses]

/-- The application adds an observer, and A and RIGHT are reported twice. -/
def twoPresses : List Press :=
  [⟨⟨1, some (true, 0x0E)⟩, [none]⟩, ⟨⟨2, some (true, 0x07)⟩, [some .controllers, none]⟩]

theorem reports_count_once_twoPresses :
    ∃ hooked, run Hooked.step .initial
        ([AppCall.addObserver (some gcControllerDidConnectNotification)].map .app ++
          twoPresses.flatMap Press.reports) = some hooked ∧
      run ICade.step .initial
        ([AppCall.addObserver (some gcControllerDidConnectNotification)].filterMap AppCall.call ++
          twoPresses.flatMap Press.calls) = some hooked.iCade ∧
      hooked.iCade.state = shown (twoPresses.filterMap Press.key).reverse :=
  reports_count_once _ twoPresses (by decide)

end Frontend
end MFiWrapper
