import MFiWrapper.Frontend.PostponedActions
import MFiWrapper.Session.WholeRuns

/-!
# The program with handlers that call back

In the plain program whatever the application does is an event of its own.  A program
whose handlers act in the middle of an update does what the plain program does when the
actions come right after the packet; only the handlers that the update itself calls may
be others.
-/

namespace MFiWrapper

open Library Frontend

/-- The event of the plain program. -/
def Frontend.Action.event : Action → Process.Event
  | .setPlayerIndex tweak index => .appSetsPlayerIndex tweak index
  | .setHandler tweak element part isSet => .appSetsHandler tweak element part isSet
  | .setPausedHandler tweak isSet => .appSetsPausedHandler tweak isSet

namespace Process

/-- One event, when the application acts in its handlers and observers. -/
def stepWith (application : Application) (format : FloatFormat) (process : Process) :
    Event → Option Process
  | .frontendReads count =>
      match process.frontendConnection.receive process.toFrontend count with
      | .error _ => none
      | .ok (handed, connection, result) =>
          let process := { process with
            frontendConnection := connection
            toFrontend := process.toFrontend.drop result }
          match handed with
          | none => some process
          | some aPacket => do
              let frontend ←
                process.frontend.handleDataPacketWith application format.ofBits aPacket
              return process.withFrontend format frontend
  | event => process.step format event

/-- The events, with the actions that handlers took in a read right after it. -/
inductive Answered : List Event → List Event → Prop
  | nil : Answered [] []
  | cons {events events' : List Event} (event : Event) (actions : List Action)
      (hActions : actions = [] ∨ ∃ count, event = .frontendReads count)
      (hRest : Answered events events') :
      Answered (event :: events) (event :: actions.map Action.event ++ events')

/-- The program, without the calls of the value handlers on record. -/
def unheard (process : Process) : Process :=
  { process with frontend := process.frontend.unheard }

variable {format : FloatFormat} {application : Application} {process process' : Process}

/-! ## Actions -/

theorem written_trans {before middle after : List (MFiWPacket ℚ)} (hFirst : before <+: middle)
    (hSecond : middle <+: after) :
    written format before middle ++ written format middle after = written format before after := by
  obtain ⟨first, rfl⟩ := hFirst
  obtain ⟨second, rfl⟩ := hSecond
  rw [written_append, written_append, List.append_assoc, written_append, encoded, encoded,
    encoded, List.map_append, List.flatMap_append]

theorem withFrontend_withFrontend {frontend frontend' : State}
    (hFirst : process.frontend.sent <+: frontend.sent)
    (hSecond : frontend.sent <+: frontend'.sent) :
    (process.withFrontend format frontend).withFrontend format frontend' =
      process.withFrontend format frontend' := by
  simp only [withFrontend, List.append_assoc, written_trans hFirst hSecond]

/-- An action is an event of the plain program. -/
theorem step_action (process : Process) (action : Action) :
    process.step format action.event =
      some (process.withFrontend format (process.frontend.act action)) := by
  cases action with
  | setPlayerIndex tweak index => rfl
  | setHandler tweak element part isSet =>
      have hSent : (process.frontend.setHandler tweak element part isSet).sent =
          process.frontend.sent := rfl
      simp only [Frontend.Action.event, step, State.act, withFrontend, hSent, written,
        List.drop_length, List.flatMap_nil, List.append_nil]
  | setPausedHandler tweak isSet =>
      have hSent : (process.frontend.setPausedHandler tweak isSet).sent =
          process.frontend.sent := by rw [State.setPausedHandler_eq]
      simp only [Frontend.Action.event, step, State.act, withFrontend, hSent, written,
        List.drop_length, List.flatMap_nil, List.append_nil]

theorem run_actions {process : Process} {frontend : State}
    (hSent : process.frontend.sent <+: frontend.sent) (actions : List Action) :
    run (Process.step format) (process.withFrontend format frontend)
        (actions.map Action.event) =
      some (process.withFrontend format (actions.foldl State.act frontend)) := by
  induction actions generalizing frontend with
  | nil => rfl
  | cons action actions ih =>
      have hAct : frontend.sent <+: (frontend.act action).sent := State.act_sent frontend action
      rw [List.map_cons, run_cons, step_action, Option.bind_some]
      have hSecond : (process.withFrontend format frontend).withFrontend format
          (frontend.act action) = process.withFrontend format (frontend.act action) :=
        withFrontend_withFrontend hSent hAct
      exact (congrArg (run _ · _) hSecond).trans (ih (hSent.trans hAct))

/-! ## One event -/

/-- Handlers act in reads only. -/
theorem stepWith_other {event : Event} (hEvent : ∀ count, event ≠ .frontendReads count) :
    process.stepWith application format event = process.step format event := by
  cases event with
  | frontendReads count => exact absurd rfl (hEvent count)
  | _ => rfl

/-- No other event looks at what is on record. -/
theorem step_unheard {event : Event} (hEvent : ∀ count, event ≠ .frontendReads count)
    (process : Process) :
    process.unheard.step format event = (process.step format event).map unheard := by
  cases event with
  | deviceAttached platform device =>
      simp only [step, unheard]
      cases process.manager.deviceAttached platform device <;> rfl
  | deviceRemoved address => rfl
  | deviceReport address report =>
      simp only [step, unheard]
      cases process.manager.deviceReport address report <;> rfl
  | backendReads count =>
      simp only [step, unheard]
      rcases process.backendConnection.receive process.toBackend count with
        _ | ⟨_ | aPacket, connection, result⟩
      · rfl
      · rfl
      · dsimp only
        cases process.manager.handleDataPacket aPacket <;> rfl
  | frontendReads count => exact absurd rfl (hEvent count)
  | appSetsPlayerIndex tweak index =>
      have hAct := State.act_unheard process.frontend (.setPlayerIndex tweak index)
      simp only [State.act] at hAct
      simp only [step, unheard, withFrontend, ← hAct]
      rfl
  | appSetsHandler tweak element part isSet => rfl
  | appSetsPausedHandler tweak isSet =>
      have hAct := State.act_unheard process.frontend (.setPausedHandler tweak isSet)
      simp only [State.act] at hAct
      simp only [step, unheard, ← hAct]
      rfl

theorem withFrontend_unheard {plain : Process} {frontend frontend' : State}
    (hSame : process.unheard = plain.unheard) (hFrontend : frontend.unheard = frontend'.unheard) :
    (process.withFrontend format frontend).unheard =
      (plain.withFrontend format frontend').unheard := by
  have hSent : process.frontend.sent = plain.frontend.sent :=
    (congrArg (·.frontend.sent) hSame : process.unheard.frontend.sent = plain.unheard.frontend.sent)
  have hSent' : frontend.sent = frontend'.sent :=
    (congrArg (·.sent) hFrontend : frontend.unheard.sent = frontend'.unheard.sent)
  have hBytes : process.toBackend = plain.toBackend :=
    (congrArg (·.toBackend) hSame : process.unheard.toBackend = plain.unheard.toBackend)
  have hRest := congrArg (fun unheard : Process => { unheard with
    frontend := frontend.unheard
    toBackend := process.toBackend ++ written format process.frontend.sent frontend.sent }) hSame
  refine hRest.trans ?_
  rw [hFrontend, hSent, hSent', hBytes]
  rfl

/-- An event of the program with handlers that call back is the event of the plain program
and what the handlers do after it. -/
theorem stepWith_follows {plain : Process} (hSame : process.unheard = plain.unheard)
    (event : Event) :
    ∃ actions : List Action, (actions = [] ∨ ∃ count, event = .frontendReads count) ∧
      (process.stepWith application format event).map unheard =
        (run (Process.step format) plain (event :: actions.map Action.event)).map unheard := by
  by_cases hEvent : ∃ count, event = .frontendReads count
  · obtain ⟨count, rfl⟩ := hEvent
    have hConnection : process.frontendConnection = plain.frontendConnection :=
      (congrArg (·.frontendConnection) hSame :
        process.unheard.frontendConnection = plain.unheard.frontendConnection)
    have hBytes : process.toFrontend = plain.toFrontend :=
      (congrArg (·.toFrontend) hSame : process.unheard.toFrontend = plain.unheard.toFrontend)
    have hFrontend : process.frontend.unheard = plain.frontend.unheard :=
      congrArg (·.frontend) hSame
    simp only [stepWith, run_cons, step, hConnection, hBytes]
    rcases plain.frontendConnection.receive plain.toFrontend count with
      _ | ⟨_ | aPacket, connection, result⟩
    · exact ⟨[], .inl rfl, rfl⟩
    · refine ⟨[], .inl rfl, ?_⟩
      exact congrArg (fun unheard : Process => some { unheard with
        frontendConnection := connection
        toFrontend := plain.toFrontend.drop result }) hSame
    · have hRead := congrArg (fun unheard : Process => { unheard with
        frontendConnection := connection
        toFrontend := plain.toFrontend.drop result }) hSame
      have hFollows : Option.Rel State.FollowsUp
          (process.frontend.handleDataPacketWith application format.ofBits aPacket)
          (process.frontend.handleDataPacket format.ofBits aPacket) :=
        State.handleDataPacketWith_follows format.ofBits aPacket process.frontend
      have hPlain := (State.handleDataPacket_unheard format.ofBits aPacket process.frontend).trans
        (hFrontend ▸ (State.handleDataPacket_unheard format.ofBits aPacket plain.frontend).symm)
      dsimp only
      generalize process.frontend.handleDataPacketWith application format.ofBits aPacket =
        handled at hFollows ⊢
      cases hHandled : plain.frontend.handleDataPacket format.ofBits aPacket with
      | none =>
          rw [hHandled, Option.map_none, Option.map_eq_none_iff] at hPlain
          rw [hPlain] at hFollows
          cases hFollows
          exact ⟨[], .inl rfl, rfl⟩
      | some frontend' =>
          rw [hHandled, Option.map_some] at hPlain
          obtain ⟨frontend, hFrontend', hUnheard⟩ := Option.map_eq_some_iff.mp hPlain
          rw [hFrontend'] at hFollows
          cases hFollows with
          | some hFollowed =>
              rename_i followed
              obtain ⟨actions, hActions⟩ := hFollowed.view_right State.act_congr hUnheard
              refine ⟨actions, .inr ⟨count, rfl⟩, ?_⟩
              simp only [Option.bind_eq_bind, Option.bind_some]
              have hSent : ({ plain with
                  frontendConnection := connection
                  toFrontend := plain.toFrontend.drop result } : Process).frontend.sent <+:
                  frontend'.sent := State.handleDataPacket_sent hHandled
              have hLater := @run_actions format _ _ hSent actions
              refine Eq.trans ?_ (congrArg (Option.map unheard) hLater).symm
              exact congrArg some (withFrontend_unheard hRead hActions)
  · refine ⟨[], .inl rfl, ?_⟩
    rw [not_exists] at hEvent
    rw [List.map_nil, run_singleton, stepWith_other hEvent, ← step_unheard hEvent,
      ← step_unheard hEvent, hSame]

/-! ## Runs -/

namespace Answered

variable {events events' : List Event}

/-- No actions are an answer. -/
theorem refl : ∀ events : List Event, Answered events events
  | [] => .nil
  | event :: events => .cons event [] (.inl rfl) (refl events)

/-- Actions attach no pads. -/
theorem attaches (hAnswered : Answered events events') :
    (events'.map Event.attaches).sum = (events.map Event.attaches).sum := by
  induction hAnswered with
  | nil => rfl
  | cons event actions hActions hRest ih =>
      have hNone : ((actions.map Action.event).map Event.attaches).sum = 0 := by
        refine List.sum_eq_zero fun n hMem => ?_
        rw [List.map_map] at hMem
        obtain ⟨action, -, rfl⟩ := List.mem_map.mp hMem
        cases action <;> rfl
      rw [List.map_append, List.map_cons, List.cons_append, List.sum_cons, List.sum_append, hNone,
        ih, Nat.zero_add, List.map_cons, List.sum_cons]

end Answered

end Process
end MFiWrapper
