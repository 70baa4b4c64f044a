import Mathlib.Data.List.Perm.Basic

/-!
# `frontend.mm`: discovery and its completion handler

`StartWirelessControllerDiscovery` keeps a copy of a handler,
`StopWirelessControllerDiscovery` calls it.  A handler may do anything with discovery
itself, so what is still to be done is a stack of tasks, and every task goes into a log
when it is done.  `Startup` does nothing to the handler and is left out.
-/

namespace MFiWrapper
namespace Frontend

/-- A call: `StartWirelessControllerDiscovery`, with a handler that is a program of
such calls or `nil`, or `StopWirelessControllerDiscovery`. -/
inductive DiscoveryCall
  | start (aHandler : Option (List DiscoveryCall))
  | stop

/-- A copy of a handler, by a number of its own. -/
structure HandlerCopy where
  id : Nat
  body : List DiscoveryCall

/-- What is still to be done. -/
inductive Task
  /-- A call, made by the copy with the number or by the application. -/
  | call (caller : Option Nat) (call : DiscoveryCall)
  /-- `gch()`. -/
  | invoke (gch : HandlerCopy)
  /-- `[copy release]`. -/
  | release (copy : Nat)

/-- What has happened. -/
inductive DiscoveryEvent
  | called (caller : Option Nat) (call : DiscoveryCall)
  | invoked (copy : Nat)
  | released (copy : Nat)

/-- A task in the log. -/
def Task.event : Task → DiscoveryEvent
  | .call caller made => .called caller made
  | .invoke gch => .invoked gch.id
  | .release copy => .released copy

/-- `discoveryCompletionHandler`, the tasks left, the number of copies made so far and
what has happened, most recent first. -/
structure Discovery where
  discoveryCompletionHandler : Option HandlerCopy
  tasks : List Task
  copies : Nat
  log : List DiscoveryEvent

namespace Discovery

/-- The application makes some calls. -/
def initial (calls : List DiscoveryCall) : Discovery := ⟨none, calls.map (.call none), 0, []⟩

/-- `StartWirelessControllerDiscovery`; a message to `nil` does nothing.  The release is
the next thing that is done. -/
def start (aHandler : Option (List DiscoveryCall)) (discovery : Discovery) : Discovery :=
  let discovery :=
    match discovery.discoveryCompletionHandler with
    | none => discovery
    | some replaced => { discovery with tasks := .release replaced.id :: discovery.tasks }
  match aHandler with
  | none => { discovery with discoveryCompletionHandler := none }
  | some body =>
      { discovery with
        discoveryCompletionHandler := some ⟨discovery.copies, body⟩
        copies := discovery.copies + 1 }

/-- `StopWirelessControllerDiscovery`. -/
def stop (discovery : Discovery) : Discovery :=
  match discovery.discoveryCompletionHandler with
  | none => discovery
  | some gch =>
      { discovery with
        discoveryCompletionHandler := none
        tasks := .invoke gch :: .release gch.id :: discovery.tasks }

/-- What a task does. -/
def perform (discovery : Discovery) : Task → Discovery
  | .call _ (.start aHandler) => discovery.start aHandler
  | .call _ .stop => discovery.stop
  -- the calls of the handler come next
  | .invoke gch => { discovery with
      tasks := gch.body.map (.call (some gch.id)) ++ discovery.tasks }
  | .release _ => discovery

/-- The next task goes into the log and is done. -/
def step (discovery : Discovery) : Option Discovery :=
  match discovery.tasks with
  | [] => none
  | task :: tasks =>
      some ({ discovery with tasks := tasks, log := task.event :: discovery.log }.perform task)

/-- The number of the pending copy. -/
def pending (discovery : Discovery) : Option Nat :=
  discovery.discoveryCompletionHandler.map HandlerCopy.id

end Discovery

/-! ## What the calls may do -/

namespace DiscoveryEvent

def invokes : DiscoveryEvent → Option Nat
  | .invoked copy => some copy
  | .called _ _ | .released _ => none

def releases : DiscoveryEvent → Option Nat
  | .released copy => some copy
  | .called _ _ | .invoked _ => none

/-- The handler of which a call is to make a copy. -/
def handler : DiscoveryEvent → Option (List DiscoveryCall)
  | .called _ (.start aHandler) => aHandler
  | .called _ .stop | .invoked _ | .released _ => none

/-- The call, if it is made by this caller. -/
def callBy (caller : Option Nat) : DiscoveryEvent → Option DiscoveryCall
  | .called other call => if other = caller then some call else none
  | .invoked _ | .released _ => none

/-- The event needs the copy. -/
def Uses (event : DiscoveryEvent) (copy : Nat) : Prop :=
  event = .invoked copy ∨ event = .released copy ∨ ∃ call, event = .called (some copy) call

end DiscoveryEvent

/-- The copies invoked. -/
def invocations (log : List DiscoveryEvent) : List Nat := log.filterMap DiscoveryEvent.invokes

/-- The copies released. -/
def releases (log : List DiscoveryEvent) : List Nat := log.filterMap DiscoveryEvent.releases

/-- The handlers of which copies were to be made, in order: a copy's number is its place. -/
def handlers (log : List DiscoveryEvent) : List (List DiscoveryCall) :=
  (log.filterMap DiscoveryEvent.handler).reverse

/-- The calls made by a caller, in order. -/
def callsBy (caller : Option Nat) (log : List DiscoveryEvent) : List DiscoveryCall :=
  (log.filterMap (DiscoveryEvent.callBy caller)).reverse

/-- The copy that is pending: that of the last call if it was a `Start`. -/
def pendingAfter : List DiscoveryEvent → Option Nat
  | [] => none
  | .called _ (.start aHandler) :: log => aHandler.map fun _ => (handlers log).length
  | .called _ .stop :: _ => none
  | .invoked _ :: log | .released _ :: log => pendingAfter log

/-- The copies that were pending when a `Start` was called. -/
def replaced : List DiscoveryEvent → List Nat
  | [] => []
  | .called _ (.start _) :: log => (pendingAfter log).toList ++ replaced log
  | .called _ .stop :: log | .invoked _ :: log | .released _ :: log => replaced log

/-- What has happened, when the application has made the calls, is in order. -/
structure Orderly (calls : List DiscoveryCall) (log : List DiscoveryEvent) : Prop where
  application : callsBy none log = calls
  /-- A copy that was invoked has made the calls of its handler, any other none. -/
  ran : ∀ copy, callsBy (some copy) log =
    if copy ∈ invocations log then (handlers log).getD copy [] else []
  invokedOnce : (invocations log).Nodup
  replacedNeverInvoked : ∀ copy ∈ replaced log, copy ∉ invocations log
  /-- What comes directly after the call of a `Stop` is the invocation of the copy that is
  pending, if there is one. -/
  stopInvokesPending : ∀ caller before copy, .called caller .stop :: before <:+ log →
    (.invoked copy :: .called caller .stop :: before <:+ log ↔ pendingAfter before = some copy)
  invokedByStop : ∀ copy before, .invoked copy :: before <:+ log →
    ∃ caller rest, before = .called caller .stop :: rest
  unusedAfterRelease : log.Pairwise fun later earlier =>
    ∀ copy, earlier = .released copy → ¬ later.Uses copy

/-- The copies released and the one pending are all that were made, each once. -/
structure Discovery.Accounted (discovery : Discovery) : Prop where
  pending : discovery.pending = pendingAfter discovery.log
  released : (releases discovery.log ++ discovery.pending.toList).Perm
    (List.range (handlers discovery.log).length)

end Frontend
end MFiWrapper
