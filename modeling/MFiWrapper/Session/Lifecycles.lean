import MFiWrapper.Frontend.Lifecycles
import MFiWrapper.Session.ProcessedPackets

/-!
# The controllers of a run, in order

The packets of the backend, as they come out of the socket, lead an application through
the life of each controller, and the controllers appear in the order in which their pads
were attached.
-/

namespace MFiWrapper
namespace Process

open Library HIDPad Frontend

variable {format : FloatFormat} {process process' : Process}

/-- Every event keeps what was told in order. -/
theorem step_orderly (hOrderly : process.frontend.Orderly) {event : Event}
    (hStep : process.step format event = some process') : process'.frontend.Orderly := by
  by_cases hEvent : ∃ count, event = .frontendReads count
  · obtain ⟨count, rfl⟩ := hEvent
    simp only [step] at hStep
    split at hStep
    · cases hStep
    · split at hStep
      · exact Option.some.inj hStep ▸ hOrderly
      · obtain ⟨frontend, hHandle, hReturn⟩ := Option.bind_eq_some_iff.mp hStep
        exact Option.some.inj hReturn ▸ hOrderly.handleDataPacket hHandle
  · rw [not_exists] at hEvent
    rw [step_app hEvent hStep]
    cases event with
    | appSetsPlayerIndex tweak index => exact hOrderly.setPlayerIndex tweak index
    | appSetsHandler tweak element part isSet =>
        exact hOrderly.setHandler tweak element part isSet
    | appSetsPausedHandler tweak isSet => exact hOrderly.setPausedHandler tweak isSet
    | deviceAttached _ _ | deviceRemoved _ | deviceReport _ _ | backendReads _
    | frontendReads _ => exact hOrderly

theorem run_orderly {events : List Event} (hOrderly : process.frontend.Orderly)
    (hRun : run (Process.step format) process events = some process') :
    process'.frontend.Orderly := by
  induction events generalizing process with
  | nil => exact Option.some.inj hRun ▸ hOrderly
  | cons event events ih =>
      rw [run_cons] at hRun
      obtain ⟨next, hStep, hRest⟩ := Option.bind_eq_some_iff.mp hRun
      exact ih (step_orderly hOrderly hStep) hRest

/-- In every run the application hears of each controller first that it is connected,
then of its values and pauses while it is in the array, and last, once it is not, that it
is disconnected; each of the two ends exactly once. -/
theorem app_hears_in_order (format : FloatFormat) (events : List Event)
    (hFew : (events.map Event.attaches).sum < 2 ^ 32 - 2) :
    ∃ process, run (Process.step format) initial events = some process ∧
      ∀ ref, run Lifecycle.hear .unborn (process.frontend.heardOf ref) =
        some (process.frontend.lifecycle ref) := by
  obtain ⟨process, -, hRun, -, -⟩ := refines_run format events hFew
  exact ⟨process, hRun, (run_orderly State.orderly_initial hRun).heard⟩

theorem app_hears_in_order_firstRun :
    ∃ process, run (Process.step .binary32) initial firstRun = some process ∧
      ∀ ref, run Lifecycle.hear .unborn (process.frontend.heardOf ref) =
        some (process.frontend.lifecycle ref) :=
  app_hears_in_order .binary32 firstRun (by decide)

/-! ## Handles -/

/-- The controllers have the numbers under which their pads were attached. -/
theorem Refines.numbered {system : System} (hRefines : Refines format process system)
    {ref : ControllerRef} {tweak : GCController}
    (hTweak : process.frontend.created[ref]? = some tweak) :
    tweak.tweakHandle.toNat = ref + 1 := by
  have hCurrent := hRefines.current
  have hPrefix : system.frontend.created.map (fun tweak => tweak.tweakHandle.toNat) <+:
      List.range' 1 (system.backend.nextHandle.toNat - 1) := by
    have hOwners : system.frontend.created.map (fun tweak => tweak.tweakHandle.toNat) =
        (system.processed.filterMap Backend.connectHandle).map UInt32.toNat := by
      rw [← hCurrent.owners, List.map_map]
      rfl
    rw [hOwners, ← hCurrent.numbered]
    exact ((List.take_prefix _ _).filterMap _).map _
  have hAt : (system.frontend.created.map fun tweak => tweak.tweakHandle.toNat)[ref]? =
      some tweak.tweakHandle.toNat := by
    rw [hRefines.frontend, List.getElem?_map, State.created_quiet, hTweak]
    rfl
  obtain ⟨rest, hRest⟩ := hPrefix
  obtain ⟨hLt, -⟩ := List.getElem?_eq_some_iff.mp hAt
  have hNumber : (List.range' 1 (system.backend.nextHandle.toNat - 1))[ref]? =
      some tweak.tweakHandle.toNat := by
    rw [← hRest, List.getElem?_append_left hLt]
    exact hAt
  obtain ⟨hIn, hValue⟩ := List.getElem?_eq_some_iff.mp hNumber
  rw [← hValue, List.getElem_range']
  omega

end Process
end MFiWrapper
