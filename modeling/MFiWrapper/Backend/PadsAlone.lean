import MFiWrapper.Backend.ManagedPads

/-!
# The pads, each with the static buffers to itself

The drivers share their static buffers.  A pad that is connected alone and given only the
calls on its own interface comes to the same driver, sends the same packets and asks the
same of its device, but for the colour in the reports of a DualShock 4 whose player index
is outside of 0 to 3: these carry the colour that was stored last, whoever stored it.
-/

namespace MFiWrapper
namespace HIDPad

open Library

/-- What a DualShock 4 is asked that is to show a colour. -/
def colourRequest (colour : List UInt8) : DeviceRequest :=
  .setReport false 0x11 ((DualShock4.storeColour colour DualShock4.reportBuffer).drop 1)

/-- The requests are the same but for the colour in the first of them. -/
def SameButColour (requests requests' : List DeviceRequest) : Prop :=
  ∃ colour colour' rest, requests = colourRequest colour :: rest ∧
    requests' = colourRequest colour' :: rest

/-- What was asked of a device in the course of calls on its driver: what the driver asks
that has the static buffers to itself, but that the colour may be another in a report of
the stored colour. -/
inductive Asked : Statics → Driver → List PadCall → List DeviceRequest → Prop
  | nil (statics : Statics) (driver : Driver) : Asked statics driver [] []
  | same {statics statics' : Statics} {driver driver' : Driver} {c : PadCall}
      {later : List PadCall} {calls : List DriverCall} {requests : List DeviceRequest}
      (hCall : driver.call statics c = some (statics', driver', calls))
      (hLater : Asked statics' driver' later requests) :
      Asked statics driver (c :: later) (calls.filterMap DriverCall.request ++ requests)
  | recoloured {statics statics' : Statics} {driver driver' : Driver} {c : PadCall}
      {later : List PadCall} {calls : List DriverCall} {asked requests : List DeviceRequest}
      (hSends : driver.SendsStoredColour c)
      (hCall : driver.call statics c = some (statics', driver', calls))
      (hSame : SameButColour (calls.filterMap DriverCall.request) asked)
      (hLater : Asked statics' driver' later requests) :
      Asked statics driver (c :: later) (asked ++ requests)

/-- A driver that is called alone, beside one that finds the buffers as they are. -/
theorem asked_of_call {found found' statics : Statics} {driver driver' : Driver} {c : PadCall}
    {calls : List DriverCall} (hSound : driver.Sound) (hFound : found.Inv) (hInv : statics.Inv)
    (hCall : driver.call found c = some (found', driver', calls)) :
    ∃ statics' calls', driver.call statics c = some (statics', driver', calls') ∧
      statics'.Inv ∧ driver'.Sound ∧
      (∀ handle, calls'.filterMap (DriverCall.packet handle) =
        calls.filterMap (DriverCall.packet handle)) ∧
      ∀ later requests, Asked statics' driver' later requests →
        Asked statics driver (c :: later) (calls.filterMap DriverCall.request ++ requests) := by
  by_cases hSends : driver.SendsStoredColour c
  · obtain ⟨next, answer, hSound', hNext⟩ := sendsStoredColour_call hSends
    obtain ⟨-, rfl, rfl⟩ : found = found' ∧ next = driver' ∧
        .setReport false 0x11 found.dualShock4 :: answer = calls := by
      simpa using (hNext found hFound).symm.trans hCall
    refine ⟨statics, _, hNext statics hInv, hInv, hSound', fun handle => rfl,
      fun later requests hLater => .recoloured hSends (hNext statics hInv) ?_ hLater⟩
    obtain ⟨colour, hColour⟩ := hInv.dualShock4
    obtain ⟨colour', hColour'⟩ := hFound.dualShock4
    refine ⟨colour, colour', answer.filterMap DriverCall.request, ?_, ?_⟩
    · rw [hColour]
      rfl
    · rw [hColour']
      rfl
  · obtain ⟨next, made, hSound', hNext⟩ := independent_of_not_sendsStoredColour hSound hSends
    obtain ⟨statics', hAlone, hInv'⟩ := hNext statics hInv
    obtain ⟨other, hOther, -⟩ := hNext found hFound
    obtain ⟨-, rfl, rfl⟩ : other = found' ∧ next = driver' ∧ made = calls := by
      simpa using hOther.symm.trans hCall
    exact ⟨statics', made, hAlone, hInv', hSound', fun handle => rfl,
      fun later requests hLater => .same hAlone hLater⟩

/-- A pad that is called alone, beside one that finds the buffers as they are: they have
the same driver, make the same packets, and ask the same but for stored colours. -/
theorem asked_of_receive {entries : List (Statics × PadCall)}
    (hFound : ∀ entry ∈ entries, entry.1.Inv) {served final pad : Pad} {statics : Statics}
    (hInv : statics.Inv) (hSound : pad.driver.Sound) (hDriver : served.driver = pad.driver)
    (hRun : run Pad.receive served entries = some final) :
    ∃ statics' calls calls',
      alone Pad.turn statics pad (entries.map Prod.snd) =
        some (statics', ⟨final.driver, pad.calls ++ calls'⟩) ∧
      final.calls = served.calls ++ calls ∧
      (∀ handle, calls'.filterMap (DriverCall.packet handle) =
        calls.filterMap (DriverCall.packet handle)) ∧
      Asked statics pad.driver (entries.map Prod.snd) (calls.filterMap DriverCall.request) := by
  induction entries generalizing served pad statics with
  | nil =>
      obtain rfl : served = final := Option.some.inj hRun
      exact ⟨statics, [], [], by rw [hDriver, List.append_nil]; rfl, (List.append_nil _).symm,
        fun handle => rfl, .nil statics pad.driver⟩
  | cons entry entries ih =>
      obtain ⟨hEntry, hFound⟩ := List.forall_mem_cons.mp hFound
      rw [run_cons] at hRun
      obtain ⟨after, hTurn, hRun⟩ := Option.bind_eq_some_iff.mp hRun
      rw [Pad.receive, Pad.turn, Option.map_map] at hTurn
      obtain ⟨⟨found', driver, made⟩, hCall, rfl⟩ := Option.map_eq_some_iff.mp hTurn
      rw [hDriver] at hCall
      obtain ⟨statics', made', hAlone, hInv', hSound', hPackets, hAsked⟩ :=
        asked_of_call hSound hEntry hInv hCall
      have hTurn' : pad.turn statics entry.2 = some (statics', ⟨driver, pad.calls ++ made'⟩) := by
        rw [Pad.turn, hAlone]
        rfl
      let next : Pad := ⟨driver, pad.calls ++ made'⟩
      have hSame : (⟨driver, served.calls ++ made⟩ : Pad).driver = next.driver := rfl
      obtain ⟨last, calls, calls', hLater, hCalls, hLaterPackets, hLaterAsked⟩ :=
        ih hFound hInv' hSound' hSame hRun
      refine ⟨last, made ++ calls, made' ++ calls', ?_, ?_, fun handle => ?_, ?_⟩
      · rw [List.map_cons, alone_cons hTurn', hLater, List.append_assoc]
      · rw [hCalls, List.append_assoc]
      · rw [List.filterMap_append, List.filterMap_append, hPackets, hLaterPackets]
      · rw [List.filterMap_append, List.map_cons]
        exact hAsked _ _ hLaterAsked

end HIDPad

namespace HIDManager

open Library HIDPad

/-- An interface and the pad that it is when the pad is connected alone and given only the
calls on this interface. -/
structure Alone (manager : HIDManager) (interface : Interface) (platform : Platform) (kind : Kind)
    (pad : Pad) : Prop where
  calls : ∃ statics, alone Pad.turn .initial (kind.connected platform)
    (manager.callsAt interface.address) = some (statics, pad)
  driver : pad.driver = interface.driver
  packets : manager.backend.sent.filter (ofPad interface.handle) =
    pad.calls.filterMap (DriverCall.packet interface.handle)
  /-- Its device was asked by the constructor, and then by the calls. -/
  requests : ∃ later, own interface.address manager.requests =
      (kind.connected platform).calls.filterMap DriverCall.request ++ later ∧
    Asked .initial (kind.connected platform).driver (manager.callsAt interface.address) later

/-- A pad among others is what it would be alone. -/
theorem Serves.alone {manager : HIDManager} {interface : Interface} {platform : Platform}
    {kind : Kind} {pad : Pad} (hServes : manager.Serves)
    (hServed : manager.Served interface platform kind pad) :
    ∃ pad', manager.Alone interface platform kind pad' := by
  obtain ⟨statics, calls, calls', hAlone, hCalls, hPackets, hAsked⟩ :=
    asked_of_receive (hServes.own_found interface.address) Statics.inv_initial
      (kind.connected_sound platform) rfl hServed.calls
  refine ⟨_, ⟨statics, hAlone⟩, hServed.driver, ?_, calls.filterMap DriverCall.request, ?_, hAsked⟩
  · rw [hServed.packets, hCalls, List.filterMap_append, List.filterMap_append, hPackets]
  · rw [hServed.requests, hCalls, List.filterMap_append]

end HIDManager
end MFiWrapper
