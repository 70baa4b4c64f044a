import MFiWrapper.Common.PacketStream
import MFiWrapper.Library.Runs

/-!
# The reader on arbitrary streams

Whatever arrives on the socket is the size field of a packet at some point, and
`Read` and `Parse` use it as it is: it is neither held against the size of the
packet object nor against that of the header, and `Parse` looks at it before all
four bytes are there.  `Admissible` says after which bytes the reader stays inside
the packet object and hands over whole headers only.
-/

namespace MFiWrapper
namespace Connection

open Library

/-- A connection and the packets it has handed over, each with the number of its
bytes that had been received. -/
structure Reader where
  connection : Connection
  handled : List (MFiWDataPacket × Nat)

namespace Reader

def start : Reader := ⟨initial, []⟩

/-- One turn of `Parse`; `none` if its `read()` stores outside the packet object. -/
def step (reader : Reader) (bytes : List UInt8) : Option Reader :=
  match reader.connection.turn bytes with
  | .error _ => none
  | .ok (handed, connection) =>
      some ⟨connection, reader.handled ++
        handed.toList.map fun packet => (packet, reader.connection.position + bytes.length)⟩

/-- A successful `read()` returns at least one byte and at most what was requested. -/
def Returns (reader : Reader) (bytes : List UInt8) : Prop :=
  bytes ≠ [] ∧ bytes.length ≤ reader.connection.requested

/-- The next `read()` is asked for no more than the packet object has room for, and
no packet was handed over without its 12 header bytes. -/
structure Safe (reader : Reader) : Prop where
  room : reader.connection.position + reader.connection.requested ≤ sizeofDataPacket
  headers : ∀ handed ∈ reader.handled, 12 ≤ handed.2

end Reader

/-- The part of `Packet.Size` that is among the bytes received. -/
def announced (received : List UInt8) : Nat := readLE (received.take 4)

/-- What the bytes of a packet received so far have to be like.  While the size field
is incomplete, what is there of it exceeds the number of bytes; the complete field
is more than the four bytes received and no more than the object holds; and a
packet that ends here has a header. -/
def Admissible (received : List UInt8) : Prop :=
  if received.length < 4 then received.length < announced received
  else if received.length = 4 then
    4 < announced received ∧ announced received ≤ sizeofDataPacket
  else announced received = received.length → 12 ≤ received.length

namespace Reader

/-- The reader has received the bytes of an unfinished packet that will fit. -/
structure Inv (reader : Reader) (buffer : List UInt8) : Prop where
  connection : reader.connection = ofReceived buffer
  unfinished : Unfinished buffer
  room : buffer.length + packetFraming.want buffer ≤ sizeofDataPacket
  headers : ∀ handed ∈ reader.handled, 12 ≤ handed.2

variable {reader : Reader} {buffer bytes : List UInt8}

theorem inv_start : Inv start [] where
  connection := ofReceived_nil.symm
  unfinished := unfinished_nil
  room := by decide
  headers := by
    intro handed hMem
    cases hMem

theorem Inv.requested (hInv : Inv reader buffer) :
    reader.connection.requested = packetFraming.want buffer := by
  have hRoom := hInv.room
  rw [hInv.connection, requested_ofReceived hInv.unfinished (by omega)]

theorem Inv.received (hInv : Inv reader buffer) : reader.connection.received = buffer := by
  have hRoom := hInv.room
  rw [hInv.connection, received_ofReceived (by omega)]

theorem Inv.safe (hInv : Inv reader buffer) : Safe reader where
  room := by
    rw [hInv.requested, hInv.connection]
    exact hInv.room
  headers := hInv.headers

/-- A safe reader that has received an unfinished packet satisfies the invariant. -/
theorem inv_of_safe {handled : List (MFiWDataPacket × Nat)} (hUnfinished : Unfinished buffer)
    (hFits : buffer.length ≤ sizeofDataPacket) (hSafe : Safe ⟨ofReceived buffer, handled⟩) :
    Inv ⟨ofReceived buffer, handled⟩ buffer where
  connection := rfl
  unfinished := hUnfinished
  room := by
    have hRoom := hSafe.room
    rwa [requested_ofReceived hUnfinished hFits] at hRoom
  headers := hSafe.headers

/-- A turn that the object has room for is one `feed` of the framing. -/
theorem Inv.step_eq (hInv : Inv reader buffer) (hReturns : reader.Returns bytes) :
    reader.step bytes = some
      ⟨ofReceived (packetFraming.feed buffer bytes).1, reader.handled ++
        (packetFraming.feed buffer bytes).2.toList.map fun packet =>
          (image packet, buffer.length + bytes.length)⟩ := by
  have hRoom := hInv.room
  obtain ⟨-, hWant⟩ := hReturns
  rw [hInv.requested] at hWant
  have hTurn := turn_ofReceived hInv.unfinished hWant (by omega)
  rw [step, hInv.connection, hTurn]
  cases (packetFraming.feed buffer bytes).2 <;> rfl

/-- Behind its size field a packet is read as far as it was announced. -/
theorem announced_append (hUnfinished : Unfinished buffer)
    (hWant : bytes.length ≤ packetFraming.want buffer) (hLong : 4 < (buffer ++ bytes).length) :
    announced (buffer ++ bytes) = buffer.length + packetFraming.want buffer := by
  rw [List.length_append] at hLong
  unfold Unfinished at hUnfinished
  simp only [packetFraming] at hWant ⊢
  split_ifs at hWant ⊢ with hField
  · omega
  · rw [announced, List.take_append_of_le_length (by omega)]
    omega

/-- A packet that is handed over has a header exactly if its bytes are admissible. -/
theorem admissible_complete (hUnfinished : Unfinished buffer)
    (hWant : bytes.length ≤ packetFraming.want buffer)
    (hComplete : announced (buffer ++ bytes) ≤ (buffer ++ bytes).length) :
    Admissible (buffer ++ bytes) ↔ 12 ≤ (buffer ++ bytes).length := by
  rw [Admissible]
  split_ifs with hShort hField
  · omega
  · omega
  · have hLong : 4 < (buffer ++ bytes).length := by omega
    have hAnnounced := announced_append hUnfinished hWant hLong
    rw [List.length_append] at *
    exact ⟨fun h => h (by omega), fun h _ => h⟩

/-- The rest of an unfinished packet has room exactly if its bytes are admissible. -/
theorem admissible_incomplete (hUnfinished : Unfinished buffer)
    (hRoom : buffer.length + packetFraming.want buffer ≤ sizeofDataPacket)
    (hWant : bytes.length ≤ packetFraming.want buffer)
    (hIncomplete : (buffer ++ bytes).length < announced (buffer ++ bytes)) :
    Admissible (buffer ++ bytes) ↔
      (buffer ++ bytes).length + packetFraming.want (buffer ++ bytes) ≤ sizeofDataPacket := by
  have hNext : packetFraming.want (buffer ++ bytes) =
      (if (buffer ++ bytes).length < 4 then 4 else announced (buffer ++ bytes)) -
        (buffer ++ bytes).length := rfl
  rw [Admissible, hNext]
  split_ifs with hShort hField
  · refine iff_of_true hIncomplete ?_
    rw [sizeofDataPacket]
    omega
  · omega
  · have hLong : 4 < (buffer ++ bytes).length := by omega
    have hAnnounced := announced_append hUnfinished hWant hLong
    exact iff_of_true (fun hEnd => by omega) (by omega)

/-- The turn is safe exactly if the bytes received are admissible. -/
theorem Inv.turn (hInv : Inv reader buffer) (hReturns : reader.Returns bytes) :
    ∃ reader', reader.step bytes = some reader' ∧
      (Safe reader' ↔ Admissible (buffer ++ bytes)) ∧
      (Safe reader' → ∃ buffer', Inv reader' buffer') := by
  have hRoom := hInv.room
  have hWant : bytes.length ≤ packetFraming.want buffer := hInv.requested ▸ hReturns.2
  refine ⟨_, hInv.step_eq hReturns, ?_⟩
  by_cases hComplete : announced (buffer ++ bytes) ≤ (buffer ++ bytes).length
  · -- the packet is handed over, and the reader starts again
    have hFeed : packetFraming.feed buffer bytes = ([], some (buffer ++ bytes)) :=
      if_pos (decide_eq_true hComplete)
    simp only [hFeed, Option.toList_some, List.map_cons, List.map_nil]
    rw [admissible_complete hInv.unfinished hWant hComplete, List.length_append]
    refine ⟨⟨fun hSafe => ?_, fun h12 => ?_⟩,
      fun hSafe => ⟨[], inv_of_safe unfinished_nil (Nat.zero_le _) hSafe⟩⟩
    · exact hSafe.headers _ (List.mem_append_right _ (List.mem_singleton_self _))
    · refine Inv.safe (?_ : Inv _ [])
      refine ⟨rfl, unfinished_nil, by decide, ?_⟩
      simpa only [List.forall_mem_append, List.forall_mem_singleton] using ⟨hInv.headers, h12⟩
  · -- more of the packet is to come
    have hFeed : packetFraming.feed buffer bytes = (buffer ++ bytes, none) :=
      if_neg fun h => hComplete (of_decide_eq_true h)
    simp only [hFeed, Option.toList_none, List.map_nil, List.append_nil]
    have hUnfinished : Unfinished (buffer ++ bytes) := Or.inr (Nat.lt_of_not_le hComplete)
    have hFits : (buffer ++ bytes).length ≤ sizeofDataPacket := by
      rw [List.length_append]
      omega
    have hInv' (hSafe : Safe ⟨ofReceived (buffer ++ bytes), reader.handled⟩) :=
      inv_of_safe hUnfinished hFits hSafe
    rw [admissible_incomplete hInv.unfinished hRoom hWant (Nat.lt_of_not_le hComplete)]
    refine ⟨⟨fun hSafe => (hInv' hSafe).room, fun hNext => ?_⟩, fun hSafe => ⟨_, hInv' hSafe⟩⟩
    exact Inv.safe ⟨rfl, hUnfinished, hNext, hInv.headers⟩

theorem along_returns {reads : List (List UInt8)}
    (hAllowed : reader.connection.ReadsAllowed reads) : Along step Returns reader reads := by
  induction reads generalizing reader with
  | nil => trivial
  | cons bytes reads ih =>
      obtain ⟨hNonempty, hRequested, hRest⟩ := hAllowed
      refine ⟨⟨hNonempty, hRequested⟩, fun reader' hStep => ih ?_⟩
      rw [step] at hStep
      cases hTurn : reader.connection.turn bytes with
      | error fault =>
          rw [hTurn] at hStep
          cases hStep
      | ok turned =>
          rw [hTurn] at hStep hRest
          obtain rfl := Option.some.inj hStep
          exact hRest

/-- For every stream that arrives on the socket, whatever sizes it announces, and
every cut into reads: the reader stays inside the packet object and hands over whole
headers only, if and only if the bytes of every packet are admissible after every
read. -/
theorem safe_iff_admissible {reads : List (List UInt8)} (hAllowed : initial.ReadsAllowed reads) :
    Throughout step Safe start reads ↔
      Along step (fun reader bytes => Admissible (reader.connection.received ++ bytes))
        start reads := by
  have hGood : ∀ reader, (∃ buffer, Inv reader buffer) → Safe reader :=
    fun _ ⟨_, hInv⟩ => hInv.safe
  refine throughout_iff_along_allowed hGood ?_ ?_ ⟨[], inv_start⟩ (along_returns hAllowed)
  · rintro reader bytes ⟨buffer, hInv⟩ hReturns hAdmissible
    rw [hInv.received] at hAdmissible
    obtain ⟨reader', hStep, hIff, hKeep⟩ := hInv.turn hReturns
    exact ⟨reader', hStep, hKeep (hIff.mpr hAdmissible)⟩
  · rintro reader bytes ⟨buffer, hInv⟩ hReturns hNot reader' hStep hSafe
    rw [hInv.received] at hNot
    obtain ⟨reader₁, hStep₁, hIff, -⟩ := hInv.turn hReturns
    obtain rfl : reader₁ = reader' := Option.some.inj (hStep₁.symm.trans hStep)
    exact hNot (hIff.mp hSafe)

/-- A pause packet in two reads. -/
theorem safe_iff_admissible_pause :
    Throughout step Safe start [[12, 0, 0, 0], [4, 0, 0, 0, 7, 0, 0, 0]] ↔
      Along step (fun reader bytes => Admissible (reader.connection.received ++ bytes))
        start [[12, 0, 0, 0], [4, 0, 0, 0, 7, 0, 0, 0]] :=
  safe_iff_admissible (by decide +kernel)

/-- A size field of 1000: the next `read()` is asked for 996 bytes behind the first
four of the object. -/
theorem size_beyond_object :
    ¬ ∀ reads : List (List UInt8), initial.ReadsAllowed reads →
      Throughout step Safe start reads := by
  intro hAll
  obtain ⟨reader, hRun, hSafe⟩ :=
    hAll [[0xE8, 0x03, 0, 0]] (by decide +kernel) _ List.prefix_rfl
  have hRequested : (run step start [[0xE8, 0x03, 0, 0]]).map
      (fun reader => (reader.connection.position, reader.connection.requested)) =
        some (4, 996) := by
    decide +kernel
  rw [hRun, Option.map_some, Option.some.injEq, Prod.mk.injEq] at hRequested
  have hRoom := hSafe.room
  rw [hRequested.1, hRequested.2] at hRoom
  exact absurd hRoom (by decide)

end Reader

end Connection
end MFiWrapper
