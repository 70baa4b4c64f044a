import MFiWrapper.Library.Reassembly
import MFiWrapper.Protocol

/-!
# `common.cpp`: sending and receiving packets

`Connection` is the class both sides derive their socket endpoint from.  The
`Send*` functions fill the front of a packed structure and write its first
`Size` bytes; `Read` and `Parse` collect the bytes of one packet in the member
`Packet`, which is zeroed between packets, and call `HandlePacket` when
`Position` has reached `Packet.Size`.

A `read()` that returns nothing leaves the connection as it is and ends the
loop of `Parse`.  One call of `Parse` is therefore modelled over the list of
the byte strings its successful reads return, and a sequence of run-loop
callbacks over the list of these lists.
-/

namespace MFiWrapper

open Library

/-! ## The packet in memory -/

/-- The 276 bytes of an `MFiWDataPacket` object. -/
@[ext]
structure MFiWDataPacket where
  data : List UInt8
  length_data : data.length = sizeofDataPacket
  deriving DecidableEq

namespace MFiWDataPacket

/-- `memset(&Packet, 0, sizeof(Packet))`. -/
def zero : MFiWDataPacket := ⟨List.replicate sizeofDataPacket 0, List.length_replicate⟩

def size (packet : MFiWDataPacket) : Nat := readLE (packet.data.take 4)

def type (packet : MFiWDataPacket) : Nat := readLE ((packet.data.drop 4).take 4)

def handle (packet : MFiWDataPacket) : Nat := readLE ((packet.data.drop 8).take 4)

/-- The bytes after the header, as far as `Size` counts them. -/
def payload (packet : MFiWDataPacket) : List UInt8 := (packet.data.take packet.size).drop 12

/-- Type, handle and payload. -/
def contents (packet : MFiWDataPacket) : Nat × Nat × List UInt8 :=
  (packet.type, packet.handle, packet.payload)

/-- Copy bytes into the object; `none` when they do not fit behind `offset`. -/
def store (packet : MFiWDataPacket) (offset : Nat) (bytes : List UInt8) :
    Option MFiWDataPacket :=
  if h : offset + bytes.length ≤ sizeofDataPacket then
    some
      { data := packet.data.take offset ++ bytes ++ packet.data.drop (offset + bytes.length)
        length_data := by
          simp only [List.length_append, List.length_take, List.length_drop,
            packet.length_data]
          omega }
  else
    none

end MFiWDataPacket

/-- Type, handle and payload of a packet as the sender means it. -/
def MFiWPacket.contents (packet : MFiWPacket UInt32) : Nat × Nat × List UInt8 :=
  (packet.type.code.toNat, packet.handle.toNat, packet.payload)

/-! ## Sending -/

namespace Connection

/-- The first `size` bytes of the packed structure: the header and the union
member that was assigned. -/
def packetBytes (size : Nat) (type : MFiWPacketType) (handle : UInt32)
    (payload : List UInt8) : List UInt8 :=
  writeLE 4 size ++ le32 type.code ++ le32 handle ++ payload

/-- The bytes `SendConnect` passes to `write`; the other functions likewise. -/
def sendConnect (aHandle : UInt32) (aData : MFiWConnectPacket) : List UInt8 :=
  packetBytes mfiWPacketConnectSize .connect aHandle aData.bytes

def sendGenericPacket (aType : MFiWPacketType) (aHandle : UInt32) : List UInt8 :=
  packetBytes mfiWPacketGenericSize aType aHandle []

def sendDisconnect (aHandle : UInt32) : List UInt8 :=
  sendGenericPacket .disconnect aHandle

def sendInputState (aHandle : UInt32) (aData : MFiWInputStatePacket UInt32) : List UInt8 :=
  packetBytes mfiWPacketInputStateSize .inputState aHandle aData.bytes

def sendSetPlayerIndex (aHandle : UInt32) (aIndex : Int32) : List UInt8 :=
  packetBytes mfiWPacketSetPlayerIndexSize .setPlayerIndex aHandle (le32 aIndex.toUInt32)

def sendPausePressed (aHandle : UInt32) : List UInt8 :=
  sendGenericPacket .pausePressed aHandle

end Connection

/-- The bytes written by the `Send*` call for a packet. -/
def MFiWPacket.send : MFiWPacket UInt32 → List UInt8
  | .connect handle data => Connection.sendConnect handle data
  | .disconnect handle => Connection.sendDisconnect handle
  | .inputState handle state => Connection.sendInputState handle state
  | .setPlayerIndex handle value => Connection.sendSetPlayerIndex handle value
  | .pausePressed handle => Connection.sendPausePressed handle

/-! ## Receiving -/

/-- What goes wrong inside `Read` on a successful `read()`. -/
inductive ReadFault
  | storeOutOfBounds
  | assertionFailed
  deriving DecidableEq, Repr

/-- The receiving half of a connection.  `Position` is a `uint32_t`. -/
structure Connection where
  packet : MFiWDataPacket
  position : Nat
  deriving DecidableEq

namespace Connection

/-- After the constructor, and between packets. -/
def initial : Connection := ⟨.zero, 0⟩

def targetSize (c : Connection) : Nat :=
  if c.position < 4 then 4 else c.packet.size

/-- The third argument of `read()`: `targetSize - Position` in `unsigned`. -/
def requested (c : Connection) : Nat :=
  (c.targetSize + 2 ^ 32 - c.position) % 2 ^ 32

/-- `Read` when `read()` returns the bytes. -/
def read (c : Connection) (bytes : List UInt8) : Except ReadFault Connection :=
  match c.packet.store c.position bytes with
  | none => .error .storeOutOfBounds
  | some packet =>
      let position := (c.position + bytes.length) % 2 ^ 32
      if position ≤ c.targetSize then .ok ⟨packet, position⟩
      else .error .assertionFailed

/-- One turn of the loop of `Parse`: a successful `Read`, and `HandlePacket`
if the packet is there. -/
def turn (c : Connection) (bytes : List UInt8) :
    Except ReadFault (Option MFiWDataPacket × Connection) :=
  match c.read bytes with
  | .error fault => .error fault
  | .ok c' =>
      if c'.position ≥ c'.packet.size then .ok (some c'.packet, initial)
      else .ok (none, c')

/-- One call of `Parse`, over the results of its successful reads: the packets
passed to `HandlePacket`, and the connection it leaves behind. -/
def parse : Connection → List (List UInt8) →
    Except ReadFault (List MFiWDataPacket × Connection)
  | c, [] => .ok ([], c)
  | c, bytes :: results =>
      match c.turn bytes with
      | .error fault => .error fault
      | .ok (handed, c') =>
          match parse c' results with
          | .error fault => .error fault
          | .ok (handled, last) => .ok (handed.toList ++ handled, last)

/-- Successive run-loop callbacks, each a call of `Parse`. -/
def callbacks : Connection → List (List (List UInt8)) →
    Except ReadFault (List MFiWDataPacket × Connection)
  | c, [] => .ok ([], c)
  | c, reads :: later =>
      match c.parse reads with
      | .error fault => .error fault
      | .ok (handled, c') =>
          match callbacks c' later with
          | .error fault => .error fault
          | .ok (handled', last) => .ok (handled ++ handled', last)

/-- What `read()` may return: at least one byte and at most the number it is
asked for, at every turn that is reached. -/
def ReadsAllowed : Connection → List (List UInt8) → Prop
  | _, [] => True
  | c, bytes :: results =>
      bytes ≠ [] ∧ bytes.length ≤ c.requested ∧
        match c.turn bytes with
        | .error _ => True
        | .ok (_, c') => ReadsAllowed c' results

instance decidableReadsAllowed :
    (c : Connection) → (results : List (List UInt8)) → Decidable (c.ReadsAllowed results)
  | _, [] => isTrue trivial
  | c, bytes :: results =>
      have : Decidable (match c.turn bytes with
          | .error _ => True
          | .ok (_, c') => ReadsAllowed c' results) :=
        match c.turn bytes with
        | .error _ => isTrue trivial
        | .ok (_, c') => decidableReadsAllowed c' results
      inferInstanceAs (Decidable (bytes ≠ [] ∧ bytes.length ≤ c.requested ∧ _))

theorem parse_append (c : Connection) (first second : List (List UInt8)) :
    c.parse (first ++ second) =
      match c.parse first with
      | .error fault => .error fault
      | .ok (handled, c') =>
          match c'.parse second with
          | .error fault => .error fault
          | .ok (handled', last) => .ok (handled ++ handled', last) := by
  induction first generalizing c with
  | nil =>
      simp only [List.nil_append, parse]
      cases c.parse second with
      | error fault => rfl
      | ok result => rfl
  | cons bytes first ih =>
      simp only [List.cons_append, parse]
      cases c.turn bytes with
      | error fault => rfl
      | ok turned =>
          simp only [ih]
          cases turned.2.parse first with
          | error fault => rfl
          | ok parsed =>
              simp only
              cases parsed.2.parse second with
              | error fault => rfl
              | ok result => simp

/-- A call of `Parse` that completes is a turn that does, and then the rest. -/
theorem parse_cons_eq_ok {c last : Connection} {bytes : List UInt8} {results : List (List UInt8)}
    {handled : List MFiWDataPacket} (hParse : c.parse (bytes :: results) = .ok (handled, last)) :
    ∃ handed c' later, c.turn bytes = .ok (handed, c') ∧ c'.parse results = .ok (later, last) ∧
      handled = handed.toList ++ later := by
  rw [parse] at hParse
  cases hTurn : c.turn bytes with
  | error fault =>
      rw [hTurn] at hParse
      cases hParse
  | ok turned =>
      obtain ⟨handed, c'⟩ := turned
      simp only [hTurn] at hParse
      cases hLater : c'.parse results with
      | error fault =>
          simp only [hLater] at hParse
          cases hParse
      | ok parsed =>
          simp only [hLater] at hParse
          cases hParse
          exact ⟨handed, c', _, rfl, hLater, rfl⟩

/-- The loop of `Parse` does nothing between two calls, so the callbacks only
group the reads. -/
theorem callbacks_eq_parse (c : Connection) (reads : List (List (List UInt8))) :
    c.callbacks reads = c.parse reads.flatten := by
  induction reads generalizing c with
  | nil => rfl
  | cons first later ih =>
      simp only [callbacks, List.flatten_cons, parse_append, ih]

end Connection

end MFiWrapper
