import MFiWrapper.Common.PacketStream
import MFiWrapper.Library.Channel

/-!
# A connection and its socket

`Read` is given what waits in the socket, as much of it as it asks for and as the
socket returns.  With the bytes of whole packets in the socket a connection is the
reader of a `Channel`, and the packets on their way are a queue.
-/

namespace MFiWrapper
namespace Connection

open Library

/-- One turn of the loop of `Parse`, when `read()` could return `count` of the bytes
that wait in the socket: the packet passed to `HandlePacket`, and the number of bytes
read.  A `read()` that returns nothing ends the loop. -/
def receive (c : Connection) (waiting : List UInt8) (count : Nat) :
    Except ReadFault (Option MFiWDataPacket × Connection × Nat) :=
  let bytes := waiting.take (min count c.requested)
  if bytes.isEmpty then .ok (none, c, 0)
  else
    match c.turn bytes with
    | .error fault => .error fault
    | .ok (handed, c') => .ok (handed, c', bytes.length)

/-- The packets on their way to a connection. -/
def Expects (c : Connection) (waiting : List UInt8) (packets : List (MFiWPacket UInt32)) : Prop :=
  ∃ buffer, c = ofReceived buffer ∧ Unfinished buffer ∧
    Channel.Carries MFiWPacket.send ⟨buffer, waiting⟩ packets

variable {c : Connection} {waiting : List UInt8} {packets : List (MFiWPacket UInt32)}

theorem expects_initial : initial.Expects [] [] :=
  ⟨[], ofReceived_nil.symm, unfinished_nil, Channel.carries_nil⟩

theorem Expects.write (hExpects : c.Expects waiting packets) (sent : List (MFiWPacket UInt32)) :
    c.Expects (waiting ++ sent.flatMap MFiWPacket.send) (packets ++ sent) := by
  obtain ⟨buffer, rfl, hUnfinished, hCarries⟩ := hExpects
  refine ⟨buffer, rfl, hUnfinished, ?_⟩
  rw [List.flatMap_def]
  exact hCarries.write sent fun packet _ => (send_recognised packet).nonempty

/-- When nothing waits in the socket, no packet is on its way and the connection is as
it was constructed. -/
theorem Expects.caught_up (hExpects : c.Expects [] packets) : c = initial ∧ packets = [] := by
  obtain ⟨buffer, rfl, -, hCarries⟩ := hExpects
  obtain ⟨hBuffer, hPackets⟩ := hCarries.caught_up rfl
  obtain rfl : buffer = [] := hBuffer
  exact ⟨ofReceived_nil, hPackets⟩

/-- What has been received of a packet fits into the packet object. -/
theorem partial_fits {buffer : List UInt8}
    (hPartial : Framing.Partial buffer (packets.map MFiWPacket.send)) :
    buffer.length ≤ sizeofDataPacket := by
  cases packets with
  | nil =>
      obtain rfl : buffer = [] := hPartial
      exact Nat.zero_le _
  | cons packet packets =>
      obtain ⟨n, hShort, rfl⟩ := hPartial
      have hFits := send_fits packet
      rw [List.length_take]
      omega

/-- A turn of `Parse` on the bytes of packets is a read of the channel. -/
theorem receive_eq_read {buffer : List UInt8} (hUnfinished : Unfinished buffer)
    (hCarries : Channel.Carries MFiWPacket.send ⟨buffer, waiting⟩ packets) (count : Nat) :
    ∃ n, (ofReceived buffer).receive waiting count =
        .ok (((⟨buffer, waiting⟩ : Channel UInt8).read packetFraming count).2.map image,
          ofReceived ((⟨buffer, waiting⟩ : Channel UInt8).read packetFraming count).1.buffer, n) ∧
      ((⟨buffer, waiting⟩ : Channel UInt8).read packetFraming count).1.unread = waiting.drop n ∧
      Unfinished ((⟨buffer, waiting⟩ : Channel UInt8).read packetFraming count).1.buffer := by
  have hFits := partial_fits hCarries.buffer
  have hRequested := requested_ofReceived hUnfinished hFits
  have hChunk : waiting.take (min count (ofReceived buffer).requested) =
      (⟨buffer, waiting⟩ : Channel UInt8).chunk packetFraming count := by
    rw [hRequested]
    rfl
  rw [receive, hChunk, Channel.read]
  by_cases hNone : ((⟨buffer, waiting⟩ : Channel UInt8).chunk packetFraming count).isEmpty = true
  · rw [if_pos hNone, if_pos hNone]
    exact ⟨0, rfl, rfl, hUnfinished⟩
  · rw [if_neg hNone, if_neg hNone]
    have hNonempty : (⟨buffer, waiting⟩ : Channel UInt8).chunk packetFraming count ≠ [] :=
      fun hNil => hNone (by rw [hNil]; rfl)
    have hStream : buffer ++ (⟨buffer, waiting⟩ : Channel UInt8).chunk packetFraming count ++
        waiting.drop (min count (packetFraming.want buffer)) =
          (packets.map MFiWPacket.send).flatten := by
      rw [← hCarries.stream, List.append_assoc, Channel.chunk, List.take_append_drop]
    obtain ⟨frame, others, hFrame⟩ := Framing.exists_frame hNonempty hStream
    obtain ⟨packet, rest, rfl, rfl, rfl⟩ := List.map_eq_cons_iff.mp hFrame
    have hRead : ((⟨buffer, waiting⟩ : Channel UInt8).chunk packetFraming count).length ≤
        (ofReceived buffer).requested := by
      rw [← hChunk, List.length_take]
      omega
    obtain ⟨-, hTurn⟩ := turn_inside (send_recognised packet).delimits (send_fits packet)
      hCarries.buffer hUnfinished hRead
    refine ⟨_, by rw [hTurn], ?_, unfinished_feed⟩
    -- the read takes what it asks for, or all there is
    rw [Channel.chunk, List.length_take]
    rcases Nat.le_total (min count (packetFraming.want buffer)) waiting.length with hSome | hAll
    · rw [Nat.min_eq_left hSome]
    · rw [Nat.min_eq_right hAll, List.drop_length, List.drop_eq_nil_of_le hAll]

/-- A turn of `Parse` takes nothing from the packets on their way, or the oldest one. -/
theorem Expects.receive (hExpects : c.Expects waiting packets) (count : Nat) :
    ∃ handed c' n, c.receive waiting count = .ok (handed, c', n) ∧
      ((handed = none ∧ c'.Expects (waiting.drop n) packets) ∨
        ∃ packet rest, packets = packet :: rest ∧ handed = some (image packet.send) ∧
          c'.Expects (waiting.drop n) rest) := by
  obtain ⟨buffer, rfl, hUnfinished, hCarries⟩ := hExpects
  obtain ⟨n, hReceive, hUnread, hUnfinished'⟩ := receive_eq_read hUnfinished hCarries count
  have hFrames : ∀ packet ∈ packets, packetFraming.Recognises packet.send :=
    fun packet _ => send_recognised packet
  refine ⟨_, _, n, hReceive, ?_⟩
  rw [← hUnread]
  rcases hCarries.read hFrames count with
    ⟨hNone, hCarries'⟩ | ⟨packet, rest, hHead, hSome, hCarries'⟩
  · left
    rw [hNone]
    exact ⟨rfl, _, rfl, hUnfinished', hCarries'⟩
  · right
    rw [hSome]
    exact ⟨packet, rest, hHead, rfl, _, rfl, hUnfinished', hCarries'⟩

/-- As long as bytes wait, a read that could return something does. -/
theorem Expects.receive_progress (hExpects : c.Expects waiting packets) {count : Nat}
    (hCount : 0 < count) {handed : Option MFiWDataPacket} {c' : Connection} {n : Nat}
    (hReceive : c.receive waiting count = .ok (handed, c', n)) :
    (waiting.drop n).length ≤ waiting.length - 1 := by
  obtain ⟨buffer, rfl, hUnfinished, hCarries⟩ := hExpects
  obtain ⟨n', hReceive', hUnread, -⟩ := receive_eq_read hUnfinished hCarries count
  obtain ⟨-, -, rfl⟩ : _ ∧ _ ∧ n' = n := by
    have hSame := Except.ok.inj (hReceive'.symm.trans hReceive)
    simpa only [Prod.mk.injEq] using hSame
  rw [← hUnread]
  exact Channel.read_unread hCount (want_pos hUnfinished)

end Connection
end MFiWrapper
