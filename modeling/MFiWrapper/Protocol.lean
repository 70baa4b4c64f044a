import Mathlib.Data.Fintype.Basic
import MFiWrapper.Library.LittleEndian

/-!
# `protocol.h`: the packets between backend and frontend

The constants and packed structures shared by both sides.  A structure that
travels over the socket has a `bytes` function giving its packed little-endian
image.  The eighteen scalars of an input state are kept generic: over the wire
they are 32-bit patterns (`UInt32`), inside the drivers and the frontend they
are numbers.
-/

namespace MFiWrapper

open Library

/-- The connection handle of the iCade keyboard, which never has a backend. -/
def MFiWLocalHandle : UInt32 := 0xFFFFFFFF

/-- The controls of a controller, in the order of the enumeration. -/
inductive MFiButtons
  | dPad | a | b | x | y | leftShoulder | rightShoulder | leftThumbstick
  | rightThumbstick | leftTrigger | rightTrigger | select | start
  | leftStickButton | rightStickButton
  deriving DecidableEq, Repr

/-- The controls below `MFi_LastElement`. -/
def MFiButtons.all : List MFiButtons :=
  [.dPad, .a, .b, .x, .y, .leftShoulder, .rightShoulder, .leftThumbstick,
    .rightThumbstick, .leftTrigger, .rightTrigger, .select, .start,
    .leftStickButton, .rightStickButton]

instance : Fintype MFiButtons where
  elems := ⟨MFiButtons.all, by decide⟩
  complete control := by cases control <;> decide

/-- The value of the enumerator `MFi_<control>`. -/
def MFiButtons.index : MFiButtons → Nat
  | .dPad => 0
  | .a => 1
  | .b => 2
  | .x => 3
  | .y => 4
  | .leftShoulder => 5
  | .rightShoulder => 6
  | .leftThumbstick => 7
  | .rightThumbstick => 8
  | .leftTrigger => 9
  | .rightTrigger => 10
  | .select => 11
  | .start => 12
  | .leftStickButton => 13
  | .rightStickButton => 14

def mfiNormalElements : UInt32 := 0x7F
def mfiExtendedElements : UInt32 := 0x780
def mfiFullElements : UInt32 := 0x7800
def mfiAllElements : UInt32 := 0x7FFF

/-- `#define DEFBIT(X) MFi_##X##_Bit = (1 << MFi_X)`.  The left side pastes the
argument; on the right `MFi_X` is one token, the enumerator of the X button,
and the argument does not occur in it. -/
def defBit (_control : MFiButtons) : UInt32 := 1 <<< UInt32.ofNat MFiButtons.x.index

/-- The enumerator `MFi_<control>_Bit` of `MFiButtonMask`. -/
def MFiButtonMask (control : MFiButtons) : UInt32 := defBit control

/-! ## Payloads -/

/-- The packed image of a 32-bit field. -/
def le32 (value : UInt32) : List UInt8 := writeLE 4 value.toNat

structure MFiWConnectPacket where
  vendorName : Vector UInt8 256
  presentControls : UInt32
  analogControls : UInt32
  deriving DecidableEq

def MFiWConnectPacket.bytes (packet : MFiWConnectPacket) : List UInt8 :=
  packet.vendorName.toList ++ le32 packet.presentControls ++ le32 packet.analogControls

structure MFiWInputStatePacket (α : Type) where
  dPadX : α
  dPadY : α
  a : α
  b : α
  x : α
  y : α
  leftShoulder : α
  rightShoulder : α
  leftStickX : α
  leftStickY : α
  rightStickX : α
  rightStickY : α
  leftTrigger : α
  rightTrigger : α
  select : α
  start : α
  leftStickButton : α
  rightStickButton : α
  deriving DecidableEq

/-- The scalars in the order of the structure. -/
def MFiWInputStatePacket.fields {α : Type} (packet : MFiWInputStatePacket α) : List α :=
  [packet.dPadX, packet.dPadY, packet.a, packet.b, packet.x, packet.y,
    packet.leftShoulder, packet.rightShoulder, packet.leftStickX, packet.leftStickY,
    packet.rightStickX, packet.rightStickY, packet.leftTrigger, packet.rightTrigger,
    packet.select, packet.start, packet.leftStickButton, packet.rightStickButton]

def MFiWInputStatePacket.bytes (packet : MFiWInputStatePacket UInt32) : List UInt8 :=
  (packet.fields.map le32).flatten

def MFiWInputStatePacket.map {α β : Type} (f : α → β) (packet : MFiWInputStatePacket α) :
    MFiWInputStatePacket β where
  dPadX := f packet.dPadX
  dPadY := f packet.dPadY
  a := f packet.a
  b := f packet.b
  x := f packet.x
  y := f packet.y
  leftShoulder := f packet.leftShoulder
  rightShoulder := f packet.rightShoulder
  leftStickX := f packet.leftStickX
  leftStickY := f packet.leftStickY
  rightStickX := f packet.rightStickX
  rightStickY := f packet.rightStickY
  leftTrigger := f packet.leftTrigger
  rightTrigger := f packet.rightTrigger
  select := f packet.select
  start := f packet.start
  leftStickButton := f packet.leftStickButton
  rightStickButton := f packet.rightStickButton

/-- The state with each of its scalars converted by a function of its own. -/
def MFiWInputStatePacket.convert {α β : Type} (f : MFiWInputStatePacket (α → β))
    (packet : MFiWInputStatePacket α) : MFiWInputStatePacket β where
  dPadX := f.dPadX packet.dPadX
  dPadY := f.dPadY packet.dPadY
  a := f.a packet.a
  b := f.b packet.b
  x := f.x packet.x
  y := f.y packet.y
  leftShoulder := f.leftShoulder packet.leftShoulder
  rightShoulder := f.rightShoulder packet.rightShoulder
  leftStickX := f.leftStickX packet.leftStickX
  leftStickY := f.leftStickY packet.leftStickY
  rightStickX := f.rightStickX packet.rightStickX
  rightStickY := f.rightStickY packet.rightStickY
  leftTrigger := f.leftTrigger packet.leftTrigger
  rightTrigger := f.rightTrigger packet.rightTrigger
  select := f.select packet.select
  start := f.start packet.start
  leftStickButton := f.leftStickButton packet.leftStickButton
  rightStickButton := f.rightStickButton packet.rightStickButton

/-- A state with one value for all its scalars. -/
def MFiWInputStatePacket.all {α : Type} (value : α) : MFiWInputStatePacket α :=
  ⟨value, value, value, value, value, value, value, value, value, value, value, value, value,
    value, value, value, value, value⟩

/-- `memset(&data, 0, sizeof(data))`. -/
def MFiWInputStatePacket.zero {α : Type} [Zero α] : MFiWInputStatePacket α :=
  ⟨0, 0, 0, 0, 0, 0, 0, 0, 0, 0, 0, 0, 0, 0, 0, 0, 0, 0⟩

/-! ## Packets -/

/-- The packet types either side knows; any other code is unknown to it. -/
inductive MFiWPacketType
  | connect | disconnect | inputState | setPlayerIndex | pausePressed
  deriving DecidableEq, Repr

def MFiWPacketType.code : MFiWPacketType → UInt32
  | .connect => 0
  | .disconnect => 1
  | .inputState => 2
  | .setPlayerIndex => 3
  | .pausePressed => 4

/-- What one packet says: a type, a handle and the union member the type
selects. -/
inductive MFiWPacket (α : Type)
  | connect (handle : UInt32) (data : MFiWConnectPacket)
  | disconnect (handle : UInt32)
  | inputState (handle : UInt32) (state : MFiWInputStatePacket α)
  | setPlayerIndex (handle : UInt32) (value : Int32)
  | pausePressed (handle : UInt32)
  deriving DecidableEq

namespace MFiWPacket

variable {α : Type}

@[simp] def type : MFiWPacket α → MFiWPacketType
  | .connect _ _ => .connect
  | .disconnect _ => .disconnect
  | .inputState _ _ => .inputState
  | .setPlayerIndex _ _ => .setPlayerIndex
  | .pausePressed _ => .pausePressed

@[simp] def handle : MFiWPacket α → UInt32
  | .connect handle _ => handle
  | .disconnect handle => handle
  | .inputState handle _ => handle
  | .setPlayerIndex handle _ => handle
  | .pausePressed handle => handle

def map {β : Type} (f : α → β) : MFiWPacket α → MFiWPacket β
  | .connect handle data => .connect handle data
  | .disconnect handle => .disconnect handle
  | .inputState handle state => .inputState handle (state.map f)
  | .setPlayerIndex handle value => .setPlayerIndex handle value
  | .pausePressed handle => .pausePressed handle

/-- The packet with the scalars of its state converted as those of its handle are. -/
def convert {β : Type} (f : UInt32 → MFiWInputStatePacket (α → β)) : MFiWPacket α → MFiWPacket β
  | .connect handle data => .connect handle data
  | .disconnect handle => .disconnect handle
  | .inputState handle state => .inputState handle ((f handle).convert state)
  | .setPlayerIndex handle value => .setPlayerIndex handle value
  | .pausePressed handle => .pausePressed handle

/-- The bytes after the 12-byte header. -/
def payload : MFiWPacket UInt32 → List UInt8
  | .connect _ data => data.bytes
  | .disconnect _ => []
  | .inputState _ state => state.bytes
  | .setPlayerIndex _ value => le32 value.toUInt32
  | .pausePressed _ => []

end MFiWPacket

/-! ## Sizes -/

def mfiWPacketGenericSize : Nat := 12
def mfiWPacketConnectSize : Nat := 12 + 264
def mfiWPacketInputStateSize : Nat := 12 + 72
def mfiWPacketSetPlayerIndexSize : Nat := 12 + 4

/-- `sizeof(MFiWDataPacket)`: the header and the largest union member. -/
def sizeofDataPacket : Nat := 276

/-- The `Size` a packet of each type is sent with. -/
def MFiWPacketType.size : MFiWPacketType → Nat
  | .connect => mfiWPacketConnectSize
  | .disconnect => mfiWPacketGenericSize
  | .inputState => mfiWPacketInputStateSize
  | .setPlayerIndex => mfiWPacketSetPlayerIndexSize
  | .pausePressed => mfiWPacketGenericSize

@[simp] theorem le32_length (value : UInt32) : (le32 value).length = 4 := by
  simp [le32]

theorem readLE_le32 (value : UInt32) : readLE (le32 value) = value.toNat :=
  readLE_writeLE_of_lt (by simpa using value.toNat_lt)

/-- The header's 12 bytes and the payload add up to the announced size. -/
theorem MFiWPacket.payload_length (packet : MFiWPacket UInt32) :
    12 + packet.payload.length = packet.type.size := by
  cases packet <;>
    simp [payload, MFiWPacketType.size, mfiWPacketGenericSize, mfiWPacketConnectSize,
      mfiWPacketInputStateSize, mfiWPacketSetPlayerIndexSize, MFiWConnectPacket.bytes,
      MFiWInputStatePacket.bytes, MFiWInputStatePacket.fields]

end MFiWrapper
