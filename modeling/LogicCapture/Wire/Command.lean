/-
The command packet: a class and a verb, each a little-endian 32-bit word, and
a payload of at most `CommandPacket.maxPayload` bytes.  The payload's length is
not part of the packet; it follows from the length of the transfer that
carries it.
-/
import LogicCapture.Bytes
import LogicCapture.Wire.Error

namespace LogicCapture

/-! ### Numbers of the command protocol -/

namespace Protocol

/-- The vendor request that carries every command. -/
def requestNumber : UInt8 := 0x65

/-- The request value that asks the device to execute a command. -/
def valueExecute : UInt16 := 0

/-- The request index that tells the device to queue no response. -/
def skipResponse : UInt16 := 1

/-- The longest identity string that the device reports. -/
def maxStringLength : Nat := 128

/-- The command class for board identity and housekeeping. -/
def classCore : UInt32 := 0x000

/-- The core verb that reads the firmware version. -/
def verbReadVersion : UInt32 := 0x1

/-- The core verb that reads the serial number. -/
def verbReadSerial : UInt32 := 0x3

/-- The command class of the logic analyzer. -/
def classLogicAnalyzer : UInt32 := 0x10d

/-- The analyzer verb that negotiates rate and channels. -/
def verbConfigure : UInt32 := 0x0

/-- The analyzer verb that begins streaming. -/
def verbStart : UInt32 := 0x3

/-- The analyzer verb that halts streaming. -/
def verbStop : UInt32 := 0x4

/-- The interface that carries the bulk sample endpoint. -/
def streamingInterface : UInt8 := 1

end Protocol

/-! ### Packets -/

/-- The most payload bytes that one packet carries. -/
def CommandPacket.maxPayload : Nat := 1024

/-- The length of the class and verb words in front of the payload. -/
def CommandPacket.headerLength : Nat := 8

/-- A command for the device: class, verb and a bounded payload, which lies at the front of a
buffer of fixed size. -/
structure CommandPacket where
  /-- The group of commands that the verb belongs to. -/
  classId : UInt32
  /-- The command within its class. -/
  verb : UInt32
  /-- The room for the arguments of the command. -/
  buffer : Bytes
  /-- The bytes of the buffer that the arguments take. -/
  payloadLength : Nat
  length_buffer : buffer.length = CommandPacket.maxPayload
  payload_le : payloadLength ≤ CommandPacket.maxPayload
  /-- What the arguments leave of the buffer is zero, so that packets with the same arguments
  are the same. -/
  unused_zero : buffer.drop payloadLength = zeros (CommandPacket.maxPayload - payloadLength)
  deriving DecidableEq

namespace CommandPacket

/-- The arguments of the command. -/
def payload (p : CommandPacket) : Bytes := p.buffer.take p.payloadLength

/-- The packet with the given payload, copied into an empty buffer. -/
def carrying (classId verb : UInt32) (payload : Bytes) (h : payload.length ≤ maxPayload) :
    CommandPacket where
  classId
  verb
  buffer := overwrite (zeros maxPayload) 0 payload
  payloadLength := payload.length
  length_buffer := by simp
  payload_le := h
  unused_zero := by rw [overwrite_zeros h, List.drop_left]

/-- The packet with the given payload, unless the payload is too long. -/
def ofPayload (classId verb : UInt32) (payload : Bytes) : Except WireError CommandPacket :=
  if h : payload.length ≤ maxPayload then
    .ok (carrying classId verb payload h)
  else
    .error (.payloadTooLarge payload.length maxPayload)

/-- A command without payload. -/
def headerOnly (classId verb : UInt32) : CommandPacket where
  classId
  verb
  buffer := zeros maxPayload
  payloadLength := 0
  length_buffer := length_zeros _
  payload_le := Nat.zero_le _
  unused_zero := rfl

@[simp] theorem length_payload (p : CommandPacket) : p.payload.length = p.payloadLength := by
  rw [payload, List.length_take, p.length_buffer, Nat.min_eq_left p.payload_le]

theorem length_payload_le (p : CommandPacket) : p.payload.length ≤ maxPayload := by
  rw [length_payload]
  exact p.payload_le

@[simp] theorem payload_carrying (classId verb : UInt32) {payload : Bytes}
    (h : payload.length ≤ maxPayload) : (carrying classId verb payload h).payload = payload := by
  have hbuffer : (carrying classId verb payload h).buffer =
      payload ++ zeros (maxPayload - payload.length) := overwrite_zeros h
  rw [CommandPacket.payload, hbuffer]
  exact List.take_left

/-- **A packet is the one that carries its payload**: nothing but the payload is in its buffer. -/
theorem carrying_payload (p : CommandPacket) :
    carrying p.classId p.verb p.payload p.length_payload_le = p := by
  have hbuffer : overwrite (zeros maxPayload) 0 p.payload = p.buffer := by
    rw [overwrite_zeros p.length_payload_le, length_payload, ← p.unused_zero, payload,
      List.take_append_drop]
  have hlength := p.length_payload
  obtain ⟨classId, verb, buffer, length, h₁, h₂, h₃⟩ := p
  simp only [carrying, hbuffer, hlength]

/-- The number of bytes that the packet takes on the wire. -/
def wireLength (p : CommandPacket) : Nat := headerLength + p.payloadLength

/-- The bytes of the packet on the wire. -/
def encode (p : CommandPacket) : Bytes :=
  LittleEndian.encode 4 p.classId.toNat ++ LittleEndian.encode 4 p.verb.toNat ++ p.payload

/-- The packet that a byte string holds; all that follows the header is payload. -/
def decode (bytes : Bytes) : Except WireError CommandPacket :=
  if bytes.length < headerLength then
    .error (.incompletePacket headerLength bytes.length)
  else
    ofPayload (UInt32.ofNat (LittleEndian.decode (bytes.take 4)))
      (UInt32.ofNat (LittleEndian.decode ((bytes.drop 4).take 4))) (bytes.drop headerLength)

/-- A short description that leaves the payload bytes out. -/
def describe (p : CommandPacket) : String :=
  s!"CommandPacket \x7b class: 0x{hexNumber p.classId.toNat}, verb: 0x{hexNumber p.verb.toNat}, " ++
    s!"payload_len: {p.payloadLength} \x7d"

/-- An encoded packet is as long as its wire length says. -/
theorem length_encode (p : CommandPacket) : p.encode.length = p.wireLength := by
  simp [encode, wireLength, headerLength]
  omega

end CommandPacket

end LogicCapture
