/-
The setup header in front of every control transfer, and the direction that
its first byte encodes.
-/
import LogicCapture.Wire.Buffer
import LogicCapture.Wire.Error

namespace LogicCapture

/-- The way in which the data stage of a transfer travels. -/
inductive Direction where
  | toDevice
  | toHost
  deriving DecidableEq

namespace Direction

/-- The bit of a request type or endpoint address that means "device to host". -/
def inBit : UInt8 := 0x80

/-- The request-type bit of vendor requests. -/
def vendorBit : UInt8 := 0x40

/-- The request-type bit of requests addressed to an endpoint. -/
def endpointBit : UInt8 := 0x02

/-- The direction that a request-type byte encodes. -/
def ofRequestType (requestType : UInt8) : Direction :=
  if requestType &&& inBit ≠ 0 then toHost else toDevice

/-- The request type of commands in this direction. -/
def vendorRequestType : Direction → UInt8
  | toDevice => vendorBit ||| endpointBit
  | toHost => vendorBit ||| endpointBit ||| inBit

/-- The direction of a vendor request type is the one it was built for. -/
theorem ofRequestType_vendorRequestType (d : Direction) :
    ofRequestType d.vendorRequestType = d := by
  cases d <;> decide

end Direction

/-- An endpoint address names an IN endpoint when its direction bit is set. -/
def isInEndpoint (endpoint : UInt8) : Bool := endpoint &&& Direction.inBit ≠ 0

/-- The header of a control transfer. -/
structure SetupHeader where
  /-- Direction, kind and recipient of the request. -/
  requestType : UInt8
  /-- The request itself. -/
  request : UInt8
  /-- The first argument of the request. -/
  value : UInt16
  /-- The second argument of the request. -/
  index : UInt16
  /-- The length of the data stage. -/
  length : UInt16
  deriving DecidableEq

namespace SetupHeader

/-- The length of an encoded header. -/
def size : Nat := 8

/-- The direction of the data stage. -/
def direction (s : SetupHeader) : Direction := Direction.ofRequestType s.requestType

/-- The eight bytes of the header. -/
def encode (s : SetupHeader) : Bytes :=
  s.requestType :: s.request :: (LittleEndian.encode 2 s.value.toNat ++
    LittleEndian.encode 2 s.index.toNat ++ LittleEndian.encode 2 s.length.toNat)

/-- Puts the header into a buffer, field by field. -/
def putInto {B : Type} [ByteBuffer B] (s : SetupHeader) (buffer : B) : Option B := do
  let buffer ← ByteBuffer.put buffer [s.requestType]
  let buffer ← ByteBuffer.put buffer [s.request]
  let buffer ← ByteBuffer.put buffer (LittleEndian.encode 2 s.value.toNat)
  let buffer ← ByteBuffer.put buffer (LittleEndian.encode 2 s.index.toNat)
  ByteBuffer.put buffer (LittleEndian.encode 2 s.length.toNat)

/-- The header at the start of a control transfer's buffer. -/
def parse : Bytes → Except WireError SetupHeader
  | requestType :: request :: v₀ :: v₁ :: i₀ :: i₁ :: l₀ :: l₁ :: _ =>
    .ok {
      requestType, request
      value := UInt16.ofNat (LittleEndian.decode [v₀, v₁])
      index := UInt16.ofNat (LittleEndian.decode [i₀, i₁])
      length := UInt16.ofNat (LittleEndian.decode [l₀, l₁]) }
  | bytes => .error (.incompletePacket size bytes.length)

/-- A header takes eight bytes. -/
@[simp] theorem length_encode (s : SetupHeader) : s.encode.length = size := by
  simp [encode, size]

end SetupHeader

end LogicCapture
