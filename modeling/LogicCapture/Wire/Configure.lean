/-
The logic analyzer's own commands: configure with its payload and response,
start and stop.
-/
import LogicCapture.Wire.Command
import LogicCapture.Wire.Setup

namespace LogicCapture

/-! ### Configure -/

/-- What the host asks of the analyzer. -/
structure ConfigurePayload where
  sampleRateHz : UInt32
  numChannels : UInt8
  deriving DecidableEq

namespace ConfigurePayload

/-- The length of an encoded configure payload. -/
def size : Nat := 5

/-- The rate as a 32-bit word, then the channel count. -/
def encode (p : ConfigurePayload) : Bytes :=
  LittleEndian.encode 4 p.sampleRateHz.toNat ++ [p.numChannels]

/-- An encoded configure payload has five bytes. -/
@[simp] theorem length_encode (p : ConfigurePayload) : p.encode.length = size := by
  simp [encode, size]

/-- The configure command that carries the payload. -/
def toPacket (p : ConfigurePayload) : CommandPacket :=
  .carrying Protocol.classLogicAnalyzer Protocol.verbConfigure p.encode
    (by simp [size, CommandPacket.maxPayload])

end ConfigurePayload

/-- What the device agreed to. -/
structure ConfigureResponse where
  /-- The sample rate that the device really uses. -/
  achievedRateHz : UInt32
  /-- The size of the device's own sample buffer in bytes. -/
  bufferSize : UInt32
  /-- The bulk endpoint that carries the samples. -/
  endpoint : UInt8
  deriving DecidableEq

namespace ConfigureResponse

/-- The length of an encoded response; a device may send padding after it. -/
def size : Nat := 9

/-- The nine bytes in which a device sends the response. -/
def encode (r : ConfigureResponse) : Bytes :=
  LittleEndian.encode 4 r.achievedRateHz.toNat ++ LittleEndian.encode 4 r.bufferSize.toNat ++
    [r.endpoint]

/-- The response at the start of a byte string. -/
def decode : Bytes → Except WireError ConfigureResponse
  | a₀ :: a₁ :: a₂ :: a₃ :: b₀ :: b₁ :: b₂ :: b₃ :: endpoint :: _ =>
    .ok {
      achievedRateHz := UInt32.ofNat (LittleEndian.decode [a₀, a₁, a₂, a₃])
      bufferSize := UInt32.ofNat (LittleEndian.decode [b₀, b₁, b₂, b₃])
      endpoint }
  | bytes => .error (.responseTooShort size bytes.length)

/-- Refuses a streaming endpoint that cannot bring samples to the host. -/
def validate (r : ConfigureResponse) : Except WireError Unit :=
  if isInEndpoint r.endpoint then .ok () else .error (.unexpectedEndpoint r.endpoint)

/-- An encoded response has nine bytes. -/
@[simp] theorem length_encode (r : ConfigureResponse) : r.encode.length = size := by
  simp [encode, size]

end ConfigureResponse

/-! ### Start and stop -/

/-- The layout of a start payload; the start command itself is sent without one. -/
structure StartPayload where
  sampleRateHz : UInt32
  deriving DecidableEq

namespace StartPayload

/-- The length of an encoded start payload. -/
def size : Nat := 4

/-- The rate as a 32-bit word. -/
def encode (p : StartPayload) : Bytes := LittleEndian.encode 4 p.sampleRateHz.toNat

end StartPayload

/-- The command that begins streaming. -/
def startPacket : CommandPacket :=
  .headerOnly Protocol.classLogicAnalyzer Protocol.verbStart

/-- The command that halts streaming. -/
def stopPacket : CommandPacket :=
  .headerOnly Protocol.classLogicAnalyzer Protocol.verbStop

end LogicCapture
