/-
What can be wrong with bytes that should hold a packet, a setup header or a
response.
-/
import LogicCapture.Bytes

namespace LogicCapture

/-- A defect of a packet or of the bytes it is read from. -/
inductive WireError where
  /-- The payload of a command does not fit in one packet. -/
  | payloadTooLarge (size max : Nat)
  /-- A response ends before the layout it is read as. -/
  | responseTooShort (expected actual : Nat)
  /-- A packet or setup header ends before its fixed part. -/
  | incompletePacket (expected actual : Nat)
  /-- The streaming endpoint is no IN endpoint. -/
  | unexpectedEndpoint (endpoint : UInt8)
  deriving DecidableEq

namespace WireError

/-- The text that reports a wire error. -/
def message : WireError → String
  | payloadTooLarge size max => s!"Payload too large: {size} bytes (max: {max})"
  | responseTooShort expected actual =>
    s!"Response too short: expected {expected} bytes, got {actual}"
  | incompletePacket expected actual =>
    s!"Incomplete packet: expected at least {expected} bytes, got {actual}"
  | unexpectedEndpoint endpoint =>
    s!"Unexpected streaming endpoint 0x{hexPadded 2 endpoint.toNat}"

end WireError

end LogicCapture
