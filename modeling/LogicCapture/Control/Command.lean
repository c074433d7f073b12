/-
Commands: a packet goes out in one control transfer, and a response, if one is
wanted, is read back in another.

* `Session.execute`: sends a packet and reads its response;
* `Session.readCoreString`: reads one of the device's identity strings.
-/
import LogicCapture.Control.Transfer
import LogicCapture.Text.Utf8
import LogicCapture.Wire.Command

namespace LogicCapture

variable {τ κ ω : Type}

/-- What a command came to: the length of its response, and the caller's
response buffer afterwards. -/
structure CommandResult where
  result : Except UsbError Nat
  response : Option Bytes

/-- The text of an identity string: it ends with the bytes received or before the
first zero byte, and bytes that are not UTF-8 are replaced. -/
def identityText (received : Bytes) : String := Utf8.decodeLossy (received.takeWhile (· ≠ 0))

namespace Session

variable [Transport τ (Handler κ)] [Consumer κ ω]

/-- Sends a packet.  Without a response buffer, or with an empty one, the device
is told to queue no response and the result is zero; else the response is read
back. -/
def execute (s : Session τ ω) (packet : CommandPacket) (response : Option Bytes)
    (timeoutMs : Nat) : Option (CommandResult × Session τ ω) := do
  let wanted := response.filter fun buffer => !buffer.isEmpty
  let flags := if wanted.isSome then 0 else Protocol.skipResponse
  let (sent, s) ← s.controlTransfer Protocol.requestNumber Protocol.valueExecute flags
    (.send packet.encode) timeoutMs
  match sent.result, wanted with
  | .error error, _ => return (⟨.error error, response⟩, s)
  | .ok _, none => return (⟨.ok 0, response⟩, s)
  | .ok _, some buffer =>
    let (received, s) ← s.controlTransfer Protocol.requestNumber Protocol.valueExecute 0
      (.receive buffer) timeoutMs
    return (⟨received.result, some received.bytes⟩, s)

/-- Reads a string of the core class; any failure gives no string. -/
def readCoreString (s : Session τ ω) (verb : UInt32) (timeoutMs : Nat) :
    Option (Option String × Session τ ω) := do
  let (answer, s) ← s.execute (.headerOnly Protocol.classCore verb)
    (some (zeros Protocol.maxStringLength)) timeoutMs
  match answer.result with
  | .error _ => return (none, s)
  | .ok length => return (some (identityText ((answer.response.getD []).take length)), s)

/-- Reads the firmware version. -/
def version (s : Session τ ω) (timeoutMs : Nat) : Option (Option String × Session τ ω) :=
  s.readCoreString Protocol.verbReadVersion timeoutMs

/-- Reads the serial number of the board. -/
def serialNumber (s : Session τ ω) (timeoutMs : Nat) : Option (Option String × Session τ ω) :=
  s.readCoreString Protocol.verbReadSerial timeoutMs

end Session

end LogicCapture
