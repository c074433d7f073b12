/-
Blocking control transfers: submit one, process events until its completion has
been reported, and give the transfer back.

* `ControlData`: the data stage, bytes to send or a buffer to receive into;
* `Session.await`: waits for the completion;
* `Session.controlTransfer`: the whole transfer.

A function that waits answers `none` if it would wait forever.
-/
import LogicCapture.Session
import LogicCapture.Wire.Setup

namespace LogicCapture

variable {τ κ ω : Type}

/-- The data stage of a control transfer. -/
inductive ControlData where
  /-- Bytes for the device. -/
  | send (bytes : Bytes)
  /-- A buffer for what the device sends. -/
  | receive (buffer : Bytes)
  deriving DecidableEq

namespace ControlData

/-- The way in which the data stage travels. -/
def direction : ControlData → Direction
  | send _ => .toDevice
  | receive _ => .toHost

/-- The bytes to send, or the buffer. -/
def bytes : ControlData → Bytes
  | send bytes | receive bytes => bytes

/-- The length of the data stage. -/
def length (d : ControlData) : Nat := d.bytes.length

/-- There is no data stage. -/
def isEmpty (d : ControlData) : Bool := d.length = 0

end ControlData

/-- What a control transfer came to: the number of bytes in its data stage, and
the caller's bytes afterwards. -/
structure ControlResult where
  result : Except UsbError Nat
  bytes : Bytes

namespace Session

/-- The longest event pass while a control transfer is waited for, in milliseconds. -/
def waitPassMs : Nat := 100

/-- The failure of a control transfer whose handler was lost. -/
def droppedTransfer : UsbError := .other "control transfer dropped without completing"

variable [Transport τ (Handler κ)] [Consumer κ ω]

/-- Processes events until the latest control transfer has been reported, at most
`passes` times.  A device that goes away ends the transfer with `noDevice`; any
event error but an interruption cancels it. -/
def await (id : TransferId) : Nat → Session τ ω → Option (Except UsbError Completion × Session τ ω)
  | 0, _ => none
  | passes + 1, s =>
    match s.host.reply with
    | some completion => some (.ok completion, s)
    | none =>
      if s.isAbandoned then some (.error droppedTransfer, s)
      else if !Transport.attached s.transport then some (.ok ⟨.noDevice, []⟩, s)
      else
        match s.events waitPassMs with
        | (.ok (), s) => await id passes s
        | (.error error, s) =>
          if error.isTransient then await id passes s
          else
            let (_, transport) := Transport.cancel s.transport id
            some (.error error, { s with transport })

/-- What the caller gets out of a finished transfer. -/
def conclude (data : ControlData) : Except UsbError Completion → ControlResult
  | .error error => ⟨.error error, data.bytes⟩
  | .ok completion =>
    match completion.status.toResult with
    | .error error => ⟨.error error, data.bytes⟩
    | .ok () =>
      match data with
      | .send bytes => ⟨.ok completion.data.length, bytes⟩
      | .receive buffer =>
        ⟨.ok (min completion.data.length buffer.length), overwrite buffer 0 completion.data⟩

/-- The buffer of a control transfer: the setup header, then the data stage or
room for it. -/
def controlBuffer (setup : SetupHeader) : ControlData → Bytes
  | .send bytes => setup.encode ++ bytes
  | .receive _ => setup.encode ++ zeros setup.length.toNat

/-- The setup header of a command transfer with the given data stage. -/
def vendorSetup (request : UInt8) (value index : UInt16) (data : ControlData) : SetupHeader where
  requestType := data.direction.vendorRequestType
  request
  value
  index
  length := UInt16.ofNat data.length

/-- Performs one vendor control transfer and waits until it is over. -/
def controlTransfer (s : Session τ ω) (request : UInt8) (value index : UInt16)
    (data : ControlData) (timeoutMs : Nat) : Option (ControlResult × Session τ ω) :=
  if !Transport.attached s.transport ∨ UInt16.size ≤ data.length ∨
      (data.direction = .toHost ∧ data.isEmpty) then
    some (⟨.error .invalidParam, data.bytes⟩, s)
  else
    match Transport.alloc s.transport with
    | (.error error, transport) => some (⟨.error error, data.bytes⟩, { s with transport })
    | (.ok id, transport) =>
      let host := s.host.expect
      let setup := vendorSetup request value index data
      match Transport.submit transport id ⟨.control, controlBuffer setup data, timeoutMs⟩
        (.control host.ticket) with
      | (.error error, transport) =>
        some (⟨.error error, data.bytes⟩, ⟨Transport.free transport id, host⟩)
      | (.ok (), transport) => do
        let (outcome, s) ← await id (Transport.patience transport + 1) ⟨transport, host⟩
        return (conclude data outcome, { s with transport := Transport.free s.transport id })

end Session

end LogicCapture
