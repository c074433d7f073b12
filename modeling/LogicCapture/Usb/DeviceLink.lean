/-
An open device on a host's USB stack, as a transport.

* `DeviceLink.connect`, `DeviceLink.close`: the life of a link;
* `DeviceLink.submit`: a transfer is handed to the stack and its handler kept
  until it completes;
* `DeviceLink.deliver`: the handler calls of an event pass.

A transfer that is given back while the stack still owns it is not freed: the
stack goes on using it, and its handler is still called.
-/
import LogicCapture.Usb.HostStack
import LogicCapture.Usb.Transport

namespace LogicCapture

variable {H : Type}

namespace DeviceLink

/-- A transfer that the stack owns, as the link keeps it. -/
structure Owned (H : Type) where
  submission : HostStack.Submission
  handler : H

end DeviceLink

/-- An open device. -/
structure DeviceLink (H : Type) where
  stack : HostStack
  /-- Nothing has shown yet that the device is gone. -/
  attached : Bool := true
  /-- The claimed interfaces, in ascending order. -/
  claimed : List UInt8 := []
  /-- The transfers submitted and not yet completed. -/
  owned : List (DeviceLink.Owned H) := []

namespace DeviceLink

/-! ### Opening and closing -/

/-- Opens the first device with these ids; a failure leaves the stack shut down. -/
def connect (stack : HostStack) (vendor product : UInt16) :
    Except (UsbError × HostStack) (DeviceLink H) :=
  match stack.init with
  | (code, stack) =>
    if code ≠ 0 then .error (.ofStackCode code, stack)
    else
      match stack.openDevice vendor product with
      | (false, stack) => .error (.notFound, stack.exit)
      | (true, stack) => .ok { stack := stack.setAutoDetach }

/-- Gives the claimed interfaces back, closes the device and shuts the stack down. -/
def close (l : DeviceLink H) : HostStack :=
  (l.claimed.foldl (fun stack interface => (stack.release interface).2) l.stack).close.exit

/-! ### Device loss -/

/-- Remembers that the device is gone, if the error says so. -/
def noteError (l : DeviceLink H) (error : UsbError) : DeviceLink H :=
  if error = .noDevice then { l with attached := false } else l

/-- Remembers that the device is gone, if the status says so. -/
def noteStatus (l : DeviceLink H) (status : TransferStatus) : DeviceLink H :=
  if status = .noDevice then { l with attached := false } else l

/-! ### Transfers -/

/-- The transfer is in the keeping of the stack. -/
def owns (l : DeviceLink H) (id : TransferId) : Bool := l.owned.any fun t => t.submission.id = id

/-- The link without the transfer. -/
def forget (l : DeviceLink H) (id : TransferId) : DeviceLink H :=
  { l with owned := l.owned.filter fun t => t.submission.id ≠ id }

/-- Obtains a transfer from the stack. -/
def alloc (l : DeviceLink H) : Except UsbError TransferId × DeviceLink H :=
  match l.stack.alloc with
  | (some id, stack) => (.ok id, { l with stack })
  | (none, stack) => (.error .noMemory, { l with stack })

/-- Gives an idle transfer back to the stack; one in flight is left to it. -/
def free (l : DeviceLink H) (id : TransferId) : DeviceLink H :=
  if l.owns id then l else { l with stack := l.stack.free id }

/-- The largest buffer that the stack's length field can express. -/
def maxLength : Nat := 2147483647

/-- The largest timeout that the stack's timeout field can express. -/
def maxTimeoutMs : Nat := UInt32.size - 1

/-- A request as the stack is told about it.  The length of a control transfer is
the one that its setup header announces. -/
def submission (id : TransferId) (request : TransferRequest) : HostStack.Submission where
  id
  kind := request.kind
  length := match request.kind with
    | .bulkIn _ => request.buffer.length
    | .control => SetupHeader.size + LittleEndian.decode ((request.buffer.drop 6).take 2)
  timeoutMs := min request.timeoutMs maxTimeoutMs
  buffer := request.buffer

/-- Hands a transfer to the stack. -/
def submit (l : DeviceLink H) (id : TransferId) (request : TransferRequest) (handler : H) :
    Except UsbError Unit × DeviceLink H :=
  if l.owns id then (.error .busy, l)
  else if maxLength < request.buffer.length then (.error .invalidParam, l)
  else
    let submission := submission id request
    match l.stack.submit submission with
    | (code, stack) =>
      if code < 0 then
        (.error (.ofCode code), { l with stack }.noteError (.ofCode code))
      else (.ok (), { l with stack, owned := l.owned ++ [⟨submission, handler⟩] })

/-- Requests the cancellation of a transfer in flight. -/
def cancel (l : DeviceLink H) (id : TransferId) : Except UsbError Unit × DeviceLink H :=
  if !l.owns id then (.error .notFound, l)
  else
    match l.stack.cancel id with
    | (code, stack) =>
      (if code < 0 then .error (.ofCode code) else .ok (), { l with stack })

/-! ### Event passes -/

/-- The first `actual` bytes of a transfer's data stage, as far as it reaches. -/
def received (submission : HostStack.Submission) (actual : Int) : Bytes :=
  (submission.buffer.drop submission.offset).take actual.toNat

/-- Calls the handlers of the settled transfers in order and hands those to the
stack again that ask for it; a handler whose resubmission the stack refuses is
called once more with `Completion.refused`.  The pass ends with the stack's code. -/
def deliver (code : Int) : List HostStack.Settled → DeviceLink H → Pass (DeviceLink H) H
  | [], l =>
    if code < 0 then .done (.error (.ofStackCode code)) (l.noteError (.ofStackCode code))
    else .done (.ok ()) l
  | settled :: rest, l =>
    let l := { l with stack := l.stack.note (.complete settled.id settled.status) }
    match l.owned.find? fun t => t.submission.id = settled.id with
    | none => deliver code rest l
    | some t =>
      let status := TransferStatus.ofCode settled.status
      let l := l.noteStatus status
      let buffer := overwrite t.submission.buffer t.submission.offset settled.written
      let submission := { t.submission with buffer }
      .call t.handler ⟨status, received submission settled.actual⟩ fun rearm handler =>
        let l := l.forget settled.id
        if rearm.honoured status then
          match l.stack.submit submission with
          | (resubmitted, stack) =>
            if resubmitted = 0 then
              deliver code rest { l with stack, owned := l.owned ++ [⟨submission, handler⟩] }
            else
              .call handler .refused fun _ _ =>
                deliver code rest ({ l with stack }.noteError (.ofCode resubmitted))
        else deliver code rest l

/-- One event pass of the stack. -/
def events (l : DeviceLink H) (timeoutMs : Nat) : Pass (DeviceLink H) H :=
  match l.stack.poll timeoutMs with
  | (code, settled, stack) => deliver code settled { l with stack }

/-! ### Interfaces -/

/-- Adds an interface to an ascending list. -/
def insertInterface (interface : UInt8) : List UInt8 → List UInt8
  | [] => [interface]
  | i :: rest =>
    if interface < i then interface :: i :: rest
    else if interface = i then i :: rest
    else i :: insertInterface interface rest

/-- Claims an interface and remembers it. -/
def claim (l : DeviceLink H) (interface : UInt8) : Except UsbError Unit × DeviceLink H :=
  match l.stack.claim interface with
  | (code, stack) =>
    if code ≠ 0 then
      (.error (.ofStackCode code), { l with stack }.noteError (.ofStackCode code))
    else (.ok (), { l with stack, claimed := insertInterface interface l.claimed })

/-- Gives an interface back and forgets it. -/
def release (l : DeviceLink H) (interface : UInt8) : Except UsbError Unit × DeviceLink H :=
  match l.stack.release interface with
  | (code, stack) =>
    if code ≠ 0 then (.error (.ofStackCode code), { l with stack })
    else (.ok (), { l with stack, claimed := l.claimed.filter (· ≠ interface) })

/-- The passes after which the stack must have given up: those with a scripted
code, those in which a transfer completes, and the idle ones after each of them. -/
def patience (l : DeviceLink H) : Nat :=
  l.stack.eventCodes.length +
    (l.stack.bulkReplies.length + l.stack.arrivals.length + l.stack.inFlight.length + 1) *
      (HostStack.idleLimit + 1) + 1

instance : Transport (DeviceLink H) H where
  attached l := l.attached
  alloc := alloc
  submit := submit
  cancel := cancel
  free := free
  events := events
  claim := claim
  release := release
  handlers l := l.owned.map (·.handler)
  patience := patience

end DeviceLink

end LogicCapture
