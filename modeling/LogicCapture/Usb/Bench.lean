/-
A test bench: a transport whose device follows a script.  The script says how
the device answers control transfers, what each event pass does and which
chunks arrive on the bulk endpoint; the bench records what the host did.

* `Bench`: the state of the bench, script and records;
* `Bench.settleAll`: which transfers complete in a pass, and with what;
* `Bench.deliver`: the handler calls of a pass, with the resubmissions they
  ask for;
* `Bench.Cue`: the entries of a script.
-/
import LogicCapture.Usb.Transport
import LogicCapture.Wire.Command
import LogicCapture.Wire.Setup

namespace LogicCapture

variable {H : Type}

namespace Bench

/-- How the device answers a control transfer. -/
inductive Reply where
  /-- Complete normally; a transfer to the host receives these bytes. -/
  | respond (data : Bytes)
  /-- Complete with this status. -/
  | status (status : TransferStatus)
  /-- Refuse the submission. -/
  | reject (error : UsbError)
  /-- Stay pending until cancelled. -/
  | hang
  deriving DecidableEq

/-- What one event pass does. -/
inductive Event where
  /-- Complete every transfer that can complete. -/
  | dispatch
  /-- Fail without completing anything. -/
  | fail (error : UsbError)
  /-- Unplug the device. -/
  | detach
  deriving DecidableEq

/-- A control transfer as the device saw it. -/
structure ControlRecord where
  setup : SetupHeader
  /-- The data stage of a transfer to the device, empty for the other direction. -/
  data : Bytes
  timeoutMs : Nat
  deriving DecidableEq

/-- A transfer that has been submitted and has not completed. -/
structure InFlight (H : Type) where
  id : TransferId
  kind : TransferKind
  buffer : Bytes
  handler : H
  /-- The device's answer to a control transfer; a rearmed one has none. -/
  reply : Option Reply
  /-- A cancellation has been requested. -/
  cancelled : Bool

end Bench

/-- The state of a test bench. -/
structure Bench (H : Type) where
  /-- The device is plugged in. -/
  attached : Bool := true
  /-- The transfers handed out so far; their ids are the numbers below it. -/
  allocated : Nat := 0
  /-- The transfers taken back, in order. -/
  freed : List TransferId := []
  /-- Once this many transfers have been handed out, allocation fails. -/
  failAllocAt : Option Nat := none
  /-- The submission with this number fails with this error. -/
  failSubmitAt : Option (Nat × UsbError) := none
  /-- The submissions so far, refused ones and resubmissions included. -/
  submissions : Nat := 0
  inFlight : List (Bench.InFlight H) := []
  /-- The control transfers that the device saw, in order. -/
  controlLog : List Bench.ControlRecord := []
  /-- The answers to the next control transfers. -/
  replies : List Bench.Reply := []
  /-- What the next event passes do. -/
  script : List Bench.Event := []
  /-- The data of the next bulk transfers to complete. -/
  chunks : List Bytes := []
  eventsHandled : Nat := 0
  cancelRequests : Nat := 0
  /-- The interfaces that the host holds, in the order in which it claimed them. -/
  claimed : List UInt8 := []
  /-- The interfaces that the host tried to give back, in order. -/
  releaseAttempts : List UInt8 := []
  claimError : Option UsbError := none
  releaseError : Option UsbError := none

namespace Bench

/-! ### What the bench recorded -/

/-- The commands that control transfers to the device carried, in order. -/
def commands (b : Bench H) : List CommandPacket :=
  (b.controlLog.filter fun r => r.setup.direction = .toDevice).filterMap fun r =>
    (CommandPacket.decode r.data).toOption

/-- The number of bulk transfers in flight. -/
def bulkInFlight (b : Bench H) : Nat := (b.inFlight.filter fun t => t.kind.isBulk).length

/-- How often a transfer was taken back that had been taken back before. -/
def doubleFrees (b : Bench H) : Nat := b.freed.length - b.freed.eraseDups.length

/-! ### Allocation, submission, cancellation -/

/-- Hands out the next transfer, unless the script has run out of them. -/
def alloc (b : Bench H) : Except UsbError TransferId × Bench H :=
  if b.failAllocAt = some b.allocated then (.error .noMemory, b)
  else (.ok b.allocated, { b with allocated := b.allocated + 1 })

/-- The error with which the script refuses the next submission. -/
def refusal (b : Bench H) : Option UsbError :=
  match b.failSubmitAt with
  | some (number, error) => if number = b.submissions then some error else none
  | none => none

/-- The device's answer to the next control transfer. -/
def nextReply (b : Bench H) : Reply := b.replies.head?.getD (.respond [])

/-- Puts a transfer in flight. -/
def arm (b : Bench H) (t : InFlight H) : Bench H := { b with inFlight := b.inFlight ++ [t] }

/-- Arms a transfer.  A control transfer takes the device's next answer at once. -/
def submit (b : Bench H) (id : TransferId) (request : TransferRequest) (handler : H) :
    Except UsbError Unit × Bench H :=
  let refused := b.refusal
  let b := { b with submissions := b.submissions + 1 }
  match refused with
  | some error => (.error error, b)
  | none =>
    if b.inFlight.any fun t => t.id = id then (.error .busy, b)
    else
      match request.kind with
      | .bulkIn endpoint =>
        (.ok (), b.arm ⟨id, .bulkIn endpoint, request.buffer, handler, none, false⟩)
      | .control =>
        match SetupHeader.parse request.buffer with
        | .error _ => (.error .invalidParam, b)
        | .ok setup =>
          let data := match setup.direction with
            | .toDevice => request.buffer.drop SetupHeader.size
            | .toHost => []
          let reply := b.nextReply
          let b := { b with
            controlLog := b.controlLog ++ [⟨setup, data, request.timeoutMs⟩]
            replies := b.replies.tail }
          match reply with
          | .reject error => (.error error, b)
          | reply => (.ok (), b.arm ⟨id, .control, request.buffer, handler, some reply, false⟩)

/-- Marks the first transfer with this id whose cancellation has not been requested. -/
def markCancelled (id : TransferId) : List (InFlight H) → Option (List (InFlight H))
  | [] => none
  | t :: rest =>
    if t.id = id ∧ t.cancelled = false then some ({ t with cancelled := true } :: rest)
    else (markCancelled id rest).map (t :: ·)

/-- Requests the cancellation of a transfer in flight. -/
def cancel (b : Bench H) (id : TransferId) : Except UsbError Unit × Bench H :=
  let b := { b with cancelRequests := b.cancelRequests + 1 }
  match markCancelled id b.inFlight with
  | some inFlight => (.ok (), { b with inFlight })
  | none => (.error .notFound, b)

/-- Takes a transfer back; if it was in flight, its handler is dropped. -/
def free (b : Bench H) (id : TransferId) : Bench H :=
  { b with
    inFlight := b.inFlight.filter fun t => t.id ≠ id
    freed := b.freed ++ [id] }

/-! ### Event passes -/

/-- How a control transfer is answered, if its reply lets it complete. -/
def answer (t : InFlight H) : Option (InFlight H × Completion) :=
  match t.reply with
  | some (.respond data) =>
    match Direction.ofRequestType (t.buffer.headD 0) with
    | .toHost =>
      some ({ t with buffer := overwrite t.buffer SetupHeader.size data },
        ⟨.completed, data.take (t.buffer.length - SetupHeader.size)⟩)
    | .toDevice => some (t, ⟨.completed, t.buffer.drop SetupHeader.size⟩)
  | some (.status status) => some (t, ⟨status, []⟩)
  | _ => none

/-- How a transfer ends in this pass, if it does, and the chunks that remain. -/
def settle (t : InFlight H) (chunks : List Bytes) :
    Option (InFlight H × Completion) × List Bytes :=
  if t.cancelled then (some (t, ⟨.cancelled, []⟩), chunks)
  else
    match t.kind with
    | .control => (answer t, chunks)
    | .bulkIn _ =>
      match chunks with
      | [] => (none, [])
      | chunk :: rest =>
        (some ({ t with buffer := overwrite t.buffer 0 chunk },
          ⟨.completed, chunk.take t.buffer.length⟩), rest)

/-- The transfers that complete in this pass with their completions, those that
stay in flight, and the chunks that remain. -/
def settleAll : List (InFlight H) → List Bytes →
    List (InFlight H × Completion) × List (InFlight H) × List Bytes
  | [], chunks => ([], [], chunks)
  | t :: rest, chunks =>
    let (ending, chunks) := settle t chunks
    let (ready, pending, chunks) := settleAll rest chunks
    match ending with
    | some ended => (ended :: ready, pending, chunks)
    | none => (ready, t :: pending, chunks)

/-- Calls the handlers of the completed transfers in order and arms those again
that ask for it.  A handler whose resubmission the script refuses is called once
more with `Completion.refused`. -/
def deliver : List (InFlight H × Completion) → Bench H → Pass (Bench H) H
  | [], b => .done (.ok ()) b
  | (t, completion) :: rest, b =>
    .call t.handler completion fun rearm handler =>
      if rearm.honoured completion.status then
        let refused := b.refusal
        let b := { b with submissions := b.submissions + 1 }
        match refused with
        | some _ => .call handler .refused fun _ _ => deliver rest b
        | none => deliver rest (b.arm { t with handler, reply := none, cancelled := false })
      else deliver rest b

/-- One event pass, as the script has it. -/
def events (b : Bench H) : Pass (Bench H) H :=
  let event := b.script.head?.getD .dispatch
  let b := { b with eventsHandled := b.eventsHandled + 1, script := b.script.tail }
  match event with
  | .fail error => .done (.error error) b
  | .detach => .done (.ok ()) { b with attached := false }
  | .dispatch =>
    let (ready, pending, chunks) := settleAll b.inFlight b.chunks
    deliver ready { b with inFlight := pending, chunks }

/-! ### Interfaces -/

/-- Claims an interface; claiming it again changes nothing. -/
def claim (b : Bench H) (interface : UInt8) : Except UsbError Unit × Bench H :=
  match b.claimError with
  | some error => (.error error, b)
  | none =>
    if b.claimed.contains interface then (.ok (), b)
    else (.ok (), { b with claimed := b.claimed ++ [interface] })

/-- Gives back an interface that the host holds. -/
def release (b : Bench H) (interface : UInt8) : Except UsbError Unit × Bench H :=
  let b := { b with releaseAttempts := b.releaseAttempts ++ [interface] }
  match b.releaseError with
  | some error => (.error error, b)
  | none =>
    if b.claimed.contains interface then
      (.ok (), { b with claimed := b.claimed.erase interface })
    else (.error .notFound, b)

instance : Transport (Bench H) H where
  attached b := b.attached
  alloc := alloc
  submit := submit
  cancel := cancel
  free := free
  events b _ := b.events
  claim := claim
  release := release
  handlers b := b.inFlight.map (·.handler)
  patience b := b.script.length + 1

/-! ### Scripts -/

/-- An entry of a script. -/
inductive Cue where
  /-- The answer to the next control transfer. -/
  | reply (reply : Reply)
  /-- The answers to a command and to the read-back of its response. -/
  | response (data : Bytes)
  /-- What the next event pass does. -/
  | event (event : Event)
  /-- The data of the next bulk transfer to complete. -/
  | chunk (data : Bytes)
  /-- Allocation fails once this many transfers have been handed out. -/
  | failAlloc (count : Nat)
  /-- The submission with this number fails. -/
  | failSubmit (number : Nat) (error : UsbError)
  | claimError (error : UsbError)
  | releaseError (error : UsbError)
  /-- The device is unplugged at once. -/
  | detach

/-- The bench with one more entry in its script. -/
def cue (b : Bench H) : Cue → Bench H
  | .reply reply => { b with replies := b.replies ++ [reply] }
  | .response data => { b with replies := b.replies ++ [.respond [], .respond data] }
  | .event event => { b with script := b.script ++ [event] }
  | .chunk data => { b with chunks := b.chunks ++ [data] }
  | .failAlloc count => { b with failAllocAt := some count }
  | .failSubmit number error => { b with failSubmitAt := some (number, error) }
  | .claimError error => { b with claimError := some error }
  | .releaseError error => { b with releaseError := some error }
  | .detach => { b with attached := false }

end Bench

end LogicCapture
