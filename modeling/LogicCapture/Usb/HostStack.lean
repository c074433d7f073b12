/-
A host's USB stack whose return codes and completions follow a script, and
which keeps a list of the calls made on it.

* `HostStack`: script, transfers in flight and calls so far;
* `HostStack.submit`, `cancel`, `poll`, …: the calls;
* `HostStack.Arrival`: a completion laid down in advance, so that a script can let transfers
  complete in any order, at any time and with any answer;
* `HostStack.Call`: a call as the list shows it, and `HostStack.callList` the
  list as text.
-/
import LogicCapture.Usb.HostStack.Code
import LogicCapture.Wire.Setup

namespace LogicCapture

namespace HostStack

/-- A transfer as it is handed to the stack. -/
structure Submission where
  id : TransferId
  kind : TransferKind
  /-- The bytes of the buffer that the stack may use. -/
  length : Nat
  timeoutMs : Nat
  buffer : Bytes
  deriving DecidableEq

namespace Submission

/-- The direction of the data stage. -/
def direction (s : Submission) : Direction :=
  match s.kind with
  | .bulkIn _ => .toHost
  | .control => Direction.ofRequestType (s.buffer.headD 0)

/-- Where the data stage begins in the buffer. -/
def offset (s : Submission) : Nat :=
  match s.kind with
  | .bulkIn _ => 0
  | .control => SetupHeader.size

/-- The room that the stack sees in the data stage. -/
def room (s : Submission) : Nat := s.length - s.offset

end Submission

/-- How a transfer is answered. -/
structure Reply where
  /-- The status code. -/
  status : Int
  /-- The number of bytes that the stack reports, if it is not the number it copied. -/
  actual : Option Int := none
  data : Bytes := []
  deriving DecidableEq

/-- A completion laid down in advance: the transfer at a place among those in flight, and
its answer. -/
structure Arrival where
  place : Nat
  reply : Reply
  deriving DecidableEq

/-- A transfer that the stack owns. -/
structure InFlight where
  submission : Submission
  /-- The answer to a control transfer; without one it never completes by itself. -/
  reply : Option Reply
  cancelled : Bool := false
  deriving DecidableEq

/-- A transfer that has completed. -/
structure Settled where
  id : TransferId
  status : Int
  actual : Int
  /-- The bytes written into the data stage of its buffer. -/
  written : Bytes
  deriving DecidableEq

/-- A call on the stack, or the completion of a transfer. -/
inductive Call where
  | init (code : Int)
  | exit
  | openDevice (vendor product : UInt16) (found : Bool)
  | close
  | autoDetach (code : Int)
  | claim (interface : UInt8) (code : Int)
  | release (interface : UInt8) (code : Int)
  | alloc (id : Option TransferId)
  | free (id : TransferId)
  | submit (submission : Submission) (code : Int)
  | cancel (id : TransferId) (code : Int)
  | events (timeoutMs : Nat) (code : Int)
  | complete (id : TransferId) (status : Int)
  deriving DecidableEq

end HostStack

/-- The state of a scripted USB stack. -/
structure HostStack where
  /-- The vendor and product ids of the devices plugged in. -/
  devices : List (UInt16 × UInt16) := []
  initCode : Int := 0
  autoDetachCode : Int := 0
  /-- The results of the next allocations; nonzero ones fail. -/
  allocCodes : List Int := []
  submitCodes : List Int := []
  cancelCodes : List Int := []
  claimCodes : List Int := []
  releaseCodes : List Int := []
  eventCodes : List Int := []
  /-- The answers to the next control transfers; `none` never comes. -/
  controlReplies : List (Option HostStack.Reply) := []
  /-- The answers to the next bulk transfers that complete. -/
  bulkReplies : List HostStack.Reply := []
  /-- The completions of the next event passes.  A pass for which none are laid down goes by the
  replies. -/
  arrivals : List (List HostStack.Arrival) := []
  inFlight : List HostStack.InFlight := []
  /-- The event passes since a transfer last completed. -/
  idlePasses : Nat := 0
  /-- The transfers handed out so far; their ids are the numbers below it. -/
  allocated : Nat := 0
  calls : List HostStack.Call := []

namespace HostStack

/-- The stack with one more call in its list. -/
def note (s : HostStack) (call : Call) : HostStack := { s with calls := s.calls ++ [call] }

/-- The next code of a queue; an empty queue stands for success. -/
def nextCode (queue : List Int) : Int := queue.head?.getD 0

/-! ### The stack and its devices -/

/-- Sets the stack up. -/
def init (s : HostStack) : Int × HostStack := (s.initCode, s.note (.init s.initCode))

/-- Shuts the stack down. -/
def exit (s : HostStack) : HostStack := s.note .exit

/-- Opens the device with these ids, if there is one. -/
def openDevice (s : HostStack) (vendor product : UInt16) : Bool × HostStack :=
  let found := s.devices.contains (vendor, product)
  (found, s.note (.openDevice vendor product found))

/-- Closes the device. -/
def close (s : HostStack) : HostStack := s.note .close

/-- Asks for kernel drivers to be detached as interfaces are claimed. -/
def setAutoDetach (s : HostStack) : HostStack := s.note (.autoDetach s.autoDetachCode)

/-- Claims an interface. -/
def claim (s : HostStack) (interface : UInt8) : Int × HostStack :=
  let code := nextCode s.claimCodes
  (code, { s with claimCodes := s.claimCodes.tail }.note (.claim interface code))

/-- Gives an interface back. -/
def release (s : HostStack) (interface : UInt8) : Int × HostStack :=
  let code := nextCode s.releaseCodes
  (code, { s with releaseCodes := s.releaseCodes.tail }.note (.release interface code))

/-! ### Transfers -/

/-- Hands out the next transfer, unless the script refuses. -/
def alloc (s : HostStack) : Option TransferId × HostStack :=
  let refused := nextCode s.allocCodes ≠ 0
  let s := { s with allocCodes := s.allocCodes.tail }
  if refused then (none, s.note (.alloc none))
  else (some s.allocated, { s with allocated := s.allocated + 1 }.note (.alloc (some s.allocated)))

/-- Takes a transfer back. -/
def free (s : HostStack) (id : TransferId) : HostStack := s.note (.free id)

/-- Takes a transfer over.  A control transfer takes its answer at once. -/
def submit (s : HostStack) (submission : Submission) : Int × HostStack :=
  let code := nextCode s.submitCodes
  let s := { s with submitCodes := s.submitCodes.tail }.note (.submit submission code)
  if code ≠ 0 then (code, s)
  else
    match submission.kind with
    | .bulkIn _ => (code, { s with inFlight := s.inFlight ++ [⟨submission, none, false⟩] })
    | .control =>
      let reply := s.controlReplies.head?.getD (some { status := 0 })
      (code, { s with
        controlReplies := s.controlReplies.tail
        inFlight := s.inFlight ++ [⟨submission, reply, false⟩] })

/-- Marks the first transfer with this id whose cancellation has not been requested. -/
def markCancelled (id : TransferId) : List InFlight → Option (List InFlight)
  | [] => none
  | t :: rest =>
    if t.submission.id = id ∧ t.cancelled = false then some ({ t with cancelled := true } :: rest)
    else (markCancelled id rest).map (t :: ·)

/-- Requests the cancellation of a transfer that the stack owns. -/
def cancel (s : HostStack) (id : TransferId) : Int × HostStack :=
  let scripted := nextCode s.cancelCodes
  let s := { s with cancelCodes := s.cancelCodes.tail }
  let (code, s) :=
    if scripted ≠ 0 then (scripted, s)
    else
      match markCancelled id s.inFlight with
      | some inFlight => (0, { s with inFlight })
      | none => (-5, s)
  (code, s.note (.cancel id code))

/-! ### Event passes -/

/-- The completion that a reply brings about. -/
def Submission.settle (t : Submission) (reply : Reply) : Settled :=
  let written := match t.direction with
    | .toHost => reply.data.take t.room
    | .toDevice => []
  let moved : Nat := match t.direction with
    | .toHost => written.length
    | .toDevice => t.room
  ⟨t.id, reply.status, reply.actual.getD moved, written⟩

/-- How a transfer ends in this pass, if it does, and the bulk replies that remain. -/
def settle (t : InFlight) (bulkReplies : List Reply) : Option Settled × List Reply :=
  if t.cancelled then (some ⟨t.submission.id, 3, 0, []⟩, bulkReplies)
  else
    match t.submission.kind with
    | .control => (t.reply.map t.submission.settle, bulkReplies)
    | .bulkIn _ => (bulkReplies.head?.map t.submission.settle, bulkReplies.tail)

/-- The transfers that complete in this pass, those that stay, and the bulk
replies that remain. -/
def settleAll : List InFlight → List Reply → List Settled × List InFlight × List Reply
  | [], bulkReplies => ([], [], bulkReplies)
  | t :: rest, bulkReplies =>
    let (ending, bulkReplies) := settle t bulkReplies
    let (settled, staying, bulkReplies) := settleAll rest bulkReplies
    match ending with
    | some ended => (ended :: settled, staying, bulkReplies)
    | none => (settled, t :: staying, bulkReplies)

/-- The transfers that complete with these arrivals, one after the other, and those that stay.
A place counts the transfers that have not completed yet; one beyond them brings nothing. -/
def settleArrivals : List Arrival → List InFlight → List Settled × List InFlight
  | [], transfers => ([], transfers)
  | arrival :: rest, transfers =>
    match transfers[arrival.place]? with
    | none => settleArrivals rest transfers
    | some t =>
      let (settled, staying) := settleArrivals rest (transfers.eraseIdx arrival.place)
      (t.submission.settle arrival.reply :: settled, staying)

/-- The transfers that complete in the next pass, those that stay, and the bulk replies that
remain. -/
def settleNext (s : HostStack) : List Settled × List InFlight × List Reply :=
  match s.arrivals with
  | [] => settleAll s.inFlight s.bulkReplies
  | arrivals :: _ =>
    let (settled, staying) := settleArrivals arrivals s.inFlight
    (settled, staying, s.bulkReplies)

/-- After this many idle passes in a row the stack gives up. -/
def idleLimit : Nat := 1000

/-- The code with which the stack gives up. -/
def idleCode : Int := -99

/-- One event pass: its code, and the transfers that completed. -/
def poll (s : HostStack) (timeoutMs : Nat) : Int × List Settled × HostStack :=
  let scripted := nextCode s.eventCodes
  let s := { s with eventCodes := s.eventCodes.tail }
  if scripted ≠ 0 then (scripted, [], s.note (.events timeoutMs scripted))
  else
    let (settled, inFlight, bulkReplies) := s.settleNext
    let idlePasses := if settled.isEmpty then s.idlePasses + 1 else 0
    let code := if idleLimit ≤ idlePasses then idleCode else 0
    (code, settled, { s with
      inFlight, bulkReplies, idlePasses
      arrivals := s.arrivals.tail }.note (.events timeoutMs code))

/-! ### The list of calls as text -/

/-- The two kinds of transfer, and the endpoint that each uses. -/
def kindText : TransferKind → String
  | .control => "control endpoint 0"
  | .bulkIn endpoint => s!"bulk endpoint {endpoint.toNat}"

/-- The part of a submitted buffer that the list shows. -/
def dataText (s : Submission) : String :=
  match s.kind, s.direction with
  | .bulkIn _, _ => "-"
  | .control, .toDevice => hexBytes s.buffer
  | .control, .toHost => hexBytes (s.buffer.take SetupHeader.size)

/-- A number of milliseconds as seconds with six decimals. -/
def secondsText (ms : Nat) : String :=
  let micros := toString (ms % 1000 * 1000)
  s!"{ms / 1000}." ++ String.ofList (List.replicate (6 - micros.length) '0') ++ micros

/-- The line for a call. -/
def Call.text : Call → String
  | init code => s!"init rc {code}"
  | exit => "exit"
  | openDevice vendor product found =>
    s!"open {vendor.toNat} {product.toNat} " ++ if found then "found" else "none"
  | close => "close"
  | autoDetach code => s!"auto_detach 1 rc {code}"
  | claim interface code => s!"claim {interface.toNat} rc {code}"
  | release interface code => s!"release {interface.toNat} rc {code}"
  | alloc (some id) => s!"alloc #{id}"
  | alloc none => "alloc none"
  | free id => s!"free #{id}"
  | submit s code =>
    s!"submit #{s.id} {kindText s.kind} timeout {s.timeoutMs} length {s.length} " ++
      s!"data {dataText s} rc {code}"
  | cancel id code => s!"cancel #{id} rc {code}"
  | events timeoutMs code => s!"events {secondsText timeoutMs} rc {code}"
  | complete id _ => s!"complete #{id}"

/-- Adds a line in front of a list in which equal neighbours are counted. -/
def countLine (line : String) : List (String × Nat) → List (String × Nat)
  | (next, n) :: rest =>
    if next = line then (next, n + 1) :: rest else (line, 1) :: (next, n) :: rest
  | [] => [(line, 1)]

/-- The lines for some calls; a run of equal lines is one line with their number. -/
def callList (calls : List Call) : List String :=
  ((calls.map Call.text).foldr countLine []).map fun (line, n) =>
    if n = 1 then line else s!"{line} x{n}"

end HostStack

end LogicCapture
