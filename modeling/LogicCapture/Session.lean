/-
The host's side of a transport:

* `Handler`: the completion handlers that the host submits, one kind for
  control transfers and one for the slots of a streaming pool;
* `Host`: what completions leave behind, namely the reply to the control
  transfer that is waited for, the slots that are still armed, and a state
  shared by the streaming handlers;
* `Session`: a transport and the host that uses it;
* `Session.events`: one event pass with its handler calls.
-/
import LogicCapture.Usb.Transport

namespace LogicCapture

variable {τ κ ω : Type}

/-- Streaming handlers `κ` that act on a shared state `ω`. -/
class Consumer (κ : Type) (ω : Type) where
  /-- The verdict on a completion, the handler's next state and the shared state after it. -/
  consume : Reaction κ ω

/-- A completion handler that the host submits. -/
inductive Handler (κ : Type) where
  /-- Reports the completion of the control transfer with this number. -/
  | control (ticket : Nat)
  /-- Consumes the completions of the pool slot with this key. -/
  | slot (key : Nat) (consumer : κ)

/-- What completions leave behind for the host. -/
structure Host (ω : Type) where
  /-- The number of the latest control transfer. -/
  ticket : Nat := 0
  /-- The completion of that control transfer, once it has come. -/
  reply : Option Completion := none
  /-- The keys of the pool slots that the transport still owns. -/
  armed : List Nat := []
  /-- The state that the streaming handlers share. -/
  shared : ω

namespace Host

/-- Opens a new control transfer; replies to earlier ones no longer count. -/
def expect (h : Host ω) : Host ω := { h with ticket := h.ticket + 1, reply := none }

/-- Records the completion of a control transfer, if it is the one waited for and
has not been reported yet. -/
def note (h : Host ω) (ticket : Nat) (completion : Completion) : Host ω :=
  if ticket = h.ticket ∧ h.reply = none then { h with reply := some completion } else h

/-- Marks a slot as owned by the transport. -/
def arm (h : Host ω) (key : Nat) : Host ω := { h with armed := h.armed.insert key }

/-- Marks a slot as idle. -/
def disarm (h : Host ω) (key : Nat) : Host ω := { h with armed := h.armed.filter (· ≠ key) }

/-- Whether the transport still owns a slot. -/
def isArmed (h : Host ω) (key : Nat) : Bool := h.armed.contains key

end Host

/-- Handles a completion.  A control handler reports and lets go; a slot's
handler asks its consumer and marks the slot idle unless it is armed again. -/
def Handler.react [Consumer κ ω] : Reaction (Handler κ) (Host ω)
  | .control ticket, completion, host => (.release, .control ticket, host.note ticket completion)
  | .slot key consumer, completion, host =>
    let (rearm, consumer, shared) := Consumer.consume consumer completion host.shared
    let host := { host with shared }
    (rearm, .slot key consumer,
      if rearm.honoured completion.status then host else host.disarm key)

/-- A transport and the host that uses it. -/
structure Session (τ ω : Type) where
  transport : τ
  host : Host ω

namespace Session

/-- A session in which nothing has been submitted yet. -/
def start (transport : τ) (shared : ω) : Session τ ω := ⟨transport, { shared }⟩

variable [Transport τ (Handler κ)] [Consumer κ ω]

/-- One event pass of at most `timeoutMs` milliseconds. -/
def events (s : Session τ ω) (timeoutMs : Nat) : Except UsbError Unit × Session τ ω :=
  let (result, transport, host) :=
    (Transport.events s.transport timeoutMs).run Handler.react s.host
  (result, { transport, host })

/-- The transport holds no handler for the latest control transfer any more. -/
def isAbandoned (s : Session τ ω) : Bool :=
  (Transport.handlers s.transport).all fun
    | .control ticket => ticket ≠ s.host.ticket
    | .slot _ _ => true

end Session

end LogicCapture
