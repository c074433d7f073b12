/-
The seam between the host's logic and whatever carries its transfers:

* `Pass`: one pass of event processing, as a tree of handler calls.  The
  transport hands over a handler and a completion, and goes on with the
  handler's verdict and next state;
* `Pass.run`: runs a pass against handlers that act on a state of the host;
* `Transport`: what a transport offers.

A handler is a piece of data.  The transport only stores it and hands it back,
and handlers never act on the transport, so a pass and the host's state meet in
`Pass.run` alone.
-/
import LogicCapture.Usb.Transfer

namespace LogicCapture

variable {τ H σ : Type}

/-- One pass of event processing over the transport states `τ` with handlers `H`. -/
inductive Pass (τ H : Type) where
  /-- The pass is over. -/
  | done (result : Except UsbError Unit) (transport : τ)
  /-- A handler is called; the pass goes on with its verdict and next state. -/
  | call (handler : H) (completion : Completion) (resume : Rearm → H → Pass τ H)

/-- How handlers answer a completion: the verdict, the handler's next state and
what becomes of the host's state. -/
abbrev Reaction (H σ : Type) := H → Completion → σ → Rearm × H × σ

/-- Runs a pass, letting every call act on the host's state. -/
def Pass.run (react : Reaction H σ) : Pass τ H → σ → Except UsbError Unit × τ × σ
  | done result transport, s => (result, transport, s)
  | call handler completion resume, s =>
    let (rearm, handler, s) := react handler completion s
    (resume rearm handler).run react s

/-- A transport with states `τ` that keeps a handler in `H` for every transfer
it has in flight. -/
class Transport (τ : Type) (H : outParam Type) where
  /-- False once the device has gone away. -/
  attached : τ → Bool
  /-- Hands out an idle transfer. -/
  alloc : τ → Except UsbError TransferId × τ
  /-- Arms a transfer; its handler runs once it completes. -/
  submit : τ → TransferId → TransferRequest → H → Except UsbError Unit × τ
  /-- Asks for a transfer to be cancelled; its handler later sees `cancelled`. -/
  cancel : τ → TransferId → Except UsbError Unit × τ
  /-- Takes a transfer back. -/
  free : τ → TransferId → τ
  /-- Processes pending events for at most the given number of milliseconds. -/
  events : τ → Nat → Pass τ H
  /-- Claims an interface of the device. -/
  claim : τ → UInt8 → Except UsbError Unit × τ
  /-- Gives an interface back. -/
  release : τ → UInt8 → Except UsbError Unit × τ
  /-- The handlers that the transport still holds and may call. -/
  handlers : τ → List H
  /-- A number of passes after which a caller that still waits waits forever. -/
  patience : τ → Nat

end LogicCapture
