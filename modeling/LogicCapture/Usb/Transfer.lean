/-
Transfers as their submitter and their completion handler see them: what is
asked for (`TransferRequest`), how it ended (`TransferStatus`), what the
handler is told (`Completion`) and what it wants done next (`Rearm`).
-/
import LogicCapture.Bytes
import LogicCapture.Usb.Error

namespace LogicCapture

/-- How a transfer ended. -/
inductive TransferStatus where
  | completed
  | error
  | timedOut
  | cancelled
  | stall
  | noDevice
  | overflow
  deriving DecidableEq

namespace TransferStatus

/-- Only a transfer that completed normally succeeded. -/
def toResult : TransferStatus → Except UsbError Unit
  | completed => .ok ()
  | error => .error .io
  | timedOut => .error .timeout
  | cancelled => .error .cancelled
  | stall => .error .pipe
  | noDevice => .error .noDevice
  | overflow => .error .overflow

/-- A transfer may be armed again only after it completed or timed out. -/
def allowsResubmit : TransferStatus → Bool
  | completed | timedOut => true
  | _ => false

end TransferStatus

/-- The kinds of transfer that the host submits. -/
inductive TransferKind where
  /-- A control transfer; its buffer starts with the setup header. -/
  | control
  /-- A bulk transfer that reads from an IN endpoint. -/
  | bulkIn (endpoint : UInt8)
  deriving DecidableEq

namespace TransferKind

/-- Bulk transfers, as against control transfers. -/
def isBulk : TransferKind → Bool
  | control => false
  | bulkIn _ => true

end TransferKind

/-- What a transport needs to arm a transfer. -/
structure TransferRequest where
  kind : TransferKind
  /-- The transfer owns the buffer until its completion has been handled. -/
  buffer : Bytes
  /-- The timeout in milliseconds; zero waits forever. -/
  timeoutMs : Nat
  deriving DecidableEq

/-- A finished transfer as its completion handler sees it. -/
structure Completion where
  status : TransferStatus
  /-- The bytes of the data stage, without setup header. -/
  data : Bytes
  deriving DecidableEq

/-- The completion that reports a refused resubmission. -/
def Completion.refused : Completion := ⟨.error, []⟩

/-- What a completion handler wants done with its transfer. -/
inductive Rearm where
  /-- Submit the same transfer and buffer again. -/
  | resubmit
  /-- Leave the transfer idle. -/
  | release
  deriving DecidableEq

/-- A transport arms a transfer again when its handler asks for it and its
status allows it. -/
def Rearm.honoured (rearm : Rearm) (status : TransferStatus) : Bool :=
  rearm = .resubmit && status.allowsResubmit

/-- The name by which a transport hands out a transfer. -/
abbrev TransferId := Nat

end LogicCapture
