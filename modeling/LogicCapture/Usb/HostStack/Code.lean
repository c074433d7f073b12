/-
The return codes and status codes of a host's USB stack, and the errors and
statuses that they stand for.

* `UsbError.ofCode`, `TransferStatus.ofCode`: codes of the calls on transfers;
* `StackError`: the failures of all other calls, by name.
-/
import LogicCapture.Usb.Transfer

namespace LogicCapture

/-- The error that a failed call on a transfer stands for. -/
def UsbError.ofCode (code : Int) : UsbError :=
  match code with
  | -1 => io
  | -2 => invalidParam
  | -3 => access
  | -4 => noDevice
  | -5 => notFound
  | -6 => busy
  | -7 => timeout
  | -8 => overflow
  | -9 => pipe
  | -10 => interrupted
  | -11 => noMemory
  | -12 => notSupported
  | code => other s!"libusb error {code}"

/-- The status that a transfer's status code stands for. -/
def TransferStatus.ofCode (code : Int) : TransferStatus :=
  match code with
  | 0 => completed
  | 2 => timedOut
  | 3 => cancelled
  | 4 => stall
  | 5 => noDevice
  | 6 => overflow
  | _ => error

/-- A failed call on the stack itself or on a device. -/
inductive StackError where
  | io
  | invalidParam
  | access
  | noDevice
  | notFound
  | busy
  | timeout
  | overflow
  | pipe
  | interrupted
  | noMemory
  | notSupported
  | badDescriptor
  | other
  deriving DecidableEq

namespace StackError

/-- The failure that a return code stands for. -/
def ofCode (code : Int) : StackError :=
  match code with
  | -1 => io
  | -2 => invalidParam
  | -3 => access
  | -4 => noDevice
  | -5 => notFound
  | -6 => busy
  | -7 => timeout
  | -8 => overflow
  | -9 => pipe
  | -10 => interrupted
  | -11 => noMemory
  | -12 => notSupported
  | _ => other

/-- The USB error that reports the failure. -/
def toUsbError : StackError → UsbError
  | io => .io
  | invalidParam => .invalidParam
  | access => .access
  | noDevice => .noDevice
  | notFound => .notFound
  | busy => .busy
  | timeout => .timeout
  | overflow => .overflow
  | pipe => .pipe
  | interrupted => .interrupted
  | noMemory => .noMemory
  | notSupported => .notSupported
  | badDescriptor => .other "Malformed descriptor"
  | other => .other "Other error"

end StackError

/-- The USB error for the return code of a call on the stack or on a device. -/
def UsbError.ofStackCode (code : Int) : UsbError := (StackError.ofCode code).toUsbError

end LogicCapture
