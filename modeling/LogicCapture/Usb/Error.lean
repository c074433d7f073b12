/-
What a USB transport reports when an operation fails, and the errors that wrap
it for a command-line user.
-/

namespace LogicCapture

/-- A failed USB operation. -/
inductive UsbError where
  | timeout
  | pipe
  | noDevice
  | notFound
  | busy
  | overflow
  | io
  | invalidParam
  | access
  | interrupted
  | noMemory
  | cancelled
  | notSupported
  /-- Any other failure, with its description. -/
  | other (detail : String)
  deriving DecidableEq

namespace UsbError

/-- The text that reports a USB error. -/
def message : UsbError → String
  | timeout => "Transfer timed out"
  | pipe => "Endpoint stalled"
  | noDevice => "Device disconnected"
  | notFound => "Entity not found"
  | busy => "Resource busy"
  | overflow => "Device sent more data than requested"
  | io => "Input/output error"
  | invalidParam => "Invalid parameter"
  | access => "Access denied"
  | interrupted => "System call interrupted"
  | noMemory => "Insufficient memory"
  | cancelled => "Transfer cancelled"
  | notSupported => "Operation not supported"
  | other detail => s!"USB error: {detail}"

/-- The device asks for the command to be sent again later. -/
def isBusy (e : UsbError) : Bool := e = busy

/-- Event processing may simply be tried again. -/
def isTransient (e : UsbError) : Bool := e = interrupted

end UsbError

/-- A failure outside the acquisition itself. -/
inductive SetupError where
  | usb (error : UsbError)
  | config (detail : String)
  | io (detail : String)
  deriving DecidableEq

/-- The text that reports a set-up error. -/
def SetupError.message : SetupError → String
  | usb error => s!"USB error: {error.message}"
  | config detail => s!"Configuration error: {detail}"
  | io detail => s!"IO error: {detail}"

end LogicCapture
