/-
What can go wrong while samples are captured, and the phases of a capture that
some of these errors name.
-/
import LogicCapture.Usb.Error
import LogicCapture.Wire.Error

namespace LogicCapture

/-- Where an analyzer is between one acquisition and the next. -/
inductive Phase where
  | idle
  | configuring
  | configured
  | streaming
  | stopping
  deriving DecidableEq

/-- The word for a phase. -/
def Phase.name : Phase → String
  | idle => "idle"
  | configuring => "configuring"
  | configured => "configured"
  | streaming => "streaming"
  | stopping => "stopping"

/-- A failure of the analyzer. -/
inductive CaptureError where
  /-- A command could not be executed. -/
  | command (name : String) (cause : UsbError)
  | usb (cause : UsbError)
  | wire (cause : WireError)
  /-- The operation is not possible in this phase. -/
  | invalidPhase (operation : String) (phase : Phase)
  /-- Transfers of an earlier acquisition are still armed. -/
  | transfersPending (armed : Nat)
  | invalidSettings (reason : String)
  | io (detail : String)
  deriving DecidableEq

namespace CaptureError

/-- The text that reports a capture error. -/
def message : CaptureError → String
  | command name cause => s!"{name} command failed: {cause.message}"
  | usb cause => s!"USB error: {cause.message}"
  | wire cause => s!"Protocol error: {cause.message}"
  | invalidPhase operation phase => s!"Cannot {operation} while {phase.name}"
  | transfersPending armed => s!"{armed} streaming transfers are still armed"
  | invalidSettings reason => s!"Invalid settings: {reason}"
  | io detail => s!"IO error: {detail}"

/-- The texts of the causes behind an error, outermost first. -/
def causes : CaptureError → List String
  | command _ cause | usb cause => [cause.message]
  | wire cause => [cause.message]
  | io detail => [detail]
  | _ => []

/-- The USB error behind a capture error, if there is one. -/
def usbError? : CaptureError → Option UsbError
  | command _ cause | usb cause => some cause
  | _ => none

/-- The device asks for the command to be sent again later. -/
def isBusy (e : CaptureError) : Bool := e.usbError?.any UsbError.isBusy

end CaptureError

end LogicCapture
