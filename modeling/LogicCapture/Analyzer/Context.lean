/-
What the host asks of one device and what the device has agreed to.
-/
import LogicCapture.Stream.Format
import LogicCapture.Wire.Configure

namespace LogicCapture

/-- The requested and the negotiated parameters of one device. -/
structure DeviceContext where
  /-- The rate to ask for in the next configure. -/
  sampleRateHz : Nat
  /-- The channels to ask for in the next configure. -/
  numChannels : UInt8
  /-- What the device agreed to in the last successful configure. -/
  negotiated : Option ConfigureResponse := none
  deriving DecidableEq

namespace DeviceContext

/-- Records what the device agreed to. -/
def apply (c : DeviceContext) (response : ConfigureResponse) : DeviceContext :=
  { c with negotiated := some response }

/-- Forgets what the device agreed to. -/
def clear (c : DeviceContext) : DeviceContext := { c with negotiated := none }

/-- The layout of the sample stream, once a configure has succeeded. -/
def streamFormat (c : DeviceContext) : Option StreamFormat :=
  c.negotiated.map fun response => ⟨response.achievedRateHz, c.numChannels, response.endpoint⟩

end DeviceContext

end LogicCapture
