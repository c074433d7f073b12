/-
The settings of an acquisition and the rules that they have to keep.
-/
import LogicCapture.Bytes
import LogicCapture.Timespan

namespace LogicCapture

/-- The size of a USB bulk packet; a transfer buffer holds whole packets. -/
def bulkPacketSize : Nat := 512

/-- The most channels that the device can sample. -/
def maxChannels : UInt8 := 16

/-- What is sampled and with which resources. -/
structure AcquisitionSettings where
  /-- The sample rate to ask for. -/
  sampleRateHz : Nat := 1000000
  /-- The number of channels to capture. -/
  numChannels : UInt8 := 8
  /-- The number of bulk transfers kept in flight. -/
  transferPoolSize : Nat := 16
  /-- The bytes of each bulk transfer. -/
  transferBufferSize : Nat := 262144
  /-- The timeout of ordinary commands. -/
  commandTimeoutMs : Nat := 1000
  /-- The timeout of the stop command, for which the device may have to drain its
  buffers. -/
  stopTimeoutMs : Nat := 10000
  deriving DecidableEq

/-- A rule that settings break. -/
inductive SettingsFault where
  | sampleRate (hz : Nat)
  | channels (count : UInt8)
  | noTransfers
  | bufferSize (bytes : Nat)
  | noCommandTimeout
  | stopTimeout (stop command : Nat)
  /-- The rate does not fit the word that carries it to the device. -/
  | rateTooLarge (hz : Nat)
  deriving DecidableEq

/-- The text that reports a broken rule. -/
def SettingsFault.message : SettingsFault → String
  | sampleRate hz => s!"sample_rate_hz {hz} must be between 1 and 4294967295"
  | channels count => s!"num_channels {count.toNat} must be between 1 and {maxChannels.toNat}"
  | noTransfers => "transfer_pool_size must be at least 1"
  | bufferSize bytes =>
    s!"transfer_buffer_size {bytes} must be a positive multiple of {bulkPacketSize}"
  | noCommandTimeout => "command_timeout_ms must be positive"
  | stopTimeout stop command =>
    s!"stop_timeout_ms {stop} must not be shorter than command_timeout_ms {command}"
  | rateTooLarge hz => s!"sample rate {hz} Hz does not fit the configure command"

namespace AcquisitionSettings

/-- The timeout of ordinary commands as a length of time. -/
def commandTimeout (s : AcquisitionSettings) : Timespan := .ofMillis s.commandTimeoutMs

/-- The timeout of the stop command as a length of time. -/
def stopTimeout (s : AcquisitionSettings) : Timespan := .ofMillis s.stopTimeoutMs

/-- The first rule that the settings break, if they break any. -/
def validate (s : AcquisitionSettings) : Except SettingsFault Unit :=
  if s.sampleRateHz = 0 ∨ UInt32.size ≤ s.sampleRateHz then .error (.sampleRate s.sampleRateHz)
  else if s.numChannels = 0 ∨ maxChannels < s.numChannels then .error (.channels s.numChannels)
  else if s.transferPoolSize = 0 then .error .noTransfers
  else if s.transferBufferSize = 0 ∨ s.transferBufferSize % bulkPacketSize ≠ 0 then
    .error (.bufferSize s.transferBufferSize)
  else if s.commandTimeoutMs = 0 then .error .noCommandTimeout
  else if s.stopTimeoutMs < s.commandTimeoutMs then
    .error (.stopTimeout s.stopTimeoutMs s.commandTimeoutMs)
  else .ok ()

end AcquisitionSettings

end LogicCapture
