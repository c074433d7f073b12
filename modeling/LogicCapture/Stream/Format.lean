/-
The layout of a sample stream and the counters kept while it runs.
-/
import LogicCapture.Bytes

namespace LogicCapture

/-- The layout of the samples on the streaming endpoint. -/
structure StreamFormat where
  /-- The rate that the device agreed to. -/
  sampleRateHz : UInt32
  numChannels : UInt8
  endpoint : UInt8
  deriving DecidableEq

/-- A sample takes one bit per channel, rounded up to whole bytes. -/
def StreamFormat.bytesPerSample (f : StreamFormat) : Nat := max ((f.numChannels.toNat + 7) / 8) 1

/-- Counters of one acquisition; they wrap around at `2 ^ 64`. -/
structure StreamStats where
  /-- The bulk transfers completed. -/
  transfers : UInt64 := 0
  /-- The sample bytes received. -/
  bytes : UInt64 := 0
  /-- The completions that ended a slot with an error. -/
  errors : UInt64 := 0
  deriving DecidableEq

namespace StreamStats

/-- Counts a completed transfer of `length` bytes. -/
def recordTransfer (s : StreamStats) (length : Nat) : StreamStats :=
  { s with transfers := s.transfers + 1, bytes := s.bytes + UInt64.ofNat length }

/-- Counts a failed completion. -/
def recordError (s : StreamStats) : StreamStats := { s with errors := s.errors + 1 }

end StreamStats

end LogicCapture
