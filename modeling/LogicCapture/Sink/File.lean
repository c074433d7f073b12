/-
The sink that writes raw samples.  Samples arrive where no failure can be
reported, so the first failure is kept, later samples are dropped, and
`FileSink.finish` reports it.
-/
import LogicCapture.Sink
import LogicCapture.Sink.Writer

namespace LogicCapture

/-- A sink that writes to a `W`. -/
structure FileSink (W : Type) where
  writer : W
  /-- The bytes of all buffers written in full, modulo `2 ^ 64`. -/
  bytesWritten : UInt64 := 0
  /-- The first failure, until it has been reported. -/
  error : Option WriteError := none

namespace FileSink

variable {W : Type} [Writer W]

/-- Writes a buffer of samples, unless writing has failed before. -/
def deliver (s : FileSink W) (samples : Bytes) : FileSink W :=
  match s.error with
  | some _ => s
  | none =>
    match Writer.writeAll s.writer samples with
    | (.ok (), writer) =>
      { s with writer, bytesWritten := s.bytesWritten + UInt64.ofNat samples.length }
    | (.error error, writer) => { s with writer, error := some error }

/-- Flushes at the end of an acquisition. -/
def stopped (s : FileSink W) : FileSink W :=
  match Writer.flush s.writer with
  | (.ok (), writer) => { s with writer }
  | (.error error, writer) => { s with writer, error := some (s.error.getD error) }

/-- Reports the failure that was kept, else flushes and reports the total written. -/
def finish (s : FileSink W) : Except WriteError UInt64 × FileSink W :=
  match s.error with
  | some error => (.error error, { s with error := none })
  | none =>
    match Writer.flush s.writer with
    | (.ok (), writer) => (.ok s.bytesWritten, { s with writer })
    | (.error error, writer) => (.error error, { s with writer })

instance : SampleSink (FileSink W) where
  started s _ := s
  deliver s samples _ := s.deliver samples
  stopped := stopped

end FileSink

end LogicCapture
