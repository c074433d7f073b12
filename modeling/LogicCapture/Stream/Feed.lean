/-
The completion handler that every slot of a sample stream shares.  Samples go
to the sink while the stream runs; once it has been stopped, late samples are
dropped, so that the sink is told nothing after the stop.
-/
import LogicCapture.Session
import LogicCapture.Sink

namespace LogicCapture

/-- What the slots of a stream share with the controller. -/
structure Feed (S : Type) where
  /-- Samples are wanted. -/
  running : Bool := false
  stats : StreamStats := {}
  sink : S

namespace Feed

variable {S : Type} [SampleSink S]

/-- What a running stream wants done with a slot. -/
def verdict (f : Feed S) : Rearm := if f.running then .resubmit else .release

/-- Counts samples that arrived while the stream runs and passes them on. -/
def accept (f : Feed S) (samples : Bytes) (format : StreamFormat) : Feed S :=
  { f with
    stats := f.stats.recordTransfer samples.length
    sink := if samples.isEmpty then f.sink else SampleSink.deliver f.sink samples format }

/-- Counts a completion that failed. -/
def reject (f : Feed S) : Feed S := { f with stats := f.stats.recordError }

/-- Handles a completion of a stream with the given format. -/
def complete (f : Feed S) (format : StreamFormat) (c : Completion) : Rearm × Feed S :=
  match c.status with
  | .completed => (f.verdict, if f.running then f.accept c.data format else f)
  | .timedOut => (f.verdict, f)
  | .cancelled => (.release, f)
  | .noDevice => (.release, { f.reject with running := false })
  | .error | .stall | .overflow => (.release, f.reject)

instance : Consumer StreamFormat (Feed S) where
  consume format completion feed :=
    let (rearm, feed) := feed.complete format completion
    (rearm, format, feed)

end Feed

end LogicCapture
