/-
A capture: samples are streamed to a sink for a length of time.

* `Capture.streamUntil`: event passes until a deadline has come, or the stream
  has ended before it;
* `Capture.run`: a whole capture, from the allocation of transfers to the last
  byte written;
* `Capture.Ending`: how a capture ends.
-/
import LogicCapture.Analyzer
import LogicCapture.Sink.File

namespace LogicCapture

/-- A clock: the nanoseconds that each reading shows. -/
abbrev Clock := Nat → Nat

namespace Capture

/-- Why samples stopped coming. -/
inductive Interruption where
  /-- The stream ended by itself. -/
  | ended
  /-- An event pass failed. -/
  | events (error : CaptureError)
  deriving DecidableEq

/-- How a capture ends. -/
inductive Ending where
  | unallocated (error : CaptureError)
  | unstarted (error : CaptureError)
  /-- The deadline lies beyond what the clock can express. -/
  | deadlineBeyondClock
  /-- Samples were streamed, and as many bytes written as the sink reports. -/
  | streamed (result : Except Interruption Unit) (written : Option (Except WriteError UInt64))

/-- The longest that an event pass may wait for events, in milliseconds. -/
def passMs : Nat := 100

/-- The instants that a clock can express lie below this one, in nanoseconds: its
seconds have 63 bits. -/
def clockLimit : Nat := 9223372036854775808 * Timespan.nanosPerSecond

variable {τ S W : Type} [Transport τ (Handler StreamFormat)]

/-- Event passes until the clock, which is read before each of them, shows the
deadline; at most `fuel` of them. -/
def streamUntil [SampleSink S] (clock : Clock) (deadline : Nat) :
    Nat → Nat → Analyzer τ S → Option (Except Interruption Unit × Analyzer τ S)
  | 0, _, _ => none
  | fuel + 1, reading, a =>
    if deadline ≤ clock reading then some (.ok (), a)
    else if !a.isStreaming then some (.error .ended, a)
    else
      match a.poll passMs with
      | (.error error, a) => some (.error (.events error), a)
      | (.ok (), a) => streamUntil clock deadline fuel (reading + 1) a

/-- Reports what a sink has written, if there is one. -/
def finish [Writer W] (a : Analyzer τ (Option (FileSink W))) :
    Option (Except WriteError UInt64) × Analyzer τ (Option (FileSink W)) :=
  match a.feed.sink with
  | none => (none, a)
  | some sink =>
    let (written, sink) := sink.finish
    (some written, a.withFeed { a.feed with sink := some sink })

/-- The passes after which the transport must have ended a stream, and one more
reading of the clock. -/
def patience (a : Analyzer τ S) : Nat :=
  Transport.patience a.session.transport + 1

/-- Captures for a length of time.  However streaming ends, the device is stopped
and the transfers are given back before the sink reports; `none` if that takes
forever. -/
def run [Writer W] (clock : Clock) (duration : Timespan)
    (a : Analyzer τ (Option (FileSink W))) :
    Option (Ending × Analyzer τ (Option (FileSink W))) :=
  match a.allocateTransfers with
  | (.error error, a) => some (.unallocated error, a.teardown)
  | (.ok (), a) => do
    match ← a.acquire with
    | (.error error, a) => return (.unstarted error, a.teardown)
    | (.ok (), a) =>
      let deadline := clock 0 + duration.nanoseconds
      if clockLimit ≤ deadline then return (.deadlineBeyondClock, a.teardown)
      else
        let (result, a) ← streamUntil clock deadline (patience a) 1 a
        let (_, a) ← a.cancel
        let (written, a) := finish a.teardown
        return (.streamed result written, a)

end Capture

end LogicCapture
