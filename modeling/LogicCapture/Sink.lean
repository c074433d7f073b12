/-
Destinations for captured samples: what a sink is told, a sink that drops
everything and a sink that keeps a trace of what it was told.
-/
import LogicCapture.Stream.Format

namespace LogicCapture

/-- A destination for samples. -/
class SampleSink (S : Type) where
  /-- An acquisition with this format begins. -/
  started : S → StreamFormat → S
  /-- Samples have arrived. -/
  deliver : S → Bytes → StreamFormat → S
  /-- The acquisition has ended. -/
  stopped : S → S

/-- The sink that drops every sample. -/
structure Discard where

instance : SampleSink Discard where
  started d _ := d
  deliver d _ _ := d
  stopped d := d

/-- Without a sink, samples go nowhere. -/
instance {S : Type} [SampleSink S] : SampleSink (Option S) where
  started sink format := sink.map fun s => SampleSink.started s format
  deliver sink samples format := sink.map fun s => SampleSink.deliver s samples format
  stopped sink := sink.map SampleSink.stopped

/-- What a sink can be told. -/
inductive SinkEvent where
  | started (format : StreamFormat)
  | deliver (samples : Bytes) (format : StreamFormat)
  | stopped
  deriving DecidableEq

/-- The sink that keeps a trace of what it is told. -/
structure SinkTrace where
  events : List SinkEvent := []

namespace SinkTrace

/-- The trace with one more event. -/
def push (t : SinkTrace) (event : SinkEvent) : SinkTrace := ⟨t.events ++ [event]⟩

instance : SampleSink SinkTrace where
  started t format := t.push (.started format)
  deliver t samples format := t.push (.deliver samples format)
  stopped t := t.push .stopped

end SinkTrace

end LogicCapture
