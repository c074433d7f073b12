/-
Lengths of time, exact to the nanosecond.
-/

namespace LogicCapture

/-- A length of time. -/
structure Timespan where
  nanoseconds : Nat
  deriving DecidableEq

namespace Timespan

/-- The nanoseconds in a second. -/
def nanosPerSecond : Nat := 1000000000

/-- A number of milliseconds. -/
def ofMillis (ms : Nat) : Timespan := ⟨ms * 1000000⟩

/-- The whole seconds. -/
def seconds (t : Timespan) : Nat := t.nanoseconds / nanosPerSecond

/-- The nanoseconds beyond the whole seconds. -/
def subsecNanos (t : Timespan) : Nat := t.nanoseconds % nanosPerSecond

end Timespan

end LogicCapture
