/-
Lengths of time given as a number of seconds.
-/
import LogicCapture.Text.Binary64
import LogicCapture.Timespan

namespace LogicCapture

/-- Why a number of seconds is no length of time. -/
inductive SecondsFault where
  | negative
  /-- The whole seconds do not fit 64 bits, or the number is none. -/
  | outOfRange
  deriving DecidableEq

/-- The text that reports why a number of seconds is refused. -/
def SecondsFault.message : SecondsFault → String
  | negative => "cannot convert float seconds to Duration: value is negative"
  | outOfRange => "cannot convert float seconds to Duration: value is either too big or NaN"

namespace Timespan

/-- The length of time nearest to a number of seconds; of two that are equally near,
the one with an even number of nanoseconds. -/
def ofSeconds : Binary64 → Except SecondsFault Timespan
  | .nan | .infinite false => .error .outOfRange
  | .infinite true => .error .negative
  | .finite negative mantissa exponent =>
    if negative ∧ mantissa ≠ 0 then .error .negative
    else
      let numerator := mantissa * Nat.pow 2 exponent.toNat
      let denominator := Nat.pow 2 (-exponent).toNat
      if UInt64.size * denominator ≤ numerator then .error .outOfRange
      else .ok ⟨roundDiv (numerator * nanosPerSecond) denominator⟩

end Timespan

end LogicCapture
