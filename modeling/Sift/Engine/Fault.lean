/-!
# Faults

A fault stops the engine as a whole instead of failing one operation: it arises where a bound of
the clock arithmetic is exceeded, which no caller can handle. The engine's configuration can
cause both: a retention of more days than a duration holds, and a retention so long (or so far
negative) that the cutoff it sets leaves the range of instants.
-/

namespace Sift

/-- A failure that ends a whole run. -/
inductive Fault where
  /-- A retention of more days than a duration can hold, about 292 million years. -/
  | retentionOutOfBounds
  /-- The retention cutoff, now less the retention, falls outside the range of instants. -/
  | cutoffOutOfRange
  deriving DecidableEq, Repr

/-- The wording of a fault. -/
def Fault.message : Fault → String
  | .retentionOutOfBounds => "TimeDelta::days out of bounds"
  | .cutoffOutOfRange => "`DateTime - TimeDelta` overflowed"

end Sift
