/-!
# Means of counters

Times and counts are summed in a 64-bit unsigned counter, which wraps around at `2^64`, and the
mean is that sum divided by the number of values, both taken as doubles. The mean of no values is
`0.0`.
-/

namespace Sift.Stats

/-- The sum of values in a 64-bit counter: the true sum modulo `2^64`. -/
def counterSum (xs : List Nat) : Nat := xs.foldl (fun a x => (a + x) % Nat.pow 2 64) 0

/-- The mean of values: their counter sum over their number, as doubles; `0.0` for none. -/
def mean (xs : List Nat) : Float :=
  if xs.isEmpty then 0.0 else (counterSum xs).toFloat / xs.length.toFloat

end Sift.Stats
