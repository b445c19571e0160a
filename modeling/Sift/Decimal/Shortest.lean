/-!
# Shortest decimals of a double

A finite double `x` is the exact binary fraction `m * 2^e`. Every real strictly closer to `x`
than to its two neighbouring doubles reads back as `x`; the two midpoints themselves read back as
`x` exactly when `m` is even (ties go to the even mantissa). This module finds, among the
decimals `d * 10^k` inside that rounding interval, one with the fewest significant digits, and
among those the one nearest to `x` (an exact tie goes to the even `d`).

The search walks the decimal grids `10^k` from coarse to fine: on each grid the integers `d`
whose multiple lies in the interval form a range, and the first non-empty range wins. All
arithmetic is exact, on `Nat`.
-/

namespace Sift.Decimal

/-- The significand and binary exponent of a finite, nonzero double given by its bits, with the
sign dropped: the value is `m * 2^e`. -/
structure Binary where
  m : Nat
  e : Int
  /-- The rounding interval is as wide below as above. It is narrower below only at a power of
  two with a normal exponent above the smallest one. -/
  evenGap : Bool
  deriving Repr

/-- The exact binary value of the bits of a finite double (sign ignored). -/
def Binary.ofBits (bits : UInt64) : Binary :=
  let frac := (bits &&& 0xFFFFFFFFFFFFF).toNat
  let biased := ((bits >>> 52) &&& 0x7FF).toNat
  if biased = 0 then
    { m := frac, e := -1074, evenGap := true }
  else
    { m := frac + Nat.pow 2 52, e := (biased : Int) - 1075, evenGap := !(frac = 0 && biased > 1) }

/-- A decimal `digits * 10^exp`. -/
structure Scientific where
  digits : Nat
  exp : Int
  deriving Repr, DecidableEq

/-- `x * 2^p / 10^k` as a numerator and denominator of naturals. -/
def scaled (x : Nat) (p k : Int) : Nat × Nat :=
  (x * Nat.pow 2 p.toNat * Nat.pow 10 (-k).toNat, Nat.pow 2 (-p).toNat * Nat.pow 10 k.toNat)

/-- The number of decimal digits of `n` (one for zero). -/
def digitCount (n : Nat) : Nat :=
  (Nat.toDigits 10 n).length

/-- The exponent `E` with `10^E ≤ m * 2^e < 10^(E+1)`, for `m > 0`. Below one it is found by
multiplying by ten until the value reaches one; a double needs at most 343 steps. -/
def leadingExponent (b : Binary) : Int :=
  let num := b.m * Nat.pow 2 b.e.toNat
  let den := Nat.pow 2 (-b.e).toNat
  if den ≤ num then
    (digitCount (num / den) : Int) - 1
  else
    let rec climb : Nat → Nat → Int
      | 0, _ => -400
      | fuel + 1, j => if den ≤ num * Nat.pow 10 j then -(j : Int) else climb fuel (j + 1)
    climb 400 1

/-- Division rounded to the nearest integer, an exact half going to the even quotient. -/
def roundHalfEven (num den : Nat) : Nat :=
  let q := num / den
  let r := num % den
  if 2 * r > den then q + 1
  else if 2 * r = den then (if q % 2 = 0 then q else q + 1)
  else q

/-- The decimal on the grid `10^k` that lies in the rounding interval of `b` and is nearest to
it, if the grid has a point in the interval. -/
def onGrid (b : Binary) (k : Int) : Option Nat :=
  let inclusive := b.m % 2 = 0
  let (lowNum, den) := scaled (4 * b.m - (if b.evenGap then 2 else 1)) (b.e - 2) k
  let (highNum, _) := scaled (4 * b.m + 2) (b.e - 2) k
  let (valueNum, _) := scaled (4 * b.m) (b.e - 2) k
  -- `lo` is the least admissible multiple, `hi + 1` one past the greatest
  let lo := if inclusive then (lowNum + den - 1) / den else lowNum / den + 1
  let hiNext := if inclusive || highNum % den ≠ 0 then highNum / den + 1 else highNum / den
  if lo < hiNext then
    some (min (max (roundHalfEven valueNum den) lo) (hiNext - 1))
  else none

/-- Drops trailing zero digits, raising the exponent to match. -/
def Scientific.trim : Nat → Scientific → Scientific
  | 0, s => s
  | fuel + 1, s =>
    if s.digits ≠ 0 ∧ s.digits % 10 = 0 then
      Scientific.trim fuel { digits := s.digits / 10, exp := s.exp + 1 }
    else s

/-- The shortest decimal that reads back as the finite, nonzero double `b`, nearest among the
shortest. Grids with one to seventeen significant digits are tried in turn; seventeen always
suffice for a double. -/
def shortest (b : Binary) : Scientific :=
  let top := leadingExponent b
  let rec search : Nat → Nat → Scientific
    | 0, n => { digits := (onGrid b (top - n + 1)).getD 0, exp := top - n + 1 }
    | fuel + 1, n =>
      match onGrid b (top - n + 1) with
      | some d => { digits := d, exp := top - n + 1 }
      | none => search fuel (n + 1)
  Scientific.trim 20 (search 17 1)

end Sift.Decimal
