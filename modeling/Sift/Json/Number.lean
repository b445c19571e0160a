import Sift.Decimal.Shortest

/-!
# JSON numbers

A number of the engine is an integer of the 64-bit range (from `-2^63` up to `2^64 - 1`) or a
finite double, kept by its bits. Integers and doubles never compare equal: `1` and `1.0` are
different numbers, and each prints in its own way.

Doubles print with the fewest digits that read back (`Sift.Decimal.shortest`), in positional
notation while the leading digit's decimal exponent lies in `[-5, 15]`, and in scientific
notation otherwise (`1e+16`, `1e-7`, `-9.223372036854776e+18`). An integral double keeps a
trailing `.0`, and zero keeps its sign (`-0.0`).
-/

namespace Sift.Json

/-- A JSON number: an integer in `[-2^63, 2^64)`, or a finite double given by its bits. -/
inductive Number where
  | int (i : Int)
  | float (bits : UInt64)
  deriving DecidableEq, Inhabited, Repr

namespace Number

/-- The least integer a number holds exactly: `-2^63`. -/
def minInt : Int := -Int.pow 2 63

/-- One past the greatest integer a number holds exactly: `2^64`. -/
def intBound : Int := Int.pow 2 64

/-- A double as a number. -/
def ofFloat (f : Float) : Number := .float f.toBits

/-- A natural as a number: exact below `2^64`, a double above. -/
def ofNat (n : Nat) : Number :=
  if (n : Int) < intBound then .int n else ofFloat (Float.ofNat n)

/-- The value as a double. -/
def toFloat : Number → Float
  | .int i => if i < 0 then -(Float.ofNat i.natAbs) else Float.ofNat i.toNat
  | .float bits => Float.ofBits bits

/-- The value when it is an integer in `[0, 2^64)`. -/
def toU64? : Number → Option Nat
  | .int i => if 0 ≤ i ∧ i < intBound then some i.toNat else none
  | .float _ => none

/-- Equality as numbers are compared by value: integers exactly, doubles as doubles
(so `0.0` and `-0.0` agree), an integer never equal to a double. -/
def sameAs : Number → Number → Bool
  | .int a, .int b => a == b
  | .float a, .float b => Float.ofBits a == Float.ofBits b
  | _, _ => false

end Number

/-- How a double is written: the range of leading-digit exponents written positionally, the
suffix of an integral value, and whether a non-negative exponent carries a plus sign. -/
structure FloatStyle where
  lowestPositional : Int
  highestPositional : Int
  integralSuffix : String
  plusExponent : Bool

/-- Doubles are written positionally for leading exponents `-5` to `15`, integral ones end in
`.0`, and scientific exponents carry their sign: `1e+16`, `1e-7`, `1.5e+300`. This is how the
JSON library the engine is built with writes every double: in compact and pretty text, and so in
the text a condition's value takes inside a pattern (a `contains` value of `10^20` gives the
pattern `*1e+20*`). The positive sign is that library's; a shortest-digits writer that leaves it
out would print `1e16`. -/
def FloatStyle.json : FloatStyle :=
  { lowestPositional := -5, highestPositional := 15, integralSuffix := ".0", plusExponent := true }

/-- `n` zeros. -/
def zeros (n : Nat) : String := String.ofList (List.replicate n '0')

/-- The text of a decimal `digits * 10^exp` (digits without trailing zeros) in a style. -/
def FloatStyle.render (st : FloatStyle) (s : Sift.Decimal.Scientific) : String :=
  let ds := toString s.digits
  let len : Int := ds.length
  -- `point` is the position of the decimal point counted from the first digit
  let point := len + s.exp
  let lead := point - 1
  if st.lowestPositional ≤ lead ∧ lead ≤ st.highestPositional then
    if 0 ≤ s.exp then ds ++ zeros s.exp.toNat ++ st.integralSuffix
    else if 0 < point then
      String.ofList (ds.toList.take point.toNat) ++ "." ++
        String.ofList (ds.toList.drop point.toNat)
    else "0." ++ zeros (-point).toNat ++ ds
  else
    let mant := match ds.toList with
      | [c] => String.singleton c
      | c :: rest => String.singleton c ++ "." ++ String.ofList rest
      | [] => "0"
    let sign := if lead < 0 then "-" else if st.plusExponent then "+" else ""
    mant ++ "e" ++ sign ++ toString lead.natAbs

/-- The text of a double given by its bits. -/
def FloatStyle.renderBits (st : FloatStyle) (bits : UInt64) : String :=
  let negative := bits >>> 63 == 1
  let body :=
    if bits &&& 0x7FFFFFFFFFFFFFFF == 0 then "0" ++ st.integralSuffix
    else st.render (Sift.Decimal.shortest (Sift.Decimal.Binary.ofBits bits))
  if negative then "-" ++ body else body

/-- The text of a number: integers in decimal, doubles in the JSON float style. -/
def Number.render : Number → String
  | .int i => toString i
  | .float bits => FloatStyle.json.renderBits bits

end Sift.Json
