/-!
# Punycode

Decoding of Punycode, the Bootstring encoding for domain labels, with base 36, thresholds from
1 to 26, skew 38, damping 700, initial bias 72 and initial code point 128.

The code points before the last `-` of the input are copied as they are and must be ASCII. The
rest is a sequence of variable-length numbers (`readDelta`), digits `a`-`z` (or upper case) for
0 to 25 and `0`-`9` for 26 to 35, least significant first; each number says, together with the
ones before it, which code point to insert where. The numbers are 32-bit unsigned words: a step
that would overflow fails the decoding, as does a character that is not a digit, a number cut
short, or a code point that is not a character.

Each number takes at least one digit (`readDelta_shorter`), which is what makes `decodeLoop`
end.
-/

namespace Sift.Unicode.Punycode

/-- The base of the digits. -/
def base : Nat := 36

/-- The largest 32-bit unsigned word. -/
def wordMax : Nat := 4294967295

/-- The value of a digit: letters (either case) 0 to 25, decimal digits 26 to 35. -/
def digitValue? (c : Char) : Option Nat :=
  if 'a' ≤ c ∧ c ≤ 'z' then some (c.toNat - 97)
  else if 'A' ≤ c ∧ c ≤ 'Z' then some (c.toNat - 65)
  else if '0' ≤ c ∧ c ≤ '9' then some (c.toNat - 48 + 26)
  else none

/-- The threshold of the digit at position `k` (36, 72, ...) under bias `bias`: `k - bias` kept
between 1 and 26. -/
def threshold (k bias : Nat) : Nat :=
  if k ≤ bias then 1 else if bias + 26 ≤ k then 26 else k - bias

/-- Divides `delta` by 35 until it is at most 455, counting 36 for each division. -/
def shrink (delta k : Nat) : Nat × Nat :=
  if 455 < delta then shrink (delta / 35) (k + 36) else (delta, k)
termination_by delta
decreasing_by exact Nat.div_lt_self (by omega) (by omega)

/-- The bias after a number `delta` that brought the count of code points to `numPoints`;
`first` for the first number, which is damped more. -/
def adapt (delta numPoints : Nat) (first : Bool) : Nat :=
  let d := if first then delta / 700 else delta / 2
  let (d, k) := shrink (d + d / numPoints) 0
  k + 36 * d / (d + 38)

/-- Reads one number into `i`, with weight `w` for the digit at position `k`: the new `i` and the
rest of the input. -/
def readDelta (bias : Nat) : List Char → Nat → Nat → Nat → Option (Nat × List Char)
  | [], _, _, _ => none
  | c :: rest, k, w, i =>
    match digitValue? c with
    | none => none
    | some d =>
      if d > (wordMax - i) / w then none
      else
        let t := threshold k bias
        if d < t then some (i + d * w, rest)
        else if w > wordMax / (base - t) then none
        else readDelta bias rest (k + base) (w * (base - t)) (i + d * w)

theorem readDelta_shorter (bias : Nat) :
    ∀ (cs : List Char) (k w i : Nat) (r : Nat × List Char),
      readDelta bias cs k w i = some r → r.2.length < cs.length
  | [], _, _, _, _, h => by simp [readDelta] at h
  | c :: rest, k, w, i, r, h => by
    rw [readDelta] at h
    split at h
    · simp at h
    · split at h
      · simp at h
      · dsimp only at h
        split at h
        · rw [← Option.some.inj h]; simp
        · split at h
          · simp at h
          · have := readDelta_shorter bias rest _ _ _ r h
            simp only [List.length_cons]; omega

/-- Whether a number is the code point of a character. -/
def isCharCode (n : Nat) : Bool := n < 0xD800 || (0xDFFF < n && n < 0x110000)

/-- Inserts the code points the numbers of `input` give into `out`, with the state of the
decoder: bias, code point `n` and position `i`. -/
def decodeLoop (bias n i : Nat) (out : List Char) (input : List Char) : Option (List Char) :=
  match input with
  | [] => some out
  | c :: rest =>
    match h : readDelta bias (c :: rest) base 1 i with
    | none => none
    | some (i', remaining) =>
      let count := out.length + 1
      if i' / count > wordMax - n then none
      else
        let n' := n + i' / count
        let pos := i' % count
        if isCharCode n' then
          decodeLoop (adapt (i' - i) count (i == 0)) n' (pos + 1)
            (out.insertIdx pos (Char.ofNat n')) remaining
        else none
termination_by input.length
decreasing_by
  have := readDelta_shorter bias (c :: rest) base 1 i (i', remaining) h
  simpa using this

/-- The text before the last `-` and the text after it; all of it is after when there is
none. -/
def splitAtLastDash (cs : List Char) : List Char × List Char :=
  match cs.reverse.span (· ≠ '-') with
  | (revTail, []) => ([], revTail.reverse)
  | (revTail, _ :: revHead) => (revHead.reverse, revTail.reverse)

/-- The text a Punycode string encodes, or nothing when it is not valid Punycode. -/
def decode (input : List Char) : Option (List Char) :=
  let (basic, deltas) := splitAtLastDash input
  if basic.any (·.toNat ≥ 0x80) then none else decodeLoop 72 128 0 basic deltas

end Sift.Unicode.Punycode
