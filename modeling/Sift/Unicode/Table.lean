/-!
# Tables of code points

Unicode properties are kept as text and read once into arrays sorted by code point. A table text
is a sequence of words parted by spaces and line breaks. Each word starts with a code point in
upper-case hexadecimal; what follows it is lower-case, so the two never run into each other.

A *range table* has words `FIRST-LASTt` or `FIRSTt`: the code points from `FIRST` to `LAST` (or
`FIRST` alone) have the one-letter tag `t`. Code points in no range have the table's default.

Looking a code point up is a binary search for the last entry that starts at or before it
(`lastStartingAtMost`).
-/

namespace Sift.Unicode

/-- The value of an upper-case hexadecimal digit. -/
def upperHexValue? (c : Char) : Option Nat :=
  if '0' ≤ c ∧ c ≤ '9' then some (c.toNat - 48)
  else if 'A' ≤ c ∧ c ≤ 'F' then some (c.toNat - 55)
  else none

/-- The number written by the upper-case hexadecimal digits at the front of a word, and the
rest of the word. -/
def readHex (cs : List Char) : Nat × List Char :=
  let digits := cs.takeWhile fun c => (upperHexValue? c).isSome
  (digits.foldl (fun n c => 16 * n + (upperHexValue? c).getD 0) 0, cs.drop digits.length)

/-- The number written by decimal digits, with a leading `-` for a negative one. -/
def readSigned (cs : List Char) : Int :=
  let magnitude (ds : List Char) : Nat := ds.foldl (fun n c => 10 * n + (c.toNat - 48)) 0
  match cs with
  | '-' :: ds => -(magnitude ds : Int)
  | ds => magnitude ds

/-- The words of a table text, parted by spaces and line breaks. -/
def words (text : String) : List (List Char) :=
  ((text.toList.map fun c => if c = '\n' then ' ' else c).splitOn ' ').filter (!·.isEmpty)

/-- The last entry of a sorted array whose start is at most `n`. -/
def lastStartingAtMost (entries : Array α) (start : α → Nat) (n : Nat) : Option α :=
  go 64 0 entries.size
where
  /-- The entries before `lo` start at most at `n`, those from `hi` on after it. -/
  go : Nat → Nat → Nat → Option α
    | 0, _, _ => none
    | fuel + 1, lo, hi =>
      if lo < hi then
        let mid := (lo + hi) / 2
        match entries[mid]? with
        | some e => if start e ≤ n then go fuel (mid + 1) hi else go fuel lo mid
        | none => none
      else if lo = 0 then none
      else entries[lo - 1]?

/-- A run of code points with a tag. -/
structure TaggedRange where
  first : Nat
  last : Nat
  tag : Char
  deriving Repr, Inhabited

/-- Reads a word `FIRST-LASTt` or `FIRSTt`. -/
def TaggedRange.ofWord (w : List Char) : Option TaggedRange :=
  let (first, rest) := readHex w
  match rest with
  | '-' :: more =>
    match readHex more with
    | (last, [tag]) => some ⟨first, last, tag⟩
    | _ => none
  | [tag] => some ⟨first, first, tag⟩
  | _ => none

/-- The ranges of a range table text, in order. -/
def rangesOf (text : String) : Array TaggedRange :=
  ((words text).filterMap TaggedRange.ofWord).toArray

/-- The tag of a code point in a range table, if it lies in a range. -/
def tagOf (table : Array TaggedRange) (n : Nat) : Option Char :=
  match lastStartingAtMost table (·.first) n with
  | some r => if n ≤ r.last then some r.tag else none
  | none => none

end Sift.Unicode
