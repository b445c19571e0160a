/-!
# Edit distance

The Levenshtein distance between two texts counts the fewest insertions, deletions and
substitutions of single characters (Unicode scalar values) that turn one into the other. It is
computed row by row: the row for a prefix `p` of the first text holds, for every prefix `q` of
the second, the distance between `p` and `q`.

`similarity a b` is `(n - d) / n` for the longer length `n` and the distance `d`, as a double:
`1` for equal texts (two empty texts included), `0` when nothing can be kept.
-/

namespace Sift.Text

/-- The next row of distances after the character `a`, from the previous row `prev` (starting at
column `j`), the second text's characters from column `j` on, and the new row's value `cur` at
column `j`. -/
def nextRow (a : Char) : List Char → List Nat → Nat → List Nat
  | b :: bs, p :: p' :: ps, cur =>
    let here := min (min (p' + 1) (cur + 1)) (p + if a = b then 0 else 1)
    cur :: nextRow a bs (p' :: ps) here
  | _, _, cur => [cur]

/-- The row of distances between the prefix `done` of the first text and every prefix of `b`. -/
def distanceRow (b : List Char) : List Char → List Nat
  | [] => List.range (b.length + 1)
  | a :: as =>
    let prev := distanceRow b as
    nextRow a b prev ((prev.head?.getD 0) + 1)

/-- The Levenshtein distance between two character lists. -/
def editDistance (a b : List Char) : Nat :=
  (distanceRow b a.reverse).getLast?.getD 0

/-- The normalized similarity of two texts. -/
def similarity (a b : String) : Float :=
  if a == b then 1.0
  else
    let n := max a.length b.length
    if n = 0 then 1.0
    else
      let d := editDistance a.toList b.toList
      Float.ofNat (n - d) / Float.ofNat n

end Sift.Text
