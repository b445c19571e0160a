import Sift.Decode.Basic

/-!
# Structural complexity of a query

A heuristic report over a DSL value: its nesting depth (`Json.depth`), the number of entries in
the buckets of every bool query (an array counts its items, any other bucket value one), whether
a `wildcard` or `regexp` key occurs anywhere, and how many `range` keys occur. The score adds

| signal | points |
|---|---|
| depth above 5 | 3 |
| more than 10 bool entries | 2 |
| a wildcard | 2 |
| a regexp | 3 |
| more than 5 ranges | 1 |

and each signal that scores also adds an issue, in this order.
-/

namespace Sift

open Json

/-- The names of the buckets of a bool query. -/
def boolBuckets : List String := ["must", "should", "must_not", "filter"]

mutual

/-- The number of bucket entries of all bool queries in a value. -/
def boolEntries : Json → Nat
  | .obj fields => boolEntriesFields fields
  | .arr items => boolEntriesItems items
  | _ => 0

/-- `boolEntries` over items. -/
def boolEntriesItems : List Json → Nat
  | [] => 0
  | x :: xs => boolEntries x + boolEntriesItems xs

/-- `boolEntries` over entries: an entry `"bool"` holding an object counts its buckets. -/
def boolEntriesFields : List (String × Json) → Nat
  | [] => 0
  | (k, v) :: rest =>
    let own := match k, v with
      | "bool", .obj _ =>
        (boolBuckets.filterMap (v.get? ·)).foldl
          (fun n b => n + match b with | .arr xs => xs.length | _ => 1) 0
      | _, _ => 0
    own + boolEntries v + boolEntriesFields rest

end

mutual

/-- The number of entries named `key` anywhere in a value. -/
def keyCount (key : String) : Json → Nat
  | .obj fields => keyCountFields key fields
  | .arr items => keyCountItems key items
  | _ => 0

/-- `keyCount` over items. -/
def keyCountItems (key : String) : List Json → Nat
  | [] => 0
  | x :: xs => keyCount key x + keyCountItems key xs

/-- `keyCount` over entries. -/
def keyCountFields (key : String) : List (String × Json) → Nat
  | [] => 0
  | (k, v) :: rest => (if k = key then 1 else 0) + keyCount key v + keyCountFields key rest

end

/-- The complexity report of a query. -/
structure ComplexityReport where
  score : Nat := 0
  depth : Nat := 0
  boolEntries : Nat := 0
  hasWildcard : Bool := false
  hasRegexp : Bool := false
  rangeClauses : Nat := 0
  issues : List String := []
  deriving Inhabited, Repr

/-- The report of a query. -/
def analyzeComplexity (q : Json) : ComplexityReport :=
  let depth := q.depth
  let entries := boolEntries q
  let wildcard := keyCount "wildcard" q > 0
  let regexp := keyCount "regexp" q > 0
  let ranges := keyCount "range" q
  let signals : List (Bool × Nat × String) :=
    [(depth > 5, 3, "nesting depth too deep (" ++ toString depth ++ " levels)"),
     (entries > 10, 2, "too many boolean clauses (" ++ toString entries ++ ")"),
     (wildcard, 2, "contains wildcard queries"),
     (regexp, 3, "contains regexp queries"),
     (ranges > 5, 1, "too many range queries (" ++ toString ranges ++ ")")]
  let fired := signals.filter (·.1)
  { score := (fired.map (·.2.1)).foldr (· + ·) 0, depth := depth, boolEntries := entries,
    hasWildcard := wildcard, hasRegexp := regexp, rangeClauses := ranges,
    issues := fired.map (·.2.2) }

namespace ComplexityReport

/-- The issues joined by commas. -/
def description (r : ComplexityReport) : String := ", ".intercalate r.issues

/-- A report as JSON. -/
def toJson (r : ComplexityReport) : Json :=
  .obj [("score", Json.nat r.score), ("depth", Json.nat r.depth),
    ("bool_entries", Json.nat r.boolEntries), ("has_wildcard", .bool r.hasWildcard),
    ("has_regexp", .bool r.hasRegexp), ("range_clauses", Json.nat r.rangeClauses),
    ("issues", .arr (r.issues.map .str))]

/-- The keys of a report; all are required. -/
def shape : Shape :=
  { name := "ComplexityReport",
    fields := [["score"], ["depth"], ["bool_entries"], ["has_wildcard"], ["has_regexp"],
      ["range_clauses"], ["issues"]] }

/-- Reads a report. -/
def decode : Decoder ComplexityReport :=
  shape.read [0, 1, 2, 3, 4, 5, 6] ({} : ComplexityReport) fun r f v =>
    match f with
    | 0 => return { r with score := ← Decode.bounded 32 "u32" v }
    | 1 => return { r with depth := ← Decode.usize v }
    | 2 => return { r with boolEntries := ← Decode.usize v }
    | 3 => return { r with hasWildcard := ← Decode.bool v }
    | 4 => return { r with hasRegexp := ← Decode.bool v }
    | 5 => return { r with rangeClauses := ← Decode.usize v }
    | _ => return { r with issues := ← Decode.list Decode.string v }

end ComplexityReport

end Sift
