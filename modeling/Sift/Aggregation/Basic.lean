import Sift.Decode.Basic

/-!
# Aggregation specs

An aggregation spec names an aggregation, gives its kind as a string, a field, parameters and
nested specs. The kind is read from the string only when compiling: ten names are known, four
of them bucket aggregations (`terms`, `date_histogram`, `histogram`, `range`) that accept
parameters and sub-aggregations' buckets, six metrics. `count` is sent as `value_count`.

A spec reads from JSON (`AggregationSpec.decode`) and writes back to JSON (`toJson`), the kind
under the key `type`; `subAggregations` is another key for `sub_aggregations`.
-/

namespace Sift

open Json

/-- The kinds of aggregation the compiler knows. -/
inductive AggregationKind where
  | terms
  | dateHistogram
  | histogram
  | range
  | avg
  | sum
  | max
  | min
  | count
  | cardinality
  deriving DecidableEq, Repr, Inhabited

namespace AggregationKind

/-- All kinds in order. -/
def all : List AggregationKind :=
  [.terms, .dateHistogram, .histogram, .range, .avg, .sum, .max, .min, .count, .cardinality]

/-- The name of a kind in specs. -/
def name : AggregationKind → String
  | .terms => "terms"
  | .dateHistogram => "date_histogram"
  | .histogram => "histogram"
  | .range => "range"
  | .avg => "avg"
  | .sum => "sum"
  | .max => "max"
  | .min => "min"
  | .count => "count"
  | .cardinality => "cardinality"

/-- The key of a kind in the DSL: its name, except `value_count` for `count`. -/
def dslName : AggregationKind → String
  | .count => "value_count"
  | k => k.name

/-- Whether a kind groups documents into buckets. -/
def isBucket : AggregationKind → Bool
  | .terms | .dateHistogram | .histogram | .range => true
  | _ => false

/-- The kind a name denotes exactly (case matters); the name itself when none does. -/
def parse (s : String) : Except String AggregationKind :=
  match all.find? (·.name == s) with
  | some k => .ok k
  | none => .error s

/-- The settings a bucket kind has before its parameters: a daily calendar interval for date
histograms, an interval of one for histograms. -/
def defaults : AggregationKind → List (String × Json)
  | .dateHistogram => [("calendar_interval", .str "1d")]
  | .histogram => [("interval", Json.nat 1)]
  | _ => []

end AggregationKind

/-- One node of an aggregation tree. -/
structure AggregationSpec where
  id : String := ""
  name : String := ""
  kind : String := ""
  field : String := ""
  params : List (String × Json) := []
  subAggregations : List AggregationSpec := []
  deriving Inhabited, Repr

namespace AggregationSpec

/-- The keys of a spec: `name` and `type` are required, `subAggregations` is another key for
`sub_aggregations`. -/
def shape : Shape :=
  { name := "AggregationSpec",
    fields := [["id"], ["name"], ["type"], ["field"], ["params"],
      ["sub_aggregations", "subAggregations"]] }

/-- Reads a spec whose nesting is at most `fuel` levels deep. -/
def decodeWithin : Nat → Decoder AggregationSpec
  | 0 => fun j => .error (Decode.wrongType j "struct AggregationSpec")
  | fuel + 1 => fun j =>
    shape.read [1, 2] ({} : AggregationSpec) (fun s f v =>
      match f with
      | 0 => return { s with id := ← Decode.string v }
      | 1 => return { s with name := ← Decode.string v }
      | 2 => return { s with kind := ← Decode.string v }
      | 3 => return { s with field := ← Decode.string v }
      | 4 => return { s with params := (← Decode.object v).fields }
      | _ => return { s with subAggregations := ← Decode.list (decodeWithin fuel) v }) j

/-- Reads a spec and its nested specs. -/
def decode (j : Json) : Except DecodeError AggregationSpec := decodeWithin (j.depth + 1) j

mutual

/-- A spec as JSON, fields in declaration order, the kind under `type`. -/
def toJson : AggregationSpec → Json
  | ⟨id, name, kind, field, params, subAggregations⟩ =>
    .obj [("id", .str id), ("name", .str name), ("type", .str kind), ("field", .str field),
      ("params", .obj params), ("sub_aggregations", .arr (toJsonList subAggregations))]

/-- Nested specs as JSON, in order. -/
def toJsonList : List AggregationSpec → List Json
  | [] => []
  | s :: ss => toJson s :: toJsonList ss

end

end AggregationSpec

end Sift
