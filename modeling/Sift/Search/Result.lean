import Sift.Decode.Basic

/-!
# Search results

A backend's response is reduced to the fields the engine relies on (`normalize`). Nothing in a
response is required: a missing or malformed field takes its default. `hits.total` may be a
number or an object holding the number under `value`; a count that is not an unsigned integer
counts as zero. `aggregations` is kept, whatever it holds, exactly when the response has the
key.
-/

namespace Sift

open Json

/-- Shard counts of a response. -/
structure ShardStats where
  total : Nat := 0
  successful : Nat := 0
  skipped : Nat := 0
  failed : Nat := 0
  deriving Inhabited, Repr, DecidableEq

namespace ShardStats

/-- Shard counts as JSON. -/
def toJson (s : ShardStats) : Json :=
  .obj [("total", Json.nat s.total), ("successful", Json.nat s.successful),
    ("skipped", Json.nat s.skipped), ("failed", Json.nat s.failed)]

/-- The keys of shard counts; all are required. -/
def shape : Shape :=
  { name := "ShardStats", fields := [["total"], ["successful"], ["skipped"], ["failed"]] }

/-- Reads shard counts. -/
def decode : Decoder ShardStats :=
  shape.read [0, 1, 2, 3] ({} : ShardStats) fun s f v =>
    match f with
    | 0 => return { s with total := ← Decode.u64 v }
    | 1 => return { s with successful := ← Decode.u64 v }
    | 2 => return { s with skipped := ← Decode.u64 v }
    | _ => return { s with failed := ← Decode.u64 v }

end ShardStats

/-- A response reduced to what the engine uses. -/
structure SearchResult where
  total : Nat := 0
  took : Nat := 0
  timedOut : Bool := false
  hits : List Json := []
  aggregations : Option Json := none
  shards : ShardStats := {}
  deriving Inhabited, Repr

namespace SearchResult

/-- A result as JSON; `aggregations` only when present. -/
def toJson (r : SearchResult) : Json :=
  .obj ([("total", Json.nat r.total), ("took", Json.nat r.took), ("timed_out", .bool r.timedOut),
    ("hits", .arr r.hits)] ++
    (match r.aggregations with | some a => [("aggregations", a)] | none => []) ++
    [("shards", r.shards.toJson)])

/-- The keys of a result; all but `aggregations` are required. -/
def shape : Shape :=
  { name := "NormalizedResult",
    fields := [["total"], ["took"], ["timed_out"], ["hits"], ["aggregations"], ["shards"]] }

/-- Reads a result. -/
def decode : Decoder SearchResult :=
  shape.read [0, 1, 2, 3, 5] ({} : SearchResult) fun r f v =>
    match f with
    | 0 => return { r with total := ← Decode.u64 v }
    | 1 => return { r with took := ← Decode.u64 v }
    | 2 => return { r with timedOut := ← Decode.bool v }
    | 3 => return { r with hits := ← Decode.list Decode.value v }
    | 4 => return { r with aggregations := ← Decode.option Decode.value v }
    | _ => return { r with shards := ← ShardStats.decode v }

end SearchResult

/-- The unsigned count at a key, zero when it is missing or not an unsigned integer. -/
def Json.countAt (j : Json) (key : String) : Nat :=
  ((j.get? key).bind Json.asU64?).getD 0

/-- The result a response describes. -/
def normalize (response : Json) : SearchResult :=
  let total := match response.getPath? ["hits", "total"] with
    | some (.obj fs) => (Json.obj fs).countAt "value"
    | some v => v.asU64?.getD 0
    | none => 0
  let hits := ((response.getPath? ["hits", "hits"]).bind Json.asArray?).getD []
  let counts := (response.get? "_shards").getD .null
  let shardStats : ShardStats :=
    ⟨counts.countAt "total", counts.countAt "successful", counts.countAt "skipped",
      counts.countAt "failed"⟩
  { total := total, took := response.countAt "took",
    timedOut := ((response.get? "timed_out").bind Json.asBool?).getD false,
    hits := hits, aggregations := response.get? "aggregations", shards := shardStats }

end Sift
