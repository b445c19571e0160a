import Sift.Search.Result
import Sift.Time.Rfc3339

/-!
# Performance records

A `PerformanceRecord` notes one executed query: which query ran where, how long it took, when,
and what the backend reported about it (result count, its own time, whether it timed out, shard
counts). Records are read from and written to JSON with the fields in the order declared here;
every field is required.
-/

namespace Sift

open Json Time

/-- One executed query. -/
structure PerformanceRecord where
  queryId : String := ""
  connectionId : String := ""
  index : String := ""
  query : Json := .null
  /-- Wall-clock time of the execution, in milliseconds. -/
  executionTime : Nat := 0
  timestamp : Instant := ⟨0, 0⟩
  resultCount : Nat := 0
  /-- The time the backend reports for the search, in milliseconds. -/
  took : Nat := 0
  timedOut : Bool := false
  shards : ShardStats := {}
  deriving Inhabited, Repr

namespace PerformanceRecord

/-- A record as JSON, fields in declaration order. -/
def toJson (r : PerformanceRecord) : Json :=
  .obj [("query_id", .str r.queryId), ("connection_id", .str r.connectionId),
    ("index", .str r.index), ("query", r.query), ("execution_time_ms", Json.nat r.executionTime),
    ("timestamp", .str r.timestamp.render), ("result_count", Json.nat r.resultCount),
    ("took_ms", Json.nat r.took), ("timed_out", .bool r.timedOut), ("shards", r.shards.toJson)]

/-- The keys of a record; all are required. -/
def shape : Shape :=
  { name := "PerformanceRecord",
    fields := [["query_id"], ["connection_id"], ["index"], ["query"], ["execution_time_ms"],
      ["timestamp"], ["result_count"], ["took_ms"], ["timed_out"], ["shards"]] }

/-- Reads a record. -/
def decode : Decoder PerformanceRecord :=
  shape.read [0, 1, 2, 3, 4, 5, 6, 7, 8, 9] ({} : PerformanceRecord) fun r f v =>
    match f with
    | 0 => return { r with queryId := ← Decode.string v }
    | 1 => return { r with connectionId := ← Decode.string v }
    | 2 => return { r with index := ← Decode.string v }
    | 3 => return { r with query := ← Decode.value v }
    | 4 => return { r with executionTime := ← Decode.u64 v }
    | 5 => return { r with timestamp := ← Decode.instant v }
    | 6 => return { r with resultCount := ← Decode.u64 v }
    | 7 => return { r with took := ← Decode.u64 v }
    | 8 => return { r with timedOut := ← Decode.bool v }
    | _ => return { r with shards := ← ShardStats.decode v }

end PerformanceRecord

end Sift
