import Sift.Performance.Record

/-!
# Slow-log entries

An entry of the slow log is a query that ran longer than the threshold in force when it was
logged, which the entry keeps. Entries are read and written with the fields in the order declared
here; every field is required.
-/

namespace Sift

open Json Time

/-- A logged slow query. -/
structure SlowEntry where
  queryId : String := ""
  connectionId : String := ""
  index : String := ""
  query : Json := .null
  executionTime : Nat := 0
  timestamp : Instant := ⟨0, 0⟩
  resultCount : Nat := 0
  /-- The threshold in force when the entry was logged, in milliseconds. -/
  threshold : Nat := 0
  deriving Inhabited, Repr

namespace SlowEntry

/-- An entry as JSON, fields in declaration order. -/
def toJson (e : SlowEntry) : Json :=
  .obj [("query_id", .str e.queryId), ("connection_id", .str e.connectionId),
    ("index", .str e.index), ("query", e.query), ("execution_time_ms", Json.nat e.executionTime),
    ("timestamp", .str e.timestamp.render), ("result_count", Json.nat e.resultCount),
    ("threshold_ms", Json.nat e.threshold)]

/-- The keys of an entry; all are required. -/
def shape : Shape :=
  { name := "SlowQueryEntry",
    fields := [["query_id"], ["connection_id"], ["index"], ["query"], ["execution_time_ms"],
      ["timestamp"], ["result_count"], ["threshold_ms"]] }

/-- Reads an entry. -/
def decode : Decoder SlowEntry :=
  shape.read [0, 1, 2, 3, 4, 5, 6, 7] ({} : SlowEntry) fun e f v =>
    match f with
    | 0 => return { e with queryId := ← Decode.string v }
    | 1 => return { e with connectionId := ← Decode.string v }
    | 2 => return { e with index := ← Decode.string v }
    | 3 => return { e with query := ← Decode.value v }
    | 4 => return { e with executionTime := ← Decode.u64 v }
    | 5 => return { e with timestamp := ← Decode.instant v }
    | 6 => return { e with resultCount := ← Decode.u64 v }
    | _ => return { e with threshold := ← Decode.u64 v }

end SlowEntry

/-- The slow-log entry of a record, logged under `threshold`. -/
def PerformanceRecord.toSlowEntry (r : PerformanceRecord) (threshold : Nat) : SlowEntry :=
  { queryId := r.queryId, connectionId := r.connectionId, index := r.index, query := r.query,
    executionTime := r.executionTime, timestamp := r.timestamp, resultCount := r.resultCount,
    threshold := threshold }

end Sift
