import Sift.Decode.Basic

/-!
# Engine configuration

Every setting has a default, so an empty object (or an empty array) is a complete
configuration. Unknown keys are ignored.
-/

namespace Sift

open Json

/-- The engine's settings. -/
structure EngineConfig where
  cacheCapacity : Nat := 50
  slowQueryThresholdMs : Nat := 1000
  maxPerformanceHistory : Nat := 1000
  maxAnalyses : Nat := 100
  /-- How many of the most recent records `stats` looks at. -/
  statsWindow : Nat := 100
  maxSlowQueries : Nat := 1000
  slowQueryRetentionDays : Int := 30
  similarLimit : Nat := 10
  similarityThreshold : Float := 0.8
  maxQueryHistory : Nat := 100
  streamBatchSize : Nat := 1000
  requestTimeoutSecs : Nat := 30
  deriving Inhabited, Repr

namespace EngineConfig

/-- The keys of a configuration, in declaration order. -/
def shape : Shape :=
  { name := "EngineConfig",
    fields := [["cache_capacity"], ["slow_query_threshold_ms"], ["max_performance_history"],
      ["max_analyses"], ["stats_window"], ["max_slow_queries"], ["slow_query_retention_days"],
      ["similar_limit"], ["similarity_threshold"], ["max_query_history"],
      ["stream_batch_size"], ["request_timeout_secs"]] }

/-- Reads a configuration. -/
def decode : Decoder EngineConfig :=
  shape.read [] ({} : EngineConfig) fun c f v =>
    match f with
    | 0 => return { c with cacheCapacity := ← Decode.usize v }
    | 1 => return { c with slowQueryThresholdMs := ← Decode.u64 v }
    | 2 => return { c with maxPerformanceHistory := ← Decode.usize v }
    | 3 => return { c with maxAnalyses := ← Decode.usize v }
    | 4 => return { c with statsWindow := ← Decode.usize v }
    | 5 => return { c with maxSlowQueries := ← Decode.usize v }
    | 6 => return { c with slowQueryRetentionDays := ← Decode.i64 v }
    | 7 => return { c with similarLimit := ← Decode.usize v }
    | 8 => return { c with similarityThreshold := ← Decode.f64 v }
    | 9 => return { c with maxQueryHistory := ← Decode.usize v }
    | 10 => return { c with streamBatchSize := ← Decode.usize v }
    | _ => return { c with requestTimeoutSecs := ← Decode.u64 v }

/-- A configuration as JSON. -/
def toJson (c : EngineConfig) : Json :=
  .obj [("cache_capacity", Json.nat c.cacheCapacity),
    ("slow_query_threshold_ms", Json.nat c.slowQueryThresholdMs),
    ("max_performance_history", Json.nat c.maxPerformanceHistory),
    ("max_analyses", Json.nat c.maxAnalyses), ("stats_window", Json.nat c.statsWindow),
    ("max_slow_queries", Json.nat c.maxSlowQueries),
    ("slow_query_retention_days", Json.int c.slowQueryRetentionDays),
    ("similar_limit", Json.nat c.similarLimit),
    ("similarity_threshold", Json.float c.similarityThreshold),
    ("max_query_history", Json.nat c.maxQueryHistory),
    ("stream_batch_size", Json.nat c.streamBatchSize),
    ("request_timeout_secs", Json.nat c.requestTimeoutSecs)]

end EngineConfig

end Sift
