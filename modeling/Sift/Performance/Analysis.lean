import Sift.Performance.Record
import Sift.Dsl.Complexity

/-!
# Scoring an executed query

`analyze` scores a record from 100 down, one penalty per finding, and explains each finding with
a recommendation:

| finding | category | severity | penalty |
|---|---|---|---|
| ran more than 5000 ms | execution_time | critical | 30 |
| else ran more than 2000 ms | execution_time | high | 20 |
| a shard failed | shards | critical | 25 |
| more than 10000 results | result_size | medium | 10 |
| complexity score above 7 | query_complexity | medium | 15 |
| timed out | timeout | critical | 40 |

The score never drops below 0. Recommendations come in the order of the table.
-/

namespace Sift

open Json Time

/-- How urgent a recommendation is. -/
inductive Severity where
  | low
  | medium
  | high
  | critical
  deriving DecidableEq, Repr, Inhabited

namespace Severity

/-- All severities in order. -/
def all : List Severity := [.low, .medium, .high, .critical]

/-- The name of a severity. -/
def name : Severity → String
  | .low => "low"
  | .medium => "medium"
  | .high => "high"
  | .critical => "critical"

/-- Reads a severity by name. -/
def decode : Decoder Severity :=
  Decode.variant (all.map name) none fun s => all.find? (·.name == s)

end Severity

/-- What a recommendation is about. -/
inductive Category where
  | executionTime
  | shards
  | resultSize
  | queryComplexity
  | timeout
  deriving DecidableEq, Repr, Inhabited

namespace Category

/-- All categories in order. -/
def all : List Category := [.executionTime, .shards, .resultSize, .queryComplexity, .timeout]

/-- The name of a category. -/
def name : Category → String
  | .executionTime => "execution_time"
  | .shards => "shards"
  | .resultSize => "result_size"
  | .queryComplexity => "query_complexity"
  | .timeout => "timeout"

/-- Reads a category by name. -/
def decode : Decoder Category :=
  Decode.variant (all.map name) none fun s => all.find? (·.name == s)

end Category

/-- Advice on one finding about a query. -/
structure Recommendation where
  category : Category := .executionTime
  severity : Severity := .low
  title : String := ""
  description : String := ""
  suggestion : String := ""
  /-- How much acting on the advice would help, 0 to 10. -/
  impact : Nat := 0
  deriving Inhabited, Repr

namespace Recommendation

/-- A recommendation as JSON, fields in declaration order. -/
def toJson (r : Recommendation) : Json :=
  .obj [("category", .str r.category.name), ("severity", .str r.severity.name),
    ("title", .str r.title), ("description", .str r.description),
    ("suggestion", .str r.suggestion), ("impact_score", Json.nat r.impact)]

/-- The keys of a recommendation; all are required. -/
def shape : Shape :=
  { name := "Recommendation",
    fields := [["category"], ["severity"], ["title"], ["description"], ["suggestion"],
      ["impact_score"]] }

/-- Reads a recommendation. -/
def decode : Decoder Recommendation :=
  shape.read [0, 1, 2, 3, 4, 5] ({} : Recommendation) fun r f v =>
    match f with
    | 0 => return { r with category := ← Category.decode v }
    | 1 => return { r with severity := ← Severity.decode v }
    | 2 => return { r with title := ← Decode.string v }
    | 3 => return { r with description := ← Decode.string v }
    | 4 => return { r with suggestion := ← Decode.string v }
    | _ => return { r with impact := ← Decode.bounded 8 "u8" v }

end Recommendation

/-- A finding of the score: its recommendation and the points it costs. -/
structure Finding where
  advice : Recommendation
  penalty : Nat

/-- A finding from its parts. -/
def Finding.mk' (category : Category) (severity : Severity) (title description suggestion : String)
    (impact penalty : Nat) : Finding :=
  ⟨⟨category, severity, title, description, suggestion, impact⟩, penalty⟩

/-- The finding on the execution time, if the query ran more than 2000 ms. -/
def timeFinding (ms : Nat) : Option Finding :=
  if ms > 5000 then
    some (.mk' .executionTime .critical "Query execution time is very long"
      ("Query took " ++ toString ms ++ "ms, above the recommended 5000ms")
      "Add more selective filters or review the index mapping" 9 30)
  else if ms > 2000 then
    some (.mk' .executionTime .high "Query execution time is long"
      ("Query took " ++ toString ms ++ "ms")
      "Check whether the conditions can be narrowed or cached" 6 20)
  else none

/-- The finding on failed shards, if any failed. -/
def shardFinding (failed : Nat) : Option Finding :=
  if failed > 0 then
    some (.mk' .shards .critical "Shard failures" (toString failed ++ " shard(s) failed")
      "Check cluster health and shard allocation" 8 25)
  else none

/-- The finding on the result count, if above 10000. -/
def sizeFinding (count : Nat) : Option Finding :=
  if count > 10000 then
    some (.mk' .resultSize .medium "Result set is large"
      ("Query matched " ++ toString count ++ " documents")
      "Page through results or add more precise filters" 4 10)
  else none

/-- The finding on the query's structure, if its complexity score is above 7. -/
def complexityFinding (c : ComplexityReport) : Option Finding :=
  if c.score > 7 then
    some (.mk' .queryComplexity .medium "Query is structurally complex" c.description
      "Flatten nested bool queries and avoid wildcard or regexp clauses" 5 15)
  else none

/-- The finding on a timeout. -/
def timeoutFinding (timedOut : Bool) : Option Finding :=
  if timedOut then
    some (.mk' .timeout .critical "Query timed out"
      "The backend did not finish within its time budget"
      "Raise the timeout or make the query cheaper" 10 40)
  else none

/-- The findings on a record whose query has complexity report `c`, in table order. -/
def findings (r : PerformanceRecord) (c : ComplexityReport) : List Finding :=
  [timeFinding r.executionTime, shardFinding r.shards.failed, sizeFinding r.resultCount,
    complexityFinding c, timeoutFinding r.timedOut].filterMap id

/-- The assessment of one executed query. -/
structure QueryAnalysis where
  queryId : String := ""
  /-- 0 to 100. -/
  score : Nat := 0
  recommendations : List Recommendation := []
  complexity : ComplexityReport := {}
  record : PerformanceRecord := {}
  analyzedAt : Instant := ⟨0, 0⟩
  deriving Inhabited, Repr

/-- Scores a record at time `now`: 100 less the penalties of its findings, at least 0. -/
def analyze (r : PerformanceRecord) (now : Instant) : QueryAnalysis :=
  let c := analyzeComplexity r.query
  let fs := findings r c
  { queryId := r.queryId, score := 100 - (fs.map (·.penalty)).foldr (· + ·) 0,
    recommendations := fs.map (·.advice), complexity := c, record := r, analyzedAt := now }

namespace QueryAnalysis

/-- An analysis as JSON, fields in declaration order. -/
def toJson (a : QueryAnalysis) : Json :=
  .obj [("query_id", .str a.queryId), ("performance_score", Json.nat a.score),
    ("recommendations", .arr (a.recommendations.map Recommendation.toJson)),
    ("complexity", a.complexity.toJson), ("record", a.record.toJson),
    ("analyzed_at", .str a.analyzedAt.render)]

/-- The keys of an analysis; all are required. -/
def shape : Shape :=
  { name := "QueryAnalysis",
    fields := [["query_id"], ["performance_score"], ["recommendations"], ["complexity"],
      ["record"], ["analyzed_at"]] }

/-- Reads an analysis. -/
def decode : Decoder QueryAnalysis :=
  shape.read [0, 1, 2, 3, 4, 5] ({} : QueryAnalysis) fun a f v =>
    match f with
    | 0 => return { a with queryId := ← Decode.string v }
    | 1 => return { a with score := ← Decode.bounded 32 "u32" v }
    | 2 => return { a with recommendations := ← Decode.list Recommendation.decode v }
    | 3 => return { a with complexity := ← ComplexityReport.decode v }
    | 4 => return { a with record := ← PerformanceRecord.decode v }
    | _ => return { a with analyzedAt := ← Decode.instant v }

end QueryAnalysis

end Sift
