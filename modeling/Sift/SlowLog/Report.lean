import Sift.SlowLog.Basic
import Sift.Stats.Mean
import Sift.Dsl.Similarity

/-!
# Reports over the slow log

Summaries of the logged entries, all computed newest first:

* `stats`: count, mean, longest and shortest time, and the trend, which compares the mean of the
  newest ten entries with that of the ten before them and calls a change of more than a tenth of
  the older mean a rise or a fall (with fewer than twenty entries the trend is stable);
* `byIndex`, `byConnection`: count and mean time per index or connection, sorted by name;
* `hourly`: count per hour of the day (UTC), only hours with entries, ascending;
* `findSimilar`: the entries whose query is at least as similar to a given one as the log's
  similarity threshold, most similar first (ties newest first), at most the log's limit;
* `clusters`: one greedy pass that puts each entry into the first cluster whose representative
  query is similar enough to its own, or opens a new cluster with it as representative.
-/

namespace Sift

open Json Time

/-- The direction in which execution times move. -/
inductive Trend where
  | increasing
  | decreasing
  | stable
  deriving DecidableEq, Repr, Inhabited

/-- The name of a trend. -/
def Trend.name : Trend → String
  | .increasing => "increasing"
  | .decreasing => "decreasing"
  | .stable => "stable"

/-- How many entries each side of the trend comparison takes. -/
def trendWindow : Nat := 10

/-- The trend of times given newest first. -/
def trendOf (times : List Nat) : Trend :=
  if times.length < 2 * trendWindow then .stable
  else
    let recent := Stats.mean (times.take trendWindow)
    let previous := Stats.mean ((times.drop trendWindow).take trendWindow)
    if (recent - previous).abs > previous * 0.1 then
      if recent > previous then .increasing else .decreasing
    else .stable

/-- Summary figures of the slow log. -/
structure SlowStats where
  total : Nat
  averageTime : Float
  longest : Nat
  shortest : Nat
  trend : Trend

/-- Summary figures as JSON. -/
def SlowStats.toJson (s : SlowStats) : Json :=
  .obj [("total", Json.nat s.total), ("avg_execution_time", Json.float s.averageTime),
    ("max_execution_time", Json.nat s.longest), ("min_execution_time", Json.nat s.shortest),
    ("trend", .str s.trend.name)]

/-- Count and mean time of the entries sharing a key. -/
structure SlowGroup where
  key : String
  count : Nat
  averageTime : Float

/-- A group as JSON. -/
def SlowGroup.toJson (g : SlowGroup) : Json :=
  .obj [("key", .str g.key), ("count", Json.nat g.count), ("avg_time", Json.float g.averageTime)]

/-- Adds a value under a key to a list of keyed values sorted by key, after the values already
there. -/
def addKeyed [LT κ] [DecidableEq κ] [DecidableLT κ] (k : κ) (v : α) :
    List (κ × List α) → List (κ × List α)
  | [] => [(k, [v])]
  | (k', vs) :: rest =>
    if k = k' then (k', vs ++ [v]) :: rest
    else if k < k' then (k, [v]) :: (k', vs) :: rest
    else (k', vs) :: addKeyed k v rest

/-- Keyed values gathered by key, keys ascending, values in the order given. -/
def gather [LT κ] [DecidableEq κ] [DecidableLT κ] (pairs : List (κ × α)) : List (κ × List α) :=
  pairs.foldl (fun acc (k, v) => addKeyed k v acc) []

/-- An entry found similar to a query, with its similarity. -/
structure SimilarEntry where
  entry : SlowEntry
  similarity : Float

/-- A similar entry as JSON. -/
def SimilarEntry.toJson (s : SimilarEntry) : Json :=
  .obj [("entry", s.entry.toJson), ("similarity", Json.float s.similarity)]

/-- Entries grouped around the entry that opened the group. -/
structure SlowCluster where
  representative : SlowEntry
  /-- Newest first; the representative is the first. -/
  members : List SlowEntry

/-- A cluster as JSON: its representative, member ids, count and mean time. -/
def SlowCluster.toJson (c : SlowCluster) : Json :=
  .obj [("representative", c.representative.toJson),
    ("query_ids", .arr (c.members.map (.str ·.queryId))), ("count", Json.nat c.members.length),
    ("avg_time", Json.float (Stats.mean (c.members.map (·.executionTime))))]

namespace SlowLog

/-- Summary figures of the log. -/
def stats (log : SlowLog) : SlowStats :=
  let times := log.entries.map (·.executionTime)
  match times with
  | [] => ⟨0, 0.0, 0, 0, .stable⟩
  | t :: ts => ⟨times.length, Stats.mean times, ts.foldl max t, ts.foldl min t, trendOf times⟩

/-- Count and mean time per key, keys ascending. -/
def groupBy (log : SlowLog) (key : SlowEntry → String) : List SlowGroup :=
  (gather (log.entries.map fun e => (key e, e.executionTime))).map fun (k, ts) =>
    ⟨k, ts.length, Stats.mean ts⟩

/-- Count and mean time per index. -/
def byIndex (log : SlowLog) : List SlowGroup := log.groupBy (·.index)

/-- Count and mean time per connection. -/
def byConnection (log : SlowLog) : List SlowGroup := log.groupBy (·.connectionId)

/-- Count per hour of the day, only hours with entries, ascending. -/
def hourly (log : SlowLog) : List (Nat × Nat) :=
  (gather (log.entries.map fun e => (e.timestamp.hour, ()))).map fun (h, xs) => (h, xs.length)

/-- The entries similar to a query, most similar first, ties newest first, at most
`similarLimit`. -/
def findSimilar (log : SlowLog) (q : Json) : List SimilarEntry :=
  let scored := log.entries.filterMap fun e =>
    let s := querySimilarity q e.query
    if s ≥ log.similarityThreshold then some ⟨e, s⟩ else none
  (scored.mergeSort fun a b => b.similarity ≤ a.similarity).take log.similarLimit

/-- Puts an entry into the first cluster whose representative is similar enough, or into a new
cluster at the end. -/
def place (threshold : Float) (e : SlowEntry) : List SlowCluster → List SlowCluster
  | [] => [⟨e, [e]⟩]
  | c :: cs =>
    if querySimilarity c.representative.query e.query ≥ threshold then
      { c with members := c.members ++ [e] } :: cs
    else c :: place threshold e cs

/-- The clusters of the log's entries, in order of their representatives. -/
def clusters (log : SlowLog) : List SlowCluster :=
  log.entries.foldl (fun cs e => place log.similarityThreshold e cs) []

end SlowLog

end Sift
