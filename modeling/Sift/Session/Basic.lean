import Sift.Search.Execute
import Sift.Connection.Registry
import Sift.Cache.Basic
import Sift.History.Basic
import Sift.Performance.Analyzer
import Sift.Mapping.Fields

/-!
# Search sessions

A session is the front door for searches over the connections of a registry. It owns a result
cache and remembers the most recent search, which paging and prefetching are relative to.

* `execute` serves a search from the cache when allowed (a hit), and otherwise sends it to the
  connection's backend; a successful result is cached (when allowed), recorded by the
  performance analyzer and in the history, and remembered as the most recent search. A failed
  search changes nothing but the cache's read counters.
* `goToPage` runs page `n` (counted from 1; page 0 is page 1) of the most recent search, with its
  size or a given one, through the cache.
* `preload` fetches the page after the most recent one into the cache, unless there is none:
  no recent search, a size of 0, a start at or past the total, or the page already cached. Its
  failures are ignored.
* `stream`, `aggregate` and `fields` go to the backend directly and leave the cache and the
  recent search alone.

Every request sent is logged with the id of its connection. Records and history items get ids
numbered in the order they are made.
-/

namespace Sift

open Json Time

/-- The most recent search: where, what, and how many hits it had in total. -/
structure LastSearch where
  connectionId : String
  query : SearchQuery
  total : Nat
  deriving Inhabited, Repr

/-- The most recent search as JSON. -/
def LastSearch.toJson (l : LastSearch) : Json :=
  .obj [("connection_id", .str l.connectionId), ("query", l.query.toJson),
    ("total", Json.nat l.total)]

/-- A session over connections with backends of type `β`. -/
structure Session (β : Type) where
  registry : Registry β
  cache : ResultCache
  last : Option LastSearch := none
  analyzer : Analyzer
  history : QueryHistory
  /-- The page size of a stream that does not give one. -/
  streamBatch : Nat
  /-- Requests sent, oldest first, with the ids of their connections. -/
  sent : List (String × Request) := []
  /-- How many searches have been recorded. -/
  recorded : Nat := 0
  deriving Inhabited

namespace Session

variable {β : Type} [SearchBackend β]

/-- A session over a registry with the settings of a configuration. -/
def create (c : EngineConfig) (registry : Registry β) : Except Fault (Session β) := do
  let analyzer ← Analyzer.create c
  return { registry, cache := ResultCache.empty c.cacheCapacity, analyzer,
           history := QueryHistory.empty c.maxQueryHistory, streamBatch := c.streamBatchSize }

/-- Runs an exchange with a connection's backend and logs its requests. -/
def exchange (s : Session β) (connection : String) (x : Exchange α) :
    Except EngineError α × Session β :=
  let (r, requests) := x.run
  (r, { s with sent := s.sent ++ requests.map (connection, ·) })

/-- Runs an exchange with the backend of a connection, which must be registered. -/
def withBackend (s : Session β) (connection : String) (x : β → Exchange α) :
    Except EngineError α × Session β :=
  match s.registry.get connection with
  | .error e => (.error e, s)
  | .ok b => s.exchange connection (x b)

/-- Remembers the most recent search. -/
def remember (s : Session β) (connection : String) (q : SearchQuery) (total : Nat) : Session β :=
  { s with last := some ⟨connection, q, total⟩ }

/-- Records a successful search that took `elapsed` milliseconds: in the analyzer, in the
history and as the most recent search. -/
def recordSearch (s : Session β) (connection : String) (q : SearchQuery) (r : SearchResult)
    (now : Instant) (elapsed : Nat) : Except Fault (Session β) := do
  let n := s.recorded + 1
  let record : PerformanceRecord :=
    { queryId := "q-" ++ toString n, connectionId := connection, index := q.index,
      query := q.query, executionTime := elapsed, timestamp := now, resultCount := r.total,
      took := r.took, timedOut := r.timedOut, shards := r.shards }
  let (_, analyzer) ← s.analyzer.recordEntry record now
  let (_, history) := s.history.add ("h-" ++ toString n) q connection (some elapsed)
    (some r.total) now
  return ({ s with analyzer, history, recorded := n } : Session β).remember connection q r.total

/-- Serves a search from the cache when allowed, otherwise runs it and records it. -/
def execute (s : Session β) (connection : String) (q : SearchQuery) (useCache : Bool)
    (now : Instant) (elapsed : Nat) : Except Fault (Except EngineError SearchResult × Session β) :=
  let key := q.cacheKey connection
  let (hit, s) := if useCache then
      let (r, cache) := s.cache.get key
      (r, { s with cache })
    else (none, s)
  match hit with
  | some r => .ok (.ok r, s.remember connection q r.total)
  | none =>
    match s.withBackend connection (Sift.execute · q) with
    | (.error e, s) => .ok (.error e, s)
    | (.ok r, s) => do
      let s := if useCache then { s with cache := s.cache.insert key r } else s
      let s ← s.recordSearch connection q r now elapsed
      return (.ok r, s)

/-- Runs page `page` of the most recent search (page 0 counts as page 1), `pageSize` hits per
page or else the search's own size. A start beyond `2^64 - 1` is an invalid page. -/
def goToPage (s : Session β) (connection : String) (page : Nat) (pageSize : Option Nat)
    (now : Instant) (elapsed : Nat) : Except Fault (Except EngineError SearchResult × Session β) :=
  match s.last with
  | none => .ok (.error .noPreviousQuery, s)
  | some last =>
    let size := pageSize.getD last.query.size
    let start := (page - 1) * size
    if start ≥ Nat.pow 2 64 then .ok (.error (.invalidPage page), s)
    else s.execute connection (last.query.withWindow start size) true now elapsed

/-- The page after the most recent search, if it is worth fetching. -/
def nextPage? (s : Session β) (connection : String) : Option SearchQuery :=
  match s.last with
  | none => none
  | some last =>
    let size := last.query.size
    let next := last.query.from + size
    if next ≥ Nat.pow 2 64 ∨ size = 0 ∨ next ≥ last.total then none
    else
      let q := last.query.withWindow next size
      if s.cache.contains (q.cacheKey connection) then none else some q

/-- Fetches the next page into the cache; says whether a fetch was made. -/
def preload (s : Session β) (connection : String) : Bool × Session β :=
  match s.nextPage? connection with
  | none => (false, s)
  | some q =>
    match s.withBackend connection (Sift.execute · q) with
    | (.ok r, s) => (true, { s with cache := s.cache.insert (q.cacheKey connection) r })
    | (.error _, s) => (true, s)

/-- Pages through a search; the page size defaults to the session's stream batch. -/
def stream (s : Session β) (connection : String) (q : SearchQuery) (pageSize : Option Nat)
    (maxResults : Option Nat) : Except EngineError StreamOutcome × Session β :=
  s.withBackend connection fun b => executeStream b q (pageSize.getD s.streamBatch) maxResults

/-- Runs aggregations on an index. -/
def aggregate (s : Session β) (connection index : String) (query : Option Json)
    (specs : List AggregationSpec) (size : Option Nat) :
    Except EngineError SearchResult × Session β :=
  s.withBackend connection fun b => executeAggregation b index query specs size

/-- The fields of an index, from its mapping. -/
def fields (s : Session β) (connection index : String) :
    Except EngineError (List FieldInfo) × Session β :=
  s.withBackend connection fun b => do
    let mapping ← sendMapping b index
    return indexFields mapping index

/-- Empties the cache (its counters stay) and forgets the most recent search. -/
def reset (s : Session β) : Session β := { s with cache := s.cache.clear, last := none }

/-- Unregisters a connection. -/
def removeConnection (s : Session β) (connection : String) : Except EngineError (Session β) := do
  let registry ← s.registry.remove connection
  return { s with registry }

end Session

end Sift
