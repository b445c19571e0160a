import Sift.Session.Basic

/-!
# Calls on a session

A caller drives a session by calls: a search (given as a query, or built from filter groups), a
page of the most recent search, a preload of the page after it, a stream, an aggregation, a
field lookup, or a reset. `Session.call` answers one call; `Session.run` answers calls one after
another, each with the clock readings it sees (when it records, and how long its search took),
and stops at the first fault.

The steps that make up a search are named here too, for the interleaved semantics
(`Sift.Session.Interleaving`) and for the proofs: `Session.lookup` serves the search from the
cache when allowed and counts a hit or a miss, `Session.send` sends it to the connection's
backend, and `Session.store` keeps its result in the cache when allowed. A page of the most recent
search is `LastSearch.pageWindow`; the page a preload would fetch is `LastSearch.next?`.
-/

namespace Sift

open Json Time

/-- A call on a session. -/
inductive SessionCall where
  | execute (connection : String) (q : SearchQuery) (useCache : Bool)
  | executeBuilder (connection : String) (b : BuilderSearch) (useCache : Bool)
  | goToPage (connection : String) (page : Nat) (pageSize : Option Nat)
  | preload (connection : String)
  | stream (connection : String) (q : SearchQuery) (pageSize maxResults : Option Nat)
  | aggregate (connection index : String) (query : Option Json) (specs : List AggregationSpec)
      (size : Option Nat)
  | fields (connection index : String)
  | reset

/-- What a call answers. -/
inductive SessionReply where
  | searched (r : Except EngineError SearchResult)
  /-- Whether a preload fetched a page. -/
  | scheduled (fetched : Bool)
  | streamed (r : Except EngineError StreamOutcome)
  | listed (r : Except EngineError (List FieldInfo))
  | done

/-- A call with the clock readings it sees: the time a search is recorded at, and how long the
search took. -/
structure TimedCall where
  call : SessionCall
  now : Instant
  elapsed : Nat

/-- The window of page `page` (counted from 1; page 0 is page 1) of the most recent search,
`pageSize` hits long or else as long as the search's own page. A start beyond `2^64 - 1` is an
invalid page. -/
def LastSearch.pageWindow (last : LastSearch) (page : Nat) (pageSize : Option Nat) :
    Except EngineError SearchQuery :=
  let size := pageSize.getD last.query.size
  let start := (page - 1) * size
  if start ≥ Nat.pow 2 64 then .error (.invalidPage page)
  else .ok (last.query.withWindow start size)

/-- The page after the most recent search, unless its start passes `2^64 - 1`, the page size is
0, or the start is at or past the total. -/
def LastSearch.next? (last : LastSearch) : Option SearchQuery :=
  let size := last.query.size
  let next := last.query.from + size
  if next ≥ Nat.pow 2 64 ∨ size = 0 ∨ next ≥ last.total then none
  else some (last.query.withWindow next size)

namespace Session

variable {β : Type} [SearchBackend β]

/-- Looks a search's key up in the cache when allowed, counting a hit or a miss. -/
def lookup (s : Session β) (key : String) (useCache : Bool) : Option SearchResult × Session β :=
  if useCache then
    let (r, cache) := s.cache.get key
    (r, { s with cache })
  else (none, s)

/-- Sends a search to the backend of its connection. -/
def send (s : Session β) (connection : String) (q : SearchQuery) :
    Except EngineError SearchResult × Session β :=
  s.withBackend connection (Sift.execute · q)

/-- Keeps a search's result in the cache when allowed. -/
def store (s : Session β) (key : String) (useCache : Bool) (r : SearchResult) : Session β :=
  if useCache then { s with cache := s.cache.insert key r } else s

/-- Answers one call, at time `now`, a search it sends taking `elapsed` milliseconds. -/
def call (s : Session β) (now : Instant) (elapsed : Nat) :
    SessionCall → Except Fault (SessionReply × Session β)
  | .execute c q useCache =>
    (s.execute c q useCache now elapsed).map fun (r, s) => (.searched r, s)
  | .executeBuilder c b useCache =>
    (s.execute c b.toQuery useCache now elapsed).map fun (r, s) => (.searched r, s)
  | .goToPage c page pageSize =>
    (s.goToPage c page pageSize now elapsed).map fun (r, s) => (.searched r, s)
  | .preload c => .ok (.scheduled (s.preload c).1, (s.preload c).2)
  | .stream c q pageSize maxResults =>
    .ok (.streamed (s.stream c q pageSize maxResults).1, (s.stream c q pageSize maxResults).2)
  | .aggregate c index query specs size =>
    .ok (.searched (s.aggregate c index query specs size).1,
      (s.aggregate c index query specs size).2)
  | .fields c index => .ok (.listed (s.fields c index).1, (s.fields c index).2)
  | .reset => .ok (.done, s.reset)

/-- Answers calls one after another; a fault ends the run. -/
def run (s : Session β) : List TimedCall → Except Fault (List SessionReply × Session β)
  | [] => .ok ([], s)
  | x :: xs => do
    let (reply, s) ← s.call x.now x.elapsed x.call
    let (replies, s) ← s.run xs
    return (reply :: replies, s)

end Session

end Sift
