import Sift.Backend.Basic
import Sift.Search.Query
import Sift.Search.Result
import Sift.Aggregation.Compile

/-!
# Running searches against a backend

`execute` sends one search (its body from `SearchQuery.requestBody`) and normalizes the
response. `executeStream` pages through results from the query's start: each request asks for
the page size (capped at `maxResultWindow`) but never more than what is left of the limit; the
start advances by the hits actually returned, modulo `2^64`. It stops on an empty page, a page
shorter than asked, or once the limit is reached, and keeps only hits within the limit.
`executeAggregation` compiles aggregation specs (a compile error sends nothing) and sends
`{size, query, aggs}` with the size capped.
-/

namespace Sift

open Json

/-- Hits gathered over pages. -/
structure StreamOutcome where
  hits : List Json := []
  /-- `hits.total` of the first page. -/
  total : Nat := 0
  pages : Nat := 0
  deriving Inhabited, Repr

/-- Gathered hits as JSON. -/
def StreamOutcome.toJson (o : StreamOutcome) : Json :=
  .obj [("hits", .arr o.hits), ("total", Json.nat o.total), ("pages", Json.nat o.pages)]

variable {β : Type} [SearchBackend β]

/-- Runs one search. -/
def execute (b : β) (q : SearchQuery) : Exchange SearchResult := do
  let response ← sendSearch b q.index q.requestBody
  return normalize response

/-- Fetches pages from `start` until a stop condition; `fuel` bounds the number of pages. Each
page that does not stop the loop adds at least one hit below `limit`, so `limit + 1` pages of
fuel always suffice. -/
def streamPages (b : β) (q : SearchQuery) (pageSize limit : Nat) :
    Nat → Nat → StreamOutcome → Exchange StreamOutcome
  | 0, _, acc => pure acc
  | fuel + 1, start, acc =>
    if pageSize = 0 ∨ acc.hits.length ≥ limit then pure acc
    else do
      let requested := min pageSize (limit - acc.hits.length)
      let page ← execute b (q.withWindow start requested)
      let acc := { acc with total := if acc.pages = 0 then page.total else acc.total,
                            pages := acc.pages + 1 }
      let returned := page.hits.length
      if returned = 0 then return acc
      let acc := { acc with hits := acc.hits ++ page.hits.take (limit - acc.hits.length) }
      if returned < requested then return acc
      streamPages b q pageSize limit fuel ((start + returned) % Nat.pow 2 64) acc

/-- Pages through results from the query's start; `maxResults` absent means no limit beyond
the `2^64 - 1` hits a list can count. -/
def executeStream (b : β) (q : SearchQuery) (pageSize : Nat) (maxResults : Option Nat) :
    Exchange StreamOutcome :=
  let limit := maxResults.getD (Nat.pow 2 64 - 1)
  streamPages b q (min pageSize maxResultWindow) limit (limit + 1) q.from {}

/-- Compiles aggregations and runs them as `{size, query, aggs}`: the size defaults to 0 and
is capped, the query defaults to match-all. -/
def executeAggregation (b : β) (index : String) (query : Option Json)
    (specs : List AggregationSpec) (size : Option Nat) : Exchange SearchResult := do
  let aggs ← match compileAggregations specs with
    | .ok a => pure a
    | .error e => Exchange.fail (.compile e)
  let body := Json.object [("size", Json.nat (min (size.getD 0) maxResultWindow)),
    ("query", query.getD Json.matchAll), ("aggs", aggs)]
  let response ← sendSearch b index body
  return normalize response

end Sift
