import Sift.Backend.Basic

/-!
# An in-memory backend

A backend over a fixed list of hits, for running the engine without a cluster. A search reads
`from` (default 0) and `size` (default 10) from its body, caps the size by the page cap if there
is one, and answers the hits of that window with a fixed envelope: `took` 3, not timed out, one
successful shard, and `hits.total` as configured (by default the number of hits, with relation
`eq`). Top-level keys of the response can be replaced. The mapping of an index is as configured,
by default one text field `title`. While failing, every request is answered with an HTTP error.
-/

namespace Sift

open Json

/-- An in-memory backend. -/
structure MemoryBackend where
  corpus : List Json := []
  /-- The `hits.total` to report; by default the corpus size with relation `eq`. -/
  total : Option Json := none
  /-- The most hits one response carries. -/
  pageCap : Option Nat := none
  /-- Top-level keys that replace those of every search response. -/
  overrides : List (String × Json) := []
  /-- The mapping response; by default one text field `title` under the index. -/
  mapping : Option Json := none
  failing : Bool := false
  status : Nat := 503
  errorBody : String := "unavailable"
  deriving Inhabited, Repr

namespace MemoryBackend

/-- A backend over hits `{"_id": "0"}` to `{"_id": "n-1"}`. -/
def numbered (n : Nat) : List Json :=
  (List.range n).map fun i => .obj [("_id", .str (toString i))]

/-- The reported `hits.total`. -/
def totalJson (m : MemoryBackend) : Json :=
  m.total.getD (Json.object [("value", Json.nat m.corpus.length), ("relation", .str "eq")])

/-- The response to a search with a body. -/
def respond (m : MemoryBackend) (body : Json) : Json :=
  let start := ((body.get? "from").bind Json.asU64?).getD 0
  let size := ((body.get? "size").bind Json.asU64?).getD 10
  let size := match m.pageCap with
    | some cap => min size cap
    | none => size
  let base := Json.object [("took", Json.nat 3), ("timed_out", .bool false),
    ("_shards", Json.object [("total", Json.nat 1), ("successful", Json.nat 1),
      ("skipped", Json.nat 0), ("failed", Json.nat 0)]),
    ("hits", Json.object [("total", m.totalJson),
      ("hits", .arr ((m.corpus.drop start).take size))])]
  m.overrides.foldl (fun r (k, v) => r.set k v) base

/-- The failure while failing. -/
def failure (m : MemoryBackend) : EngineError := .http m.status m.errorBody

/-- The default mapping of an index. -/
def defaultMapping (index : String) : Json :=
  Json.object [(index, Json.object [("mappings", Json.object [("properties",
    Json.object [("title", Json.object [("type", .str "text")])])])])]

instance : SearchBackend MemoryBackend where
  search m _ body := if m.failing then .error m.failure else .ok (m.respond body)
  mapping m index :=
    if m.failing then .error m.failure else .ok (m.mapping.getD (defaultMapping index))

end MemoryBackend

end Sift
