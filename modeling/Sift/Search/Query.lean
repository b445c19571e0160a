import Sift.Filter.Compile
import Sift.Filter.Sort

/-!
# Search requests

A search query names an index, a DSL query, a window (`from`, `size`) and an optional sort
list. The backend serves at most `maxResultWindow` hits per request, so the body it is sent
caps the size (`effectiveSize`) while the query itself keeps what was asked.

The cache key of a request on a connection is the compact text of
`[connection, index, query, sort or null, from, effective size]`: two requests share a key
exactly when they would send the same body to the same index of the same connection.

A builder search is authored as filter groups and sort specs; `BuilderSearch.toQuery` compiles
it into a search query.
-/

namespace Sift

open Json

/-- The most hits one request may ask for. -/
def maxResultWindow : Nat := 10000

/-- An executable search. -/
structure SearchQuery where
  index : String := ""
  query : Json := Json.matchAll
  «from» : Nat := 0
  size : Nat := 10
  sort : Option (List Json) := none
  deriving Inhabited, Repr

namespace SearchQuery

/-- The keys of a search query; `index` is required. -/
def shape : Shape :=
  { name := "SearchQuery", fields := [["index"], ["query"], ["from"], ["size"], ["sort"]] }

/-- Reads a search query: `query` defaults to `{"match_all":{}}` (an explicit `null` stays),
`from` to 0, `size` to 10. -/
def decode : Decoder SearchQuery :=
  shape.read [0] ({} : SearchQuery) fun q f v =>
    match f with
    | 0 => return { q with index := ← Decode.string v }
    | 1 => return { q with query := ← Decode.value v }
    | 2 => return { q with «from» := ← Decode.usize v }
    | 3 => return { q with size := ← Decode.usize v }
    | _ => return { q with sort := ← Decode.option (Decode.list Decode.value) v }

/-- A search query as JSON, fields in the order `index, query, from, size, sort`; no `sort`
when there is none. -/
def toJson (q : SearchQuery) : Json :=
  .obj ([("index", .str q.index), ("query", q.query), ("from", Json.nat q.from),
    ("size", Json.nat q.size)] ++
    match q.sort with
    | some s => [("sort", .arr s)]
    | none => [])

/-- The size a request actually asks for. -/
def effectiveSize (q : SearchQuery) : Nat := min q.size maxResultWindow

/-- The same search over another window. -/
def withWindow (q : SearchQuery) (start size : Nat) : SearchQuery :=
  { q with «from» := start, size := size }

/-- The request body: `{from, query, size, sort?}` with the size capped. -/
def requestBody (q : SearchQuery) : Json :=
  .obj ([("from", Json.nat q.from), ("query", q.query), ("size", Json.nat q.effectiveSize)] ++
    match q.sort with
    | some s => [("sort", .arr s)]
    | none => [])

/-- The cache key of a request on a connection. -/
def cacheKey (connection : String) (q : SearchQuery) : String :=
  (Json.arr [.str connection, .str q.index, q.query,
    (match q.sort with | some s => .arr s | none => .null),
    Json.nat q.from, Json.nat q.effectiveSize]).compact

/-- Equality of searches: same index, window and sort, and the same query value. -/
def sameAs (a b : SearchQuery) : Bool :=
  a.index == b.index && a.query.sameAs b.query && a.from == b.from && a.size == b.size &&
    match a.sort, b.sort with
    | none, none => true
    | some x, some y => (Json.arr x).sameAs (.arr y)
    | _, _ => false

end SearchQuery

/-- A search authored as filter groups and sort specs. -/
structure BuilderSearch where
  index : String := ""
  groups : List Group := []
  sort : List SortSpec := []
  «from» : Nat := 0
  size : Nat := 10
  deriving Inhabited, Repr

namespace BuilderSearch

/-- The keys of a builder search; `index` is required. -/
def shape : Shape :=
  { name := "BuilderSearch", fields := [["index"], ["groups"], ["sort"], ["from"], ["size"]] }

/-- Reads a builder search. -/
def decode : Decoder BuilderSearch :=
  shape.read [0] ({} : BuilderSearch) fun b f v =>
    match f with
    | 0 => return { b with index := ← Decode.string v }
    | 1 => return { b with groups := ← Decode.list Group.decode v }
    | 2 => return { b with sort := ← Decode.list SortSpec.decode v }
    | 3 => return { b with «from» := ← Decode.usize v }
    | _ => return { b with size := ← Decode.usize v }

/-- The search query a builder search compiles to. -/
def toQuery (b : BuilderSearch) : SearchQuery :=
  { index := b.index, query := compileQuery b.groups, «from» := b.from, size := b.size,
    sort := compileSort b.sort }

end BuilderSearch

end Sift
