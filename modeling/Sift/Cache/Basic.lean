import Std.Data.HashMap
import Sift.Search.Query
import Sift.Search.Result

/-!
# The result cache

Pages of results are cached under the key of the request that produced them
(`SearchQuery.cacheKey`: connection, index, query, sort, start and capped size). The cache holds
at most its capacity of entries and evicts strictly first in, first out: reading an entry does
not refresh it, and storing under a key already present replaces the result in place. Reads
are counted as hits or misses.

The results sit in a hash map (`entries`); a list (`order`) keeps the keys in the order they
were first stored, oldest first. Storing a new key appends it to the order, and eviction then
pops keys from the front of the order, dropping their results, while the map holds more results
than the capacity.
-/

namespace Sift

/-- Cached results by key, their keys in insertion order, and the read counters. -/
structure ResultCache where
  entries : Std.HashMap String SearchResult
  /-- Keys in the order they were first stored, oldest first. -/
  order : List String
  capacity : Nat
  hits : Nat := 0
  misses : Nat := 0
  deriving Inhabited

namespace ResultCache

/-- An empty cache. -/
def empty (capacity : Nat) : ResultCache :=
  { entries := Std.HashMap.emptyWithCapacity capacity, order := [], capacity }

/-- The result under a key, if any. -/
def find? (c : ResultCache) (key : String) : Option SearchResult := c.entries[key]?

/-- Whether a key has a result; not counted as a read. -/
def contains (c : ResultCache) (key : String) : Bool := c.entries.contains key

/-- Reads the result under a key, counting a hit or a miss. -/
def get (c : ResultCache) (key : String) : Option SearchResult × ResultCache :=
  match c.find? key with
  | some r => (some r, { c with hits := c.hits + 1 })
  | none => (none, { c with misses := c.misses + 1 })

/-- Pops the oldest keys, dropping their results, while the map holds more results than
`capacity`; stops when the order runs out. -/
def evict (capacity : Nat) :
    Std.HashMap String SearchResult → List String → Std.HashMap String SearchResult × List String
  | entries, [] => (entries, [])
  | entries, oldest :: rest =>
    if capacity < entries.size then evict capacity (entries.erase oldest) rest
    else (entries, oldest :: rest)

/-- Stores a result: in place under a known key, otherwise as the newest entry, evicting the
oldest entries beyond the capacity. -/
def insert (c : ResultCache) (key : String) (r : SearchResult) : ResultCache :=
  if c.entries.contains key then { c with entries := c.entries.insert key r }
  else
    let (entries, order) := evict c.capacity (c.entries.insert key r) (c.order ++ [key])
    { c with entries, order }

/-- The cache without entries; the counters stay. -/
def clear (c : ResultCache) : ResultCache := { c with entries := ∅, order := [] }

/-- The number of entries. -/
def size (c : ResultCache) : Nat := c.entries.size

/-- Entries, capacity and read counters as JSON. -/
def statsJson (c : ResultCache) : Json :=
  .obj [("entries", Json.nat c.size), ("capacity", Json.nat c.capacity),
    ("hits", Json.nat c.hits), ("misses", Json.nat c.misses)]

end ResultCache

end Sift
