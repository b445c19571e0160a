import Sift.Search.Query
import Sift.Time.Rfc3339
import Sift.Text.Lower

/-!
# Query history and favorites

The history lists executed searches, newest first, within a capacity. Recording a search that
equals one already recorded on the same connection replaces that item where it stands; any other
search goes in front and the oldest items beyond the capacity are dropped. Favorites are named
copies of history items under their own ids, newest first, without a bound.

A keyword search compares lowercase forms: an item matches when the lowercase compact text of its
search, or its lowercase name, contains the lowercase keyword.
-/

namespace Sift

open Json Time

/-- A recorded search. -/
structure HistoryItem where
  id : String := ""
  name : Option String := none
  query : SearchQuery := {}
  connectionId : String := ""
  timestamp : Instant := ⟨0, 0⟩
  executionTime : Option Nat := none
  resultCount : Option Nat := none
  deriving Inhabited, Repr

namespace HistoryItem

/-- An item as JSON, fields in declaration order; no `name` when there is none. -/
def toJson (h : HistoryItem) : Json :=
  .obj ([("id", .str h.id)] ++ (match h.name with | some n => [("name", .str n)] | none => []) ++
    [("query", h.query.toJson), ("connection_id", .str h.connectionId),
     ("timestamp", .str h.timestamp.render),
     ("execution_time_ms", match h.executionTime with | some n => Json.nat n | none => .null),
     ("result_count", match h.resultCount with | some n => Json.nat n | none => .null)])

/-- The keys of an item; `id`, `query`, `connection_id` and `timestamp` are required. -/
def shape : Shape :=
  { name := "HistoryItem",
    fields := [["id"], ["name"], ["query"], ["connection_id"], ["timestamp"],
      ["execution_time_ms"], ["result_count"]] }

/-- Reads an item. -/
def decode : Decoder HistoryItem :=
  shape.read [0, 2, 3, 4] ({} : HistoryItem) fun h f v =>
    match f with
    | 0 => return { h with id := ← Decode.string v }
    | 1 => return { h with name := ← Decode.option Decode.string v }
    | 2 => return { h with query := ← SearchQuery.decode v }
    | 3 => return { h with connectionId := ← Decode.string v }
    | 4 => return { h with timestamp := ← Decode.instant v }
    | 5 => return { h with executionTime := ← Decode.option Decode.u64 v }
    | _ => return { h with resultCount := ← Decode.option Decode.u64 v }

/-- Whether a text contains another, character by character. -/
def mentions (needle : List Char) : List Char → Bool
  | [] => needle.isEmpty
  | c :: rest => needle.isPrefixOf (c :: rest) || mentions needle rest

/-- Whether an item matches a lowercase keyword. -/
def matchesKeyword (keyword : String) (h : HistoryItem) : Bool :=
  mentions keyword.toList (Text.lowercase h.query.toJson.compact).toList ||
    h.name.any fun n => mentions keyword.toList (Text.lowercase n).toList

end HistoryItem

/-- The history and the favorites. -/
structure QueryHistory where
  /-- Newest first. -/
  items : List HistoryItem := []
  /-- Newest first. -/
  favorites : List HistoryItem := []
  capacity : Nat
  deriving Inhabited

/-- The history and favorites as kept between runs. -/
structure HistorySnapshot where
  history : List HistoryItem := []
  favorites : List HistoryItem := []

namespace HistorySnapshot

/-- A snapshot as JSON. -/
def toJson (s : HistorySnapshot) : Json :=
  .obj [("history", .arr (s.history.map HistoryItem.toJson)),
    ("favorites", .arr (s.favorites.map HistoryItem.toJson))]

/-- The keys of a snapshot; both are required. -/
def shape : Shape := { name := "HistorySnapshot", fields := [["history"], ["favorites"]] }

/-- Reads a snapshot. -/
def decode : Decoder HistorySnapshot :=
  shape.read [0, 1] ({} : HistorySnapshot) fun s f v =>
    match f with
    | 0 => return { s with history := ← Decode.list HistoryItem.decode v }
    | _ => return { s with favorites := ← Decode.list HistoryItem.decode v }

end HistorySnapshot

namespace QueryHistory

/-- An empty history. -/
def empty (capacity : Nat) : QueryHistory := { capacity }

/-- Records a search under a fresh id at time `now`: in place of an equal search on the same
connection, else in front within capacity. -/
def add (h : QueryHistory) (id : String) (q : SearchQuery) (connection : String)
    (executionTime resultCount : Option Nat) (now : Instant) : HistoryItem × QueryHistory :=
  let item : HistoryItem := { id, query := q, connectionId := connection, timestamp := now,
                              executionTime, resultCount }
  match h.items.findIdx? fun x => x.connectionId == connection && x.query.sameAs q with
  | some i => (item, { h with items := h.items.set i item })
  | none => (item, { h with items := (item :: h.items).take h.capacity })

/-- The item with an id. -/
def get? (h : QueryHistory) (id : String) : Option HistoryItem := h.items.find? (·.id == id)

/-- The items of a connection. -/
def forConnection (h : QueryHistory) (connection : String) : List HistoryItem :=
  h.items.filter (·.connectionId == connection)

/-- The items that match a keyword, compared in lowercase. -/
def search (h : QueryHistory) (keyword : String) : List HistoryItem :=
  h.items.filter (HistoryItem.matchesKeyword (Text.lowercase keyword))

/-- Drops the items with an id and says whether there were any. -/
def remove (h : QueryHistory) (id : String) : Bool × QueryHistory :=
  let kept := h.items.filter (·.id != id)
  (kept.length != h.items.length, { h with items := kept })

/-- The history without items; favorites stay. -/
def clear (h : QueryHistory) : QueryHistory := { h with items := [] }

/-- Saves a copy of an item as a favorite under a fresh id, named `name` or else
`Query <timestamp>`. -/
def addFavorite (h : QueryHistory) (item : HistoryItem) (id : String) (name : Option String) :
    HistoryItem × QueryHistory :=
  let fav := { item with id, name := some (name.getD ("Query " ++ item.timestamp.renderPlain)) }
  (fav, { h with favorites := fav :: h.favorites })

/-- Renames the first favorite with an id. -/
def renameFavorite (h : QueryHistory) (id name : String) : Option HistoryItem × QueryHistory :=
  match h.favorites.findIdx? (·.id == id) with
  | some i =>
    let fav := { h.favorites[i]?.getD {} with name := some name }
    (some fav, { h with favorites := h.favorites.set i fav })
  | none => (none, h)

/-- Drops the favorites with an id and says whether there were any. -/
def removeFavorite (h : QueryHistory) (id : String) : Bool × QueryHistory :=
  let kept := h.favorites.filter (·.id != id)
  (kept.length != h.favorites.length, { h with favorites := kept })

/-- The snapshot of the history. -/
def snapshot (h : QueryHistory) : HistorySnapshot := ⟨h.items, h.favorites⟩

/-- The history holding a snapshot's items, within capacity, and its favorites. -/
def restore (h : QueryHistory) (s : HistorySnapshot) : QueryHistory :=
  { h with items := s.history.take h.capacity, favorites := s.favorites }

end QueryHistory

end Sift
