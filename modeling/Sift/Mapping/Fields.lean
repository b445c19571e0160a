import Sift.Json.Basic

/-!
# Field catalog

An index mapping lists its fields under `properties`; an object field lists its own under
`properties` and a multi-field its variants under `fields`. The catalog lists every node that
has a string `type`, in pre-order: a field, then its `properties`, then its `fields`, siblings
in key order. A node's name is its key, prefixed by its parent's name and a dot unless the
parent's name is empty.

A type is searchable when it is one of `text`, `keyword`, `long`, `integer`, `short`, `byte`,
`double`, `float`, `date`, `boolean`, and aggregatable when it is searchable and not `text`.
-/

namespace Sift

open Json

/-- The field types queries can search. -/
def searchableTypes : List String :=
  ["text", "keyword", "long", "integer", "short", "byte", "double", "float", "date", "boolean"]

/-- Whether a field type can be searched. -/
def isSearchable (t : String) : Bool := searchableTypes.contains t

/-- Whether a field type can be aggregated on. -/
def isAggregatable (t : String) : Bool := t != "text" && isSearchable t

/-- One field of the catalog. -/
structure FieldInfo where
  name : String
  fieldType : String
  searchable : Bool
  aggregatable : Bool
  deriving Inhabited, Repr

/-- A field as JSON. -/
def FieldInfo.toJson (f : FieldInfo) : Json :=
  .obj [("name", .str f.name), ("type", .str f.fieldType), ("searchable", .bool f.searchable),
    ("aggregatable", .bool f.aggregatable)]

/-- The info of a field of a type. -/
def FieldInfo.ofType (name t : String) : FieldInfo :=
  { name := name, fieldType := t, searchable := isSearchable t, aggregatable := isAggregatable t }

/-- A child's full name under a parent's. -/
def childName (parent name : String) : String :=
  if parent.isEmpty then name else parent ++ "." ++ name

mutual

/-- The catalog of a `properties` value under a parent name. -/
def collectFields (parent : String) : Json → List FieldInfo
  | .obj entries => collectEntries parent entries
  | _ => []

/-- The catalog of the entries of a `properties` object. -/
def collectEntries (parent : String) : List (String × Json) → List FieldInfo
  | [] => []
  | (name, config) :: rest =>
    let full := childName parent name
    let own := match config.get? "type" with
      | some (.str t) => [FieldInfo.ofType full t]
      | _ => []
    let nested := match config with
      | .obj cfs => collectConfig full "properties" cfs ++ collectConfig full "fields" cfs
      | _ => []
    own ++ nested ++ collectEntries parent rest

/-- The catalog under the configuration entry `key` of a field. -/
def collectConfig (full key : String) : List (String × Json) → List FieldInfo
  | [] => []
  | (k, v) :: rest =>
    (if k = key then collectFields full v else []) ++ collectConfig full key rest

end

/-- The catalog of a `properties` value. -/
def extractFields (properties : Json) : List FieldInfo := collectFields "" properties

/-- The catalog of an index in a mapping response: the fields under
`index.mappings.properties`, or none. -/
def indexFields (response : Json) (index : String) : List FieldInfo :=
  match response.get? index with
  | some m =>
    match m.getPath? ["mappings", "properties"] with
    | some p => extractFields p
    | none => []
  | none => []

end Sift
