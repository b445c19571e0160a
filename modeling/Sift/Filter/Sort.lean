import Sift.Decode.Basic

/-!
# Sort specifications

A sort spec names a field and an order. A list of specs compiles to the DSL's sort list,
`[{field: {"order": "asc"}}, …]`, skipping specs with an empty field; a list with nothing left
compiles to nothing.
-/

namespace Sift

open Json

/-- Ascending or descending. -/
inductive SortOrder where
  | asc
  | desc
  deriving DecidableEq, Repr, Inhabited

namespace SortOrder

/-- The name of an order. -/
def name : SortOrder → String
  | .asc => "asc"
  | .desc => "desc"

/-- Reads an order: `asc` or `desc`. -/
def decode : Decoder SortOrder :=
  Decode.variant ["asc", "desc"] none fun s =>
    if s = "asc" then some .asc else if s = "desc" then some .desc else none

end SortOrder

/-- One sort key. -/
structure SortSpec where
  field : String := ""
  order : SortOrder := .asc
  deriving Inhabited, Repr

namespace SortSpec

/-- The keys of a sort spec; `field` is required. -/
def shape : Shape := { name := "SortSpec", fields := [["field"], ["order"]] }

/-- Reads a sort spec. -/
def decode : Decoder SortSpec :=
  shape.read [0] ({} : SortSpec) fun s f v =>
    match f with
    | 0 => return { s with field := ← Decode.string v }
    | _ => return { s with order := ← SortOrder.decode v }

/-- A sort spec as JSON. -/
def toJson (s : SortSpec) : Json := .obj [("field", .str s.field), ("order", .str s.order.name)]

/-- The DSL clause of a sort spec. -/
def clause (s : SortSpec) : Json := .obj [(s.field, .obj [("order", .str s.order.name)])]

end SortSpec

/-- The DSL sort list of specs, skipping empty fields; nothing when none is left. -/
def compileSort (specs : List SortSpec) : Option (List Json) :=
  match (specs.filter (!·.field.isEmpty)).map SortSpec.clause with
  | [] => none
  | cs => some cs

end Sift
