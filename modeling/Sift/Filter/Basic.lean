import Sift.Decode.Basic

/-!
# Filter trees

A filter is authored as a forest of *groups*. A group places its *conditions*, and the bool
queries of its nested groups, under one *occurrence*: `must`, `should`, `must_not` or `filter`.
A condition names a field, an operator, a value and the field's data type.

Each type reads from JSON with its defaults (`Condition.decode`, `Group.decode`,
`SortSpec.decode`) and writes back to JSON (`toJson`). Unknown operator and data type names are
kept as `unsupported` and `other`; `dataType` is another key for `data_type`, `subgroups`
another key for `groups`.
-/

namespace Sift

open Json

/-- How a condition compares its field with its value. -/
inductive Operator where
  | equals
  | notEquals
  | contains
  | startsWith
  | endsWith
  | greaterThan
  | greaterEqual
  | lessThan
  | lessEqual
  | between
  | oneOf
  | noneOf
  | present
  | absent
  | regex
  | unsupported
  deriving DecidableEq, Repr, Inhabited

namespace Operator

/-- All operators in order. -/
def all : List Operator :=
  [.equals, .notEquals, .contains, .startsWith, .endsWith, .greaterThan, .greaterEqual,
    .lessThan, .lessEqual, .between, .oneOf, .noneOf, .present, .absent, .regex, .unsupported]

/-- The name an operator has in JSON. -/
def name : Operator → String
  | .equals => "equals"
  | .notEquals => "not_equals"
  | .contains => "contains"
  | .startsWith => "starts_with"
  | .endsWith => "ends_with"
  | .greaterThan => "greater_than"
  | .greaterEqual => "greater_equal"
  | .lessThan => "less_than"
  | .lessEqual => "less_equal"
  | .between => "between"
  | .oneOf => "in"
  | .noneOf => "not_in"
  | .present => "exists"
  | .absent => "not_exists"
  | .regex => "regex"
  | .unsupported => "unsupported"

/-- The operator a name denotes. -/
def ofName? (s : String) : Option Operator := all.find? (·.name == s)

/-- Whether an operator is about the field alone, so that its value does not matter. -/
def ignoresValue : Operator → Bool
  | .present | .absent => true
  | _ => false

/-- Reads an operator; an unknown name is `unsupported`. -/
def decode : Decoder Operator :=
  Decode.variant (all.map name) (some .unsupported) ofName?

end Operator

/-- The type of the indexed field a condition is about. -/
inductive DataType where
  | text
  | keyword
  | number
  | date
  | boolean
  | other
  deriving DecidableEq, Repr, Inhabited

namespace DataType

/-- All data types in order. -/
def all : List DataType := [.text, .keyword, .number, .date, .boolean, .other]

/-- The name a data type has in JSON. -/
def name : DataType → String
  | .text => "text"
  | .keyword => "keyword"
  | .number => "number"
  | .date => "date"
  | .boolean => "boolean"
  | .other => "other"

/-- The data type a name denotes. -/
def ofName? (s : String) : Option DataType := all.find? (·.name == s)

/-- Reads a data type; an unknown name is `other`. -/
def decode : Decoder DataType :=
  Decode.variant (all.map name) (some .other) ofName?

end DataType

/-- One atomic test on a field. -/
structure Condition where
  id : String := ""
  field : String := ""
  operator : Option Operator := none
  value : Json := .null
  dataType : DataType := .text
  deriving Inhabited, Repr

namespace Condition

/-- The keys of a condition: `data_type` may also be written `dataType`. -/
def shape : Shape :=
  { name := "Condition",
    fields := [["id"], ["field"], ["operator"], ["value"], ["data_type", "dataType"]] }

/-- Reads a condition; every field has a default. -/
def decode : Decoder Condition :=
  shape.read [] ({} : Condition) fun c f v =>
    match f with
    | 0 => return { c with id := ← Decode.string v }
    | 1 => return { c with field := ← Decode.string v }
    | 2 => return { c with operator := ← Decode.option Operator.decode v }
    | 3 => return { c with value := ← Decode.value v }
    | _ => return { c with dataType := ← DataType.decode v }

/-- A condition as JSON. -/
def toJson (c : Condition) : Json :=
  .obj [("id", .str c.id), ("field", .str c.field),
    ("operator", match c.operator with | some o => .str o.name | none => .null),
    ("value", c.value), ("data_type", .str c.dataType.name)]

end Condition

/-- Where a group's clauses go in the enclosing bool query. -/
inductive Occur where
  | must
  | should
  | mustNot
  | filter
  deriving DecidableEq, Repr, Inhabited

namespace Occur

/-- All occurrences in order. -/
def all : List Occur := [.must, .should, .mustNot, .filter]

/-- The name of an occurrence, which is also the key of its bucket. -/
def name : Occur → String
  | .must => "must"
  | .should => "should"
  | .mustNot => "must_not"
  | .filter => "filter"

/-- The occurrence a name denotes. -/
def ofName? (s : String) : Option Occur := all.find? (·.name == s)

/-- Reads an occurrence; only the four names are accepted. -/
def decode : Decoder Occur :=
  Decode.variant (all.map name) none ofName?

end Occur

/-- A node of a filter tree: conditions and nested groups under one occurrence. -/
structure Group where
  id : String := ""
  occur : Occur := .must
  conditions : List Condition := []
  groups : List Group := []
  deriving Inhabited, Repr

namespace Group

/-- The keys of a group: `groups` may also be written `subgroups`. -/
def shape : Shape :=
  { name := "Group", fields := [["id"], ["operator"], ["conditions"], ["groups", "subgroups"]] }

/-- Reads a group whose nesting is at most `fuel` levels deep; every field has a default. -/
def decodeWithin : Nat → Decoder Group
  | 0 => fun j => .error (Decode.wrongType j "struct Group")
  | fuel + 1 => fun j =>
    shape.read [] ({} : Group) (fun g f v =>
      match f with
      | 0 => return { g with id := ← Decode.string v }
      | 1 => return { g with occur := ← Occur.decode v }
      | 2 => return { g with conditions := ← Decode.list Condition.decode v }
      | _ => return { g with groups := ← Decode.list (decodeWithin fuel) v }) j

/-- Reads a group and its nested groups. A document of depth `d` holds groups nested at most
`d` deep, so `d + 1` levels always suffice. -/
def decode (j : Json) : Except DecodeError Group := decodeWithin (j.depth + 1) j

mutual

/-- A group as JSON, fields in declaration order: `id`, `operator`, `conditions`, `groups`. -/
def toJson : Group → Json
  | ⟨id, occur, conditions, groups⟩ =>
    .obj [("id", .str id), ("operator", .str occur.name),
      ("conditions", .arr (conditions.map Condition.toJson)), ("groups", .arr (toJsonList groups))]

/-- Nested groups as JSON, in order. -/
def toJsonList : List Group → List Json
  | [] => []
  | g :: gs => toJson g :: toJsonList gs

end

end Group

end Sift
