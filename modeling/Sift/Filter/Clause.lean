import Sift.Filter.Basic
import Sift.Text.Blank

/-!
# Leaf clauses

`Condition.clause?` compiles one condition to one clause of the search DSL, or omits it. A
condition is omitted when its field is empty, it has no operator or an unsupported one, its
value is empty (`null`, `""` or `[]`) while the operator needs a value, or it is a `between`
whose value is not a pair. Otherwise the operator fixes the clause:

| operator | clause |
|---|---|
| equals | `match` for text fields, `term` otherwise |
| contains, ends_with | `wildcard` with `*text*`, `*text` |
| starts_with | `prefix` |
| greater_than … less_equal | `range` with `gt`, `gte`, `lt`, `lte` |
| between | `range` with `gte` and `lte` |
| in | `terms` with a list of terms |
| exists | `exists` |
| regex | `regexp` |

and `not_equals`, `not_in`, `not_exists` wrap the positive clause in `{"bool":{"must_not":[…]}}`.
-/

namespace Sift

open Json

/-- Whether a value counts as not given: `null`, the empty string or the empty array. -/
def Json.isBlankValue : Json → Bool
  | .null => true
  | .str s => s.isEmpty
  | .arr items => items.isEmpty
  | _ => false

/-- The text of a value inside a pattern: a string as it is, anything else as compact JSON. -/
def Json.patternText : Json → String
  | .str s => s
  | j => j.compact

/-- The terms of a comma-separated list: the parts between commas, each trimmed of blanks, with
the empty ones dropped. -/
def Text.commaTerms (s : String) : List String :=
  ((s.toList.splitOn ',').map fun part => Text.trimBlanks (String.ofList part)).filter (!·.isEmpty)

/-- The terms of an `in` value: a list as it is; a string split at commas, each part trimmed of
blanks and empty parts dropped; any other value alone. -/
def Json.termList : Json → List Json
  | .arr items => items
  | .str s => (Text.commaTerms s).map .str
  | j => [j]

namespace Clause

/-- `{key: {field: v}}`. -/
def onField (key field : String) (v : Json) : Json :=
  .obj [(key, .obj [(field, v)])]

/-- `{"bool":{"must_not":[c]}}`, the negation of a clause. -/
def negate (c : Json) : Json :=
  .obj [("bool", .obj [("must_not", .arr [c])])]

/-- The equality clause: `match` on text fields, `term` on all others. -/
def equality (field : String) (v : Json) (t : DataType) : Json :=
  if t = .text then onField "match" field v else onField "term" field v

/-- A range clause with one bound. -/
def range (field bound : String) (v : Json) : Json :=
  onField "range" field (.obj [(bound, v)])

/-- The `terms` clause of an `in` value. -/
def terms (field : String) (v : Json) : Json :=
  onField "terms" field (.arr v.termList)

/-- The `exists` clause of a field. -/
def present (field : String) : Json :=
  .obj [("exists", .obj [("field", .str field)])]

end Clause

/-- The clause of an operator on a field and a non-empty value (or any value for `exists` and
`not_exists`); nothing for `unsupported` and for a `between` that is not given a pair. -/
def Operator.clause? (op : Operator) (field : String) (v : Json) (t : DataType) : Option Json :=
  match op with
  | .equals => some (Clause.equality field v t)
  | .notEquals => some (Clause.negate (Clause.equality field v t))
  | .contains => some (Clause.onField "wildcard" field (.str ("*" ++ v.patternText ++ "*")))
  | .startsWith => some (Clause.onField "prefix" field v)
  | .endsWith => some (Clause.onField "wildcard" field (.str ("*" ++ v.patternText)))
  | .greaterThan => some (Clause.range field "gt" v)
  | .greaterEqual => some (Clause.range field "gte" v)
  | .lessThan => some (Clause.range field "lt" v)
  | .lessEqual => some (Clause.range field "lte" v)
  | .between =>
    match v with
    | .arr [low, high] => some (Clause.onField "range" field (.obj [("gte", low), ("lte", high)]))
    | _ => none
  | .oneOf => some (Clause.terms field v)
  | .noneOf => some (Clause.negate (Clause.terms field v))
  | .present => some (Clause.present field)
  | .absent => some (Clause.negate (Clause.present field))
  | .regex => some (Clause.onField "regexp" field v)
  | .unsupported => none

/-- The clause a condition compiles to, or nothing when it is omitted. -/
def Condition.clause? (c : Condition) : Option Json :=
  if c.field.isEmpty then none
  else
    match c.operator with
    | none => none
    | some op =>
      if !op.ignoresValue && c.value.isBlankValue then none
      else op.clause? c.field c.value c.dataType

end Sift
