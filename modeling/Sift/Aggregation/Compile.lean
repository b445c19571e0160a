import Sift.Aggregation.Basic

/-!
# Compiling aggregation trees

A forest of specs compiles to an `aggs` object with one entry per spec, keyed by its name:
`{name: {dsl_name: body, "aggs": children}}`, where `"aggs"` appears only for a spec with
sub-aggregations. The body of a metric is `{"field": field}`; the body of a bucket aggregation
is `{"field": field}` overlaid with the kind's defaults and then with the spec's parameters, a
later layer winning.

Siblings are checked in order, each before its own sub-aggregations and those before the next
sibling: an empty name, then a name used by an earlier sibling, then an unknown kind. The first
failure is the answer.
-/

namespace Sift

open Json

/-- Why an aggregation tree does not compile. -/
inductive CompileError where
  | unsupportedAggregation (name kind : String)
  | emptyAggregationName
  | duplicateAggregationName (name : String)
  deriving DecidableEq, Repr

/-- The wording of a compile failure. -/
def CompileError.message : CompileError → String
  | .unsupportedAggregation name kind =>
    "unsupported aggregation type '" ++ kind ++ "' for aggregation '" ++ name ++ "'"
  | .emptyAggregationName => "aggregation name must not be empty"
  | .duplicateAggregationName name =>
    "duplicate aggregation name '" ++ name ++ "' at the same nesting level"

/-- The name of a compile failure's kind. -/
def CompileError.kindName : CompileError → String
  | .unsupportedAggregation .. => "UnsupportedAggregation"
  | .emptyAggregationName => "EmptyAggregationName"
  | .duplicateAggregationName _ => "DuplicateAggregationName"

/-- The DSL body of a spec of a known kind. -/
def AggregationSpec.body (s : AggregationSpec) (k : AggregationKind) : Json :=
  Json.object ([("field", .str s.field)] ++
    if k.isBucket then k.defaults ++ s.params else [])

mutual

/-- The entry of one spec: its kind's DSL body and, if it has any, its compiled
sub-aggregations. -/
def AggregationSpec.compile : AggregationSpec → Except CompileError Json
  | s@⟨_, name, kind, _, _, subs⟩ =>
    match AggregationKind.parse kind with
    | .error k => .error (.unsupportedAggregation name k)
    | .ok k =>
      if subs.isEmpty then .ok (Json.object [(k.dslName, s.body k)])
      else
        match compileSiblings subs [] with
        | .ok children => .ok (Json.object [(k.dslName, s.body k), ("aggs", Json.object children)])
        | .error e => .error e

/-- The entries of siblings, in order, given the names of earlier siblings. -/
def compileSiblings : List AggregationSpec → List String →
    Except CompileError (List (String × Json))
  | [], _ => .ok []
  | s :: rest, seen =>
    if s.name.isEmpty then .error .emptyAggregationName
    else if seen.contains s.name then .error (.duplicateAggregationName s.name)
    else
      match s.compile with
      | .error e => .error e
      | .ok entry =>
        match compileSiblings rest (s.name :: seen) with
        | .ok entries => .ok ((s.name, entry) :: entries)
        | .error e => .error e

end

/-- The `aggs` object of a forest of specs. -/
def compileAggregations (specs : List AggregationSpec) : Except CompileError Json :=
  (compileSiblings specs []).map Json.object

end Sift
