import Sift.Filter.Clause

/-!
# Compiling filter trees

A forest of groups compiles to one bool query. Each group contributes its *fragments*: the
clauses of its conditions (omitted ones dropped), then, for each nested group that has fragments
of its own, the bool query of that nested group alone. The fragments go to the end of the bucket
named by the group's occurrence, so sibling groups with the same occurrence concatenate into one
bucket, in order. A forest without any fragment compiles to `{"match_all":{}}`.

`BoolQuery.merge` joins two bool queries bucket by bucket; compiling a forest is a homomorphism
from forests under concatenation to bool queries under `merge`.
-/

namespace Sift

open Json

/-- The four buckets of a bool query. -/
structure BoolQuery where
  must : List Json := []
  should : List Json := []
  mustNot : List Json := []
  filter : List Json := []
  deriving Inhabited, Repr

namespace BoolQuery

/-- The bucket of an occurrence. -/
def bucket (q : BoolQuery) : Occur → List Json
  | .must => q.must
  | .should => q.should
  | .mustNot => q.mustNot
  | .filter => q.filter

/-- Appends clauses to the bucket of an occurrence. -/
def extend (q : BoolQuery) (o : Occur) (cs : List Json) : BoolQuery :=
  match o with
  | .must => { q with must := q.must ++ cs }
  | .should => { q with should := q.should ++ cs }
  | .mustNot => { q with mustNot := q.mustNot ++ cs }
  | .filter => { q with filter := q.filter ++ cs }

/-- Whether every bucket is empty. -/
def isEmpty (q : BoolQuery) : Bool :=
  q.must.isEmpty && q.should.isEmpty && q.mustNot.isEmpty && q.filter.isEmpty

/-- Two bool queries joined bucket by bucket, the first one's clauses first. -/
def merge (a b : BoolQuery) : BoolQuery :=
  { must := a.must ++ b.must, should := a.should ++ b.should,
    mustNot := a.mustNot ++ b.mustNot, filter := a.filter ++ b.filter }

/-- The body of a bool query: its non-empty buckets by name. -/
def body (q : BoolQuery) : Json :=
  let bucket (name : String) (cs : List Json) : List (String × Json) :=
    if cs.isEmpty then [] else [(name, .arr cs)]
  .obj (bucket "filter" q.filter ++ bucket "must" q.must ++ bucket "must_not" q.mustNot ++
    bucket "should" q.should)

/-- `{"bool": body}`. -/
def toJson (q : BoolQuery) : Json := .obj [("bool", q.body)]

end BoolQuery

/-- Joins two optional bool queries; nothing is the unit. -/
def BoolQuery.mergeOpt : Option BoolQuery → Option BoolQuery → Option BoolQuery
  | none, b => b
  | a, none => a
  | some a, some b => some (a.merge b)

mutual

/-- The fragments of a group: its conditions' clauses, then one bool query per nested group
that has fragments. -/
def Group.fragments : Group → List Json
  | ⟨_, _, conditions, groups⟩ => conditions.filterMap Condition.clause? ++ Group.nested groups

/-- The bool queries of nested groups, each alone, skipping groups without fragments. -/
def Group.nested : List Group → List Json
  | [] => []
  | g :: gs =>
    let fs := g.fragments
    (if fs.isEmpty then [] else [(BoolQuery.extend ({} : BoolQuery) g.occur fs).toJson]) ++
      Group.nested gs

end

/-- The bool query of a forest: each group's fragments appended to its occurrence's bucket;
nothing when no group has fragments. -/
def reduceGroups (gs : List Group) : Option BoolQuery :=
  let q := gs.foldl (fun acc g => acc.extend g.occur g.fragments) ({} : BoolQuery)
  if q.isEmpty then none else some q

/-- The query of a forest: its bool query, or `{"match_all":{}}`. -/
def compileQuery (gs : List Group) : Json :=
  match reduceGroups gs with
  | some q => q.toJson
  | none => Json.matchAll

end Sift
