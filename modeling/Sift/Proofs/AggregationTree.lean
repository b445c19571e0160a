import Mathlib
import Sift.Aggregation.Compile
import Sift.Proofs.ObjectFields

/-!
# Compiling aggregation trees

Two theorems describe `compileAggregations` on every forest of specs.

*The first broken rule.* A node of a forest breaks a rule when its name is empty, when an earlier
sibling under the same parent has its name, or when its type is not a kind `AggregationKind.parse`
knows, checked in that order (`AggregationSpec.violation`). Listing the nodes in pre-order, each
with the names of its earlier siblings (`AggregationSpec.nodesAll`), the forest fails to compile
exactly when some node breaks a rule, and the error is the one of the first such node
(`compileAggregations_eq_error_iff`). Since only siblings are compared, a name may come back at
another level or under another parent.

*The shape of a success.* A forest that compiles gives an object with one key per spec, its
name; under it the kind's DSL name holds the body, and `"aggs"` holds the compiled
sub-aggregations exactly when there are some. The body maps `"field"` to the spec's field, and
for a bucket kind is overlaid by the kind's defaults and then by the parameters, key by key
(`compileAggregations_ok_entries`).
-/

namespace Sift

open Json

namespace AggregationSpec

/-! ## One spec and one list of siblings -/

/-- A spec compiles as its kind says: an unknown kind fails, a known one gives the DSL entry,
with the compiled sub-aggregations under `"aggs"` when there are some. -/
theorem compile_eq (s : AggregationSpec) :
    s.compile =
      match AggregationKind.parse s.kind with
      | .error kind => .error (.unsupportedAggregation s.name kind)
      | .ok k =>
        if s.subAggregations.isEmpty then .ok (Json.object [(k.dslName, s.body k)])
        else (compileSiblings s.subAggregations []).map fun children =>
          Json.object [(k.dslName, s.body k), ("aggs", Json.object children)] := by
  obtain ⟨id, name, kind, field, params, subs⟩ := s
  rw [compile]
  cases AggregationKind.parse kind with
  | error kind => rfl
  | ok k =>
    simp only
    split
    · rfl
    · cases compileSiblings subs [] <;> rfl

/-- Siblings are checked one at a time: the name, then whether an earlier sibling has it, then
the spec itself, then the later siblings. -/
theorem compileSiblings_cons (s : AggregationSpec) (rest : List AggregationSpec)
    (seen : List String) :
    compileSiblings (s :: rest) seen =
      if s.name.isEmpty then .error .emptyAggregationName
      else if seen.contains s.name then .error (.duplicateAggregationName s.name)
      else s.compile >>= fun entry =>
        (compileSiblings rest (s.name :: seen)).map fun entries => (s.name, entry) :: entries := by
  rw [compileSiblings]
  split_ifs
  · rfl
  · rfl
  · cases s.compile with
    | error e => rfl
    | ok entry => cases compileSiblings rest (s.name :: seen) <;> rfl

end AggregationSpec

/-! ## The first broken rule -/

/-- A node of an aggregation forest, with the names of the siblings before it under the same
parent, the nearest first. -/
structure AggregationNode where
  earlier : List String
  spec : AggregationSpec

/-- The first rule a node breaks: an empty name, then a name an earlier sibling has, then a type
that `AggregationKind.parse` rejects. -/
def AggregationNode.violation (x : AggregationNode) : Option CompileError :=
  if x.spec.name.isEmpty then some .emptyAggregationName
  else if x.spec.name ∈ x.earlier then some (.duplicateAggregationName x.spec.name)
  else
    match AggregationKind.parse x.spec.kind with
    | .error kind => some (.unsupportedAggregation x.spec.name kind)
    | .ok _ => none

namespace AggregationSpec

mutual

/-- The nodes of a spec's tree in pre-order: the spec, then the trees of its sub-aggregations. -/
def nodes : AggregationSpec → List String → List AggregationNode
  | s@⟨_, _, _, _, _, subs⟩, earlier => ⟨earlier, s⟩ :: nodesAll subs []

/-- The nodes of the trees of siblings, one tree after the other. -/
def nodesAll : List AggregationSpec → List String → List AggregationNode
  | [], _ => []
  | s :: rest, earlier => nodes s earlier ++ nodesAll rest (s.name :: earlier)

end

theorem nodes_eq (s : AggregationSpec) (earlier : List String) :
    s.nodes earlier = ⟨earlier, s⟩ :: nodesAll s.subAggregations [] := by
  obtain ⟨id, name, kind, field, params, subs⟩ := s
  rw [nodes]

/-- A spec whose name passes its checks breaks no rule but through its type. -/
theorem violation_of_fresh {s : AggregationSpec} {earlier : List String}
    (hname : s.name.isEmpty = false) (hfresh : s.name ∉ earlier) :
    AggregationNode.violation ⟨earlier, s⟩ =
      match AggregationKind.parse s.kind with
      | .error kind => some (.unsupportedAggregation s.name kind)
      | .ok _ => none := by
  simp [AggregationNode.violation, hname, hfresh]

/-- A computation that fails with exactly the errors an option holds succeeds when the option is
empty. -/
theorem eq_none_of_error_iff {α : Type} {x : Except CompileError α} {o : Option CompileError}
    (h : ∀ e, x = .error e ↔ o = some e) {v : α} (hx : x = .ok v) : o = none := by
  cases o with
  | none => rfl
  | some e => cases hx ▸ (h e).2 rfl

mutual

/-- A spec whose name passes fails exactly with the first rule broken in its tree. -/
theorem compile_eq_error_iff : ∀ (s : AggregationSpec) (earlier : List String) (e : CompileError),
    s.name.isEmpty = false → s.name ∉ earlier →
      (s.compile = .error e ↔ (s.nodes earlier).findSome? AggregationNode.violation = some e)
  | s@⟨id, name, kind, field, params, subs⟩, earlier, e, hname, hfresh => by
    rw [compile_eq, nodes_eq, List.findSome?_cons, violation_of_fresh hname hfresh]
    cases hk : AggregationKind.parse kind with
    | error k => simp
    | ok k =>
      simp only
      cases subs with
      | nil => simp [nodesAll]
      | cons sub rest =>
        -- the type is known: the tree fails exactly when the sub-aggregations do
        have hsubs := compileSiblings_eq_error_iff (sub :: rest) [] e
        cases hc : compileSiblings (sub :: rest) [] with
        | error e' => simpa [hc, Except.map] using hsubs
        | ok children => simpa [hc, Except.map] using hsubs

/-- Siblings fail exactly with the first rule broken among their trees, in pre-order. -/
theorem compileSiblings_eq_error_iff : ∀ (specs : List AggregationSpec) (seen : List String)
    (e : CompileError),
      compileSiblings specs seen = .error e ↔
        (nodesAll specs seen).findSome? AggregationNode.violation = some e
  | [], seen, e => by simp [compileSiblings, nodesAll]
  | s :: rest, seen, e => by
    rw [compileSiblings_cons, nodesAll, List.findSome?_append]
    by_cases hname : s.name.isEmpty
    · simp [nodes_eq, AggregationNode.violation, hname]
    · by_cases hdup : s.name ∈ seen
      · simp [nodes_eq, AggregationNode.violation, hname, hdup]
      · have hname' : s.name.isEmpty = false := by simpa using hname
        have hs := compile_eq_error_iff s seen
        have hrest := compileSiblings_eq_error_iff rest (s.name :: seen) e
        have hcontains : seen.contains s.name = false := by simpa using hdup
        simp only [hname', hcontains, Bool.false_eq_true, if_false]
        cases hc : s.compile with
        | error e' =>
          -- the spec's own tree fails first
          rw [(hs e' hname' hdup).1 hc]
          simp [bind, Except.bind]
        | ok entry =>
          rw [eq_none_of_error_iff (fun e => hs e hname' hdup) hc]
          cases hr : compileSiblings rest (s.name :: seen) with
          | error e' => simpa [bind, Except.bind, Except.map, hr] using hrest
          | ok entries => simpa [bind, Except.bind, Except.map, hr] using hrest

end

end AggregationSpec

open AggregationSpec in
/-- A forest of aggregation specs fails to compile exactly when one of its nodes breaks a rule,
and then with the error of the first such node in pre-order, where a node's own checks come
before its sub-aggregations and those before its later siblings. -/
theorem compileAggregations_eq_error_iff (specs : List AggregationSpec) :
    ((∃ e, compileAggregations specs = .error e) ↔
      ∃ x ∈ nodesAll specs [], x.violation ≠ none) ∧
    ∀ e, compileAggregations specs = .error e ↔
      ∃ before x after, nodesAll specs [] = before ++ x :: after ∧
        (∀ y ∈ before, y.violation = none) ∧ x.violation = some e := by
  have herror : ∀ e, compileAggregations specs = .error e ↔
      (nodesAll specs []).findSome? AggregationNode.violation = some e := by
    intro e
    rw [← compileSiblings_eq_error_iff, compileAggregations]
    cases compileSiblings specs [] <;> simp [Except.map]
  refine ⟨?_, fun e => ?_⟩
  · simp only [herror]
    rw [← Option.isSome_iff_exists, List.findSome?_isSome_iff]
    simp only [Option.isSome_iff_ne_none]
  · rw [herror, List.findSome?_eq_some_iff]
    constructor
    · rintro ⟨before, x, after, hsplit, hx, hbefore⟩
      exact ⟨before, x, after, hsplit, hbefore, hx⟩
    · rintro ⟨before, x, after, hsplit, hbefore, hx⟩
      exact ⟨before, x, after, hsplit, hx, hbefore⟩

/- The unsupported kind under the first `a` comes before the repeated name `a` among the
top-level specs. -/
example :
    compileAggregations
      [{ name := "a", kind := "terms", field := "tag",
         subAggregations := [{ name := "bad", kind := "geo_grid", field := "loc" }] },
       { name := "a", kind := "avg", field := "x" }] =
      .error (.unsupportedAggregation "bad" "geo_grid") := by
  rfl

/-! ## The shape of a success -/

theorem AggregationKind.dslName_ne_aggs (k : AggregationKind) : k.dslName ≠ "aggs" := by
  cases k <;> simp [AggregationKind.dslName, AggregationKind.name]

namespace AggregationSpec

/-- What the body of a spec of kind `k` holds: an object with distinct keys, whose value at a key
is the one the parameters give it last, else the one the kind's defaults give it last (both only
for a bucket kind), else the spec's field at `"field"`. -/
def BodyOf (s : AggregationSpec) (k : AggregationKind) (body : Json) : Prop :=
  ∃ fields, body = .obj fields ∧ (fields.map Prod.fst).Nodup ∧
    ∀ key, fields.lookup key =
      (if k.isBucket then (s.params.reverse.lookup key).or (k.defaults.reverse.lookup key)
        else none).or ([("field", Json.str s.field)].lookup key)

/-- What the entry of a spec of kind `k` holds: the kind's DSL name, mapped to the body, and
`"aggs"` exactly when there are sub-aggregations, mapped to their compilation, an object with at
least one key; nothing else. -/
structure EntryOf (s : AggregationSpec) (k : AggregationKind) (entry : Json) : Prop where
  keys : ∃ fields, entry = .obj fields ∧
    (fields.map Prod.fst).Perm (k.dslName :: if s.subAggregations = [] then [] else ["aggs"])
  body : ∃ body, entry.get? k.dslName = some body ∧ s.BodyOf k body
  aggs : s.subAggregations ≠ [] → ∃ children, compileAggregations s.subAggregations = .ok children ∧
    entry.get? "aggs" = some children ∧ children ≠ .obj []

/-- The body is the field overlaid by the layers of a bucket kind. -/
theorem body_bodyOf (s : AggregationSpec) (k : AggregationKind) : s.BodyOf k (s.body k) := by
  refine ⟨_, rfl, keys_sortFields_nodup _, fun key => ?_⟩
  rw [lookup_sortFields, List.reverse_append, List.lookup_append, List.reverse_singleton]
  split
  · rw [List.reverse_append, List.lookup_append]
  · rfl

/-- Siblings that compile have distinct names, none of them seen before, and give one entry per
spec, keyed by its name and holding what the spec compiles to. -/
theorem compileSiblings_ok : ∀ {specs : List AggregationSpec} {seen : List String}
    {entries : List (String × Json)}, compileSiblings specs seen = .ok entries →
      entries.map Prod.fst = specs.map (·.name) ∧ (specs.map (·.name)).Nodup ∧
      (∀ s ∈ specs, s.name ∉ seen) ∧
      ∀ s ∈ specs, ∃ entry, (s.name, entry) ∈ entries ∧ s.compile = .ok entry
  | [], seen, entries, h => by
    simp only [compileSiblings, Except.ok.injEq] at h
    subst h
    simp
  | s :: rest, seen, entries, h => by
    rw [compileSiblings_cons] at h
    split_ifs at h with hname hdup
    cases hc : s.compile with
    | error e => simp [hc, bind, Except.bind] at h
    | ok entry =>
      cases hr : compileSiblings rest (s.name :: seen) with
      | error e => simp [hc, hr, bind, Except.bind, Except.map] at h
      | ok more =>
        simp only [hc, hr, bind, Except.bind, Except.map, Except.ok.injEq] at h
        subst h
        obtain ⟨hkeys, hnodup, hfresh, hentries⟩ := compileSiblings_ok hr
        have hdup' : s.name ∉ seen := by simpa using hdup
        refine ⟨by simp [hkeys], ?_, ?_, ?_⟩
        · -- a later sibling never has the name of an earlier one
          refine List.nodup_cons.2 ⟨fun hmem => ?_, hnodup⟩
          obtain ⟨t, ht, htname⟩ := List.mem_map.1 hmem
          exact hfresh t ht (by simp [htname])
        · intro t ht
          rcases List.mem_cons.1 ht with rfl | ht
          · exact hdup'
          · exact fun hseen => hfresh t ht (List.mem_cons_of_mem _ hseen)
        · intro t ht
          rcases List.mem_cons.1 ht with rfl | ht
          · exact ⟨entry, List.mem_cons_self, hc⟩
          · obtain ⟨e, he, hte⟩ := hentries t ht
            exact ⟨e, List.mem_cons_of_mem _ he, hte⟩

/-- The object of entries with distinct keys holds at each key the value it comes with. -/
theorem get?_object_of_mem {l : List (String × Json)} (h : (l.map Prod.fst).Nodup) {k : String}
    {v : Json} (hm : (k, v) ∈ l) : (Json.object l).get? k = some v := by
  rw [get?_object]
  exact lookup_of_mem (by simpa [List.map_reverse] using h) (List.mem_reverse.2 hm)

/-- Sub-aggregations that compile give an object with one key per spec. -/
theorem compileAggregations_of_siblings {subs : List AggregationSpec}
    {children : List (String × Json)} (h : compileSiblings subs [] = .ok children) :
    compileAggregations subs = .ok (Json.object children) ∧
      ((Json.object children).fields.map Prod.fst).Perm (subs.map (·.name)) := by
  obtain ⟨hkeys, hnodup, -, -⟩ := compileSiblings_ok h
  refine ⟨by simp [compileAggregations, h, Except.map], ?_⟩
  have hperm := (sortFields_perm (hkeys ▸ hnodup)).map Prod.fst
  rw [hkeys] at hperm
  exact hperm

/-- A spec that compiles has a known kind, and its entry is made as `EntryOf` says. -/
theorem compile_ok_entry {s : AggregationSpec} {entry : Json} (h : s.compile = .ok entry) :
    ∃ k, AggregationKind.parse s.kind = .ok k ∧ s.EntryOf k entry := by
  rw [compile_eq] at h
  cases hk : AggregationKind.parse s.kind with
  | error kind => simp [hk] at h
  | ok k =>
    refine ⟨k, rfl, ?_⟩
    have hne := (AggregationKind.dslName_ne_aggs k).symm
    simp only [hk] at h
    by_cases hsubs : s.subAggregations = []
    · -- no sub-aggregations: the DSL name is the only key
      simp only [hsubs, List.isEmpty_nil, if_true, Except.ok.injEq] at h
      subst h
      refine ⟨⟨_, rfl, ?_⟩, ⟨_, ?_, body_bodyOf s k⟩, fun h => absurd hsubs h⟩
      · simpa [hsubs] using (sortFields_perm (l := [(k.dslName, s.body k)]) (by simp)).map Prod.fst
      · simp [get?_object]
    · have hsubs' : s.subAggregations.isEmpty = false := by simpa using hsubs
      simp only [hsubs', Bool.false_eq_true, if_false] at h
      cases hc : compileSiblings s.subAggregations [] with
      | error e => simp [hc, Except.map] at h
      | ok children =>
        simp only [hc, Except.map, Except.ok.injEq] at h
        subst h
        obtain ⟨hagg, hperm⟩ := compileAggregations_of_siblings hc
        refine ⟨⟨_, rfl, ?_⟩, ⟨_, ?_, body_bodyOf s k⟩, fun _ => ⟨_, hagg, ?_, fun hempty => ?_⟩⟩
        · have hnodup : ([(k.dslName, s.body k), ("aggs", Json.object children)].map
              Prod.fst).Nodup := by simp [hne.symm]
          simpa [hsubs] using (sortFields_perm hnodup).map Prod.fst
        · simp [get?_object, lookup_cons_ite, hne.symm]
        · simp [get?_object]
        · -- at least one sub-aggregation, so at least one key
          rw [hempty] at hperm
          exact hsubs (List.map_eq_nil_iff.1 (List.nil_perm.1 hperm))

end AggregationSpec

/-- A forest that compiles gives an object with exactly one key per spec, its name (the names are
distinct), and under each the entry `EntryOf` describes: the kind's DSL name mapped to the body,
`{"field": field}` overlaid for a bucket kind by the kind's defaults and then by the parameters,
and `"aggs"` mapped to the compiled sub-aggregations exactly when there are some. -/
theorem compileAggregations_ok_entries {specs : List AggregationSpec} {v : Json}
    (h : compileAggregations specs = .ok v) :
    ∃ fields, v = .obj fields ∧ (fields.map Prod.fst).Perm (specs.map (·.name)) ∧
      (specs.map (·.name)).Nodup ∧
      ∀ s ∈ specs, ∃ k entry, AggregationKind.parse s.kind = .ok k ∧
        v.get? s.name = some entry ∧ s.EntryOf k entry := by
  cases hc : compileSiblings specs [] with
  | error e => simp [compileAggregations, hc, Except.map] at h
  | ok entries =>
    have hv : v = Json.object entries := by
      simpa [compileAggregations, hc, Except.map] using h.symm
    obtain ⟨hkeys, hnodup, -, hentries⟩ := AggregationSpec.compileSiblings_ok hc
    obtain ⟨-, hperm⟩ := AggregationSpec.compileAggregations_of_siblings hc
    subst hv
    refine ⟨_, rfl, hperm, hnodup, fun s hs => ?_⟩
    obtain ⟨entry, hmem, hcompile⟩ := hentries s hs
    obtain ⟨k, hk, hentry⟩ := AggregationSpec.compile_ok_entry hcompile
    exact ⟨k, entry, hk, AggregationSpec.get?_object_of_mem (hkeys ▸ hnodup) hmem, hentry⟩

/-- A histogram per hour under a terms bucket: one key, `by_tag`, holding `terms` and `aggs`. -/
theorem compileAggregations_hourly_under_tag :
    let specs : List AggregationSpec :=
      [{ name := "by_tag", kind := "terms", field := "tag",
         subAggregations :=
           [{ name := "per_hour", kind := "date_histogram", field := "ts",
              params := [("calendar_interval", .str "1h")] }] }]
    let v : Json :=
      .obj [("by_tag", .obj [("aggs", .obj [("per_hour", .obj [("date_histogram",
          .obj [("calendar_interval", .str "1h"), ("field", .str "ts")])])]),
        ("terms", .obj [("field", .str "tag")])])]
    compileAggregations specs = .ok v ∧
      ∃ fields, v = .obj fields ∧ (fields.map Prod.fst).Perm (specs.map (·.name)) ∧
        (specs.map (·.name)).Nodup ∧
        ∀ s ∈ specs, ∃ k entry, AggregationKind.parse s.kind = .ok k ∧
          v.get? s.name = some entry ∧ s.EntryOf k entry := by
  intro specs v
  have h : compileAggregations specs = .ok v := by rfl
  exact ⟨h, compileAggregations_ok_entries h⟩

end Sift
