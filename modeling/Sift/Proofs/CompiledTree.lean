import Sift.Proofs.SiblingMerge

/-!
# The compiled query as a tree of generated nodes

A compiled query is JSON, and a leaf clause may itself be a `bool` object (`not_equals` wraps
its clause in one), so the JSON alone does not tell which `bool` objects the compiler generated
for groups. A `Fragment` keeps them apart: it is a condition's clause, whatever JSON that is, or
a node the compiler generated, with its four buckets of fragments. `compiledTree` builds the
tree of a forest the way `compileQuery` builds its JSON, and printing the tree gives exactly the
compiled query (`compileQuery_eq_compiledTree`).

Walking the tree (`Fragment.walk`) lists each clause with the buckets it is reached through, one
per generated node. The forest side (`Group.clauses`) lists each compiled condition with the
occurrences of the groups on its way down. The two lists are the same up to order; the query is
`{"match_all":{}}` exactly when no condition anywhere compiles; and every generated node prints
with at least one bucket, none of them empty.
-/

namespace Sift

/-- A fragment of a compiled query: a condition's clause, or a bool node that the compiler
generated for a group or a forest, with its buckets. -/
inductive Fragment where
  | clause (v : Json)
  | node (must should mustNot filter : List Fragment)

namespace Fragment

/-- A generated node whose fragments all sit in the bucket of one occurrence. -/
def single (o : Occur) (fs : List Fragment) : Fragment :=
  match o with
  | .must => .node fs [] [] []
  | .should => .node [] fs [] []
  | .mustNot => .node [] [] fs []
  | .filter => .node [] [] [] fs

mutual

/-- The JSON of a fragment: a clause as it is, a node as the bool query of its printed
buckets. -/
def toJson : Fragment → Json
  | .clause v => v
  | .node m s n f => BoolQuery.toJson ⟨toJsonList m, toJsonList s, toJsonList n, toJsonList f⟩

/-- The JSON of each fragment of a list. -/
def toJsonList : List Fragment → List Json
  | [] => []
  | x :: xs => toJson x :: toJsonList xs

end

/-- One more generated node above a clause's path. -/
def under (o : Occur) (e : List Occur × Json) : List Occur × Json := (o :: e.1, e.2)

mutual

/-- The clauses of a fragment, each with the buckets it is reached through, one per generated
node on the way down, outermost first. -/
def walk : Fragment → List (List Occur × Json)
  | .clause v => [([], v)]
  | .node m s n f =>
    (walkAll m).map (under .must) ++ (walkAll s).map (under .should) ++
      (walkAll n).map (under .mustNot) ++ (walkAll f).map (under .filter)

/-- The walks of a list of fragments, one after the other. -/
def walkAll : List Fragment → List (List Occur × Json)
  | [] => []
  | x :: xs => walk x ++ walkAll xs

end

mutual

/-- The bool queries of the generated nodes of a fragment as they are printed, outermost
first. -/
def nodes : Fragment → List BoolQuery
  | .clause _ => []
  | .node m s n f =>
    ⟨toJsonList m, toJsonList s, toJsonList n, toJsonList f⟩ ::
      (nodesAll m ++ nodesAll s ++ nodesAll n ++ nodesAll f)

/-- The generated nodes of a list of fragments. -/
def nodesAll : List Fragment → List BoolQuery
  | [] => []
  | x :: xs => nodes x ++ nodesAll xs

end

@[simp] theorem toJsonList_eq_map (fs : List Fragment) : toJsonList fs = fs.map toJson := by
  induction fs with
  | nil => rfl
  | cons x xs ih => simp [toJsonList, ih]

@[simp] theorem walkAll_eq_flatMap (fs : List Fragment) : walkAll fs = fs.flatMap walk := by
  induction fs with
  | nil => rfl
  | cons x xs ih => simp [walkAll, ih]

@[simp] theorem nodesAll_eq_flatMap (fs : List Fragment) : nodesAll fs = fs.flatMap nodes := by
  induction fs with
  | nil => rfl
  | cons x xs ih => simp [nodesAll, ih]

@[simp] theorem toJson_clause (v : Json) : (clause v).toJson = v := by
  simp [toJson]

/-- Clauses printed one by one are the clauses themselves. -/
theorem map_toJson_clause (vs : List Json) : (vs.map clause).map toJson = vs := by
  induction vs with
  | nil => rfl
  | cons v vs ih => simp only [List.map_cons, toJson_clause, ih]

/-- Clauses walked below one node sit at the path of that node alone. -/
theorem walk_map_clause (o : Occur) (vs : List Json) :
    ((vs.map clause).flatMap walk).map (under o) = vs.map (fun v => ([o], v)) := by
  induction vs with
  | nil => rfl
  | cons v vs ih =>
      simp only [List.map_cons, List.flatMap_cons, List.map_append, ih]
      rfl

theorem toJson_single (o : Occur) (fs : List Fragment) :
    (single o fs).toJson = (BoolQuery.extend {} o (fs.map toJson)).toJson := by
  cases o <;> simp [single, toJson, BoolQuery.extend]

theorem walk_single (o : Occur) (fs : List Fragment) :
    (single o fs).walk = (fs.flatMap walk).map (under o) := by
  cases o <;> simp [single, walk]

theorem nodes_single (o : Occur) (fs : List Fragment) :
    (single o fs).nodes = BoolQuery.extend {} o (fs.map toJson) :: fs.flatMap nodes := by
  cases o <;> simp [single, nodes, BoolQuery.extend]

end Fragment

/-! ## The forest side -/

mutual

/-- Every compiled condition of a group and of the groups below it, each with the occurrences
of the groups on its way down, outermost first. -/
def Group.clauses : Group → List (List Occur × Json)
  | ⟨_, o, conditions, groups⟩ =>
    (conditions.filterMap Condition.clause?).map (fun v => ([o], v)) ++
      (Group.clausesAll groups).map (Fragment.under o)

/-- The compiled conditions of a forest, group after group. -/
def Group.clausesAll : List Group → List (List Occur × Json)
  | [] => []
  | g :: gs => g.clauses ++ Group.clausesAll gs

end

mutual

/-- The conditions of a group and of every group below it. -/
def Group.allConditions : Group → List Condition
  | ⟨_, _, conditions, groups⟩ => conditions ++ Group.allConditionsAll groups

/-- The conditions of a forest at every depth. -/
def Group.allConditionsAll : List Group → List Condition
  | [] => []
  | g :: gs => g.allConditions ++ Group.allConditionsAll gs

end

@[simp] theorem Group.clausesAll_eq_flatMap (gs : List Group) :
    Group.clausesAll gs = gs.flatMap Group.clauses := by
  induction gs with
  | nil => rfl
  | cons g gs ih => simp [Group.clausesAll, ih]

@[simp] theorem Group.allConditionsAll_eq_flatMap (gs : List Group) :
    Group.allConditionsAll gs = gs.flatMap Group.allConditions := by
  induction gs with
  | nil => rfl
  | cons g gs ih => simp [Group.allConditionsAll, ih]

/-! ## The compiler's tree -/

mutual

/-- The fragments of a group as trees: its conditions' clauses, then one generated node for
each nested group that has fragments. -/
def Group.fragmentTrees : Group → List Fragment
  | ⟨_, _, conditions, groups⟩ =>
    (conditions.filterMap Condition.clause?).map .clause ++ Group.nestedTrees groups

/-- The generated nodes of nested groups, skipping groups without fragments. -/
def Group.nestedTrees : List Group → List Fragment
  | [] => []
  | g :: gs =>
    (if g.fragmentTrees.isEmpty then [] else [Fragment.single g.occur g.fragmentTrees]) ++
      Group.nestedTrees gs

end

/-- The fragments that the groups of one occurrence put in the top-level bucket. -/
def forestBucket (gs : List Group) (o : Occur) : List Fragment :=
  (gs.filter (·.occur == o)).flatMap Group.fragmentTrees

/-- The top-level node the compiler generates for a forest, or nothing when no group has a
fragment. -/
def compiledTree (gs : List Group) : Option Fragment :=
  if (gatherGroups gs).isEmpty then none
  else some (.node (forestBucket gs .must) (forestBucket gs .should)
    (forestBucket gs .mustNot) (forestBucket gs .filter))

/-! ## Printing the tree gives the compiled query -/

mutual

/-- The printed fragment trees of a group are its fragments. -/
theorem fragmentTrees_toJson : ∀ g : Group, g.fragmentTrees.map Fragment.toJson = g.fragments
  | ⟨_, _, conditions, groups⟩ => by
      rw [Group.fragmentTrees, Group.fragments, List.map_append, Fragment.map_toJson_clause,
        nestedTrees_toJson groups]

/-- The printed trees of nested groups are their bool queries. -/
theorem nestedTrees_toJson :
    ∀ gs : List Group, (Group.nestedTrees gs).map Fragment.toJson = Group.nested gs
  | [] => rfl
  | g :: gs => by
      have hg := fragmentTrees_toJson g
      have hempty : g.fragmentTrees.isEmpty = g.fragments.isEmpty := by
        rw [← hg, List.isEmpty_map]
      simp only [Group.nestedTrees, Group.nested, List.map_append, hempty, nestedTrees_toJson gs]
      split
      · rfl
      · simp [Fragment.toJson_single, hg]

end

theorem forestBucket_toJson (gs : List Group) (o : Occur) :
    (forestBucket gs o).map Fragment.toJson = (gatherGroups gs).bucket o := by
  rw [bucket_gatherGroups, forestBucket, List.map_flatMap]
  simp only [fragmentTrees_toJson]

/-- Printing the compiled tree gives the compiled query. -/
theorem compileQuery_eq_compiledTree (gs : List Group) :
    compileQuery gs = (compiledTree gs).elim Json.matchAll Fragment.toJson := by
  unfold compileQuery compiledTree
  rw [reduceGroups_eq_nonempty?, BoolQuery.nonempty?]
  cases h : (gatherGroups gs).isEmpty with
  | true => rfl
  | false =>
      simp only [Bool.false_eq_true, if_false, Option.elim, Fragment.toJson,
        Fragment.toJsonList_eq_map, forestBucket_toJson]
      rfl

/-! ## Every compiled condition is met once -/

mutual

/-- Walking the fragments of a group below one more node lists the group's clauses. -/
theorem walk_fragmentTrees :
    ∀ g : Group, (g.fragmentTrees.flatMap Fragment.walk).map (Fragment.under g.occur) = g.clauses
  | ⟨_, o, conditions, groups⟩ => by
      rw [Group.fragmentTrees, Group.clauses, List.flatMap_append, List.map_append,
        Fragment.walk_map_clause, walk_nestedTrees groups]

/-- Walking the generated nodes of nested groups lists the clauses of those groups. -/
theorem walk_nestedTrees :
    ∀ gs : List Group, (Group.nestedTrees gs).flatMap Fragment.walk = Group.clausesAll gs
  | [] => rfl
  | g :: gs => by
      have hg := walk_fragmentTrees g
      simp only [Group.nestedTrees, Group.clausesAll, List.flatMap_append, walk_nestedTrees gs]
      split
      · -- a nested group without fragments has no clauses either
        rename_i hempty
        rw [List.isEmpty_iff] at hempty
        rw [← hg, hempty]
        rfl
      · simp [Fragment.walk_single, hg]

end

/-- Splitting a forest by occurrence and putting the four parts one after the other only
reorders what each group contributes. -/
theorem flatMap_filter_occur_perm {β : Type} (gs : List Group) (f : Group → List β) :
    ((gs.filter (·.occur == .must)).flatMap f ++ (gs.filter (·.occur == .should)).flatMap f ++
      (gs.filter (·.occur == .mustNot)).flatMap f ++
      (gs.filter (·.occur == .filter)).flatMap f).Perm (gs.flatMap f) := by
  classical
  induction gs with
  | nil => simp
  | cons g gs ih =>
      rw [List.perm_iff_count] at ih ⊢
      intro a
      have hcount := ih a
      cases h : g.occur <;> simp [h, List.count_append] at hcount ⊢ <;> omega

/-- The top bucket of an occurrence, walked, holds the clauses of the groups of that
occurrence. -/
theorem walk_forestBucket (gs : List Group) (o : Occur) :
    ((forestBucket gs o).flatMap Fragment.walk).map (Fragment.under o) =
      (gs.filter (·.occur == o)).flatMap Group.clauses := by
  rw [forestBucket, List.flatMap_assoc, List.map_flatMap, List.flatMap_def, List.flatMap_def]
  congr 1
  apply List.map_congr_left
  intro g hg
  have hocc : g.occur = o := by simpa using (List.mem_filter.1 hg).2
  rw [← hocc]
  exact walk_fragmentTrees g

/-- The walk of the compiled query reorders the clauses of the forest; a forest that compiles
to `{"match_all":{}}` has none. -/
theorem walk_compiledTree (gs : List Group) :
    ((compiledTree gs).elim [] Fragment.walk).Perm (Group.clausesAll gs) := by
  unfold compiledTree
  split
  · rename_i hempty
    -- every bucket is empty, so every group has no fragment and hence no clause
    have hnil : ∀ o, (gs.filter (·.occur == o)).flatMap Group.clauses = [] := by
      intro o
      rw [← walk_forestBucket, List.map_eq_nil_iff, List.flatMap_eq_nil_iff]
      intro x hx
      have hbucket := forestBucket_toJson gs o
      rw [(BoolQuery.isEmpty_iff _).1 hempty, BoolQuery.bucket_empty, List.map_eq_nil_iff] at hbucket
      simp [hbucket] at hx
    have hperm := flatMap_filter_occur_perm gs Group.clauses
    simp only [hnil, List.append_nil] at hperm
    simpa using hperm
  · simp only [Option.elim, Fragment.walk, Fragment.walkAll_eq_flatMap, walk_forestBucket,
      Group.clausesAll_eq_flatMap]
    exact flatMap_filter_occur_perm gs Group.clauses

/-! ## `{"match_all":{}}` only when nothing compiles -/

mutual

/-- A group has no fragment exactly when it has no compiled condition. -/
theorem fragments_eq_nil_iff : ∀ g : Group, g.fragments = [] ↔ g.clauses = []
  | ⟨_, _, conditions, groups⟩ => by
      rw [Group.fragments, Group.clauses, List.append_eq_nil_iff, List.append_eq_nil_iff,
        List.map_eq_nil_iff, List.map_eq_nil_iff, nested_eq_nil_iff groups]

/-- Nested groups give no bool query exactly when they have no compiled condition. -/
theorem nested_eq_nil_iff : ∀ gs : List Group, Group.nested gs = [] ↔ Group.clausesAll gs = []
  | [] => by simp [Group.nested, Group.clausesAll]
  | g :: gs => by
      simp only [Group.nested, Group.clausesAll, List.append_eq_nil_iff,
        ← fragments_eq_nil_iff g, nested_eq_nil_iff gs]
      cases h : g.fragments with
      | nil => simp
      | cons x xs => simp

end

mutual

/-- A group has no compiled condition exactly when none of its conditions, at any depth,
compiles. -/
theorem clauses_eq_nil_iff :
    ∀ g : Group, g.clauses = [] ↔ ∀ c ∈ g.allConditions, c.clause? = none
  | ⟨_, _, conditions, groups⟩ => by
      rw [Group.clauses, Group.allConditions, List.append_eq_nil_iff, List.map_eq_nil_iff,
        List.map_eq_nil_iff, List.filterMap_eq_nil_iff, clausesAll_eq_nil_iff groups]
      simp only [List.mem_append, or_imp, forall_and]

/-- A forest has no compiled condition exactly when none of its conditions compiles. -/
theorem clausesAll_eq_nil_iff :
    ∀ gs : List Group, Group.clausesAll gs = [] ↔ ∀ c ∈ Group.allConditionsAll gs, c.clause? = none
  | [] => by simp [Group.clausesAll, Group.allConditionsAll]
  | g :: gs => by
      rw [Group.clausesAll, Group.allConditionsAll, List.append_eq_nil_iff, clauses_eq_nil_iff g,
        clausesAll_eq_nil_iff gs]
      simp only [List.mem_append, or_imp, forall_and]

end

/-- The compiled query is `{"match_all":{}}` exactly when no group of the forest has a
fragment. -/
theorem compileQuery_eq_matchAll_iff_fragments (gs : List Group) :
    compileQuery gs = Json.matchAll ↔ ∀ g ∈ gs, g.fragments = [] := by
  rw [compileQuery_eq_matchAll_iff, reduceGroups_eq_nonempty?, BoolQuery.nonempty?]
  have hnone : (if (gatherGroups gs).isEmpty then none else some (gatherGroups gs)) = none ↔
      (gatherGroups gs).isEmpty = true := by
    cases (gatherGroups gs).isEmpty <;> simp
  rw [hnone, BoolQuery.isEmpty_iff, BoolQuery.eq_empty_iff]
  simp only [bucket_gatherGroups, List.flatMap_eq_nil_iff, List.mem_filter, beq_iff_eq, and_imp]
  constructor
  · intro h g hg
    exact h g.occur g hg rfl
  · intro h o g hg _
    exact h g hg

/-- The compiled query is `{"match_all":{}}` exactly when no condition anywhere in the forest
compiles. -/
theorem compileQuery_eq_matchAll_iff_clause (gs : List Group) :
    compileQuery gs = Json.matchAll ↔ ∀ c ∈ Group.allConditionsAll gs, c.clause? = none := by
  rw [compileQuery_eq_matchAll_iff_fragments, ← clausesAll_eq_nil_iff,
    Group.clausesAll_eq_flatMap, List.flatMap_eq_nil_iff]
  simp only [fragments_eq_nil_iff]

/-! ## No empty generated node -/

/-- The entry of one bucket in a printed bool query. -/
theorem mem_bucket_entry {name : String} {cs : List Json} {kv : String × Json}
    (h : kv ∈ (if cs.isEmpty then [] else [(name, Json.arr cs)])) :
    ∃ x xs, kv.2 = .arr (x :: xs) := by
  split at h
  · simp at h
  · rename_i hne
    obtain ⟨x, xs, rfl⟩ := List.exists_cons_of_ne_nil (by simpa using hne)
    rw [List.mem_singleton] at h
    exact ⟨x, xs, by rw [h]⟩

theorem bucket_entry_eq_nil {name : String} {cs : List Json} :
    (if cs.isEmpty then [] else [(name, Json.arr cs)]) = [] ↔ cs = [] := by
  cases cs <;> simp

/-- A non-empty bool query prints with at least one bucket key, and each key holds a non-empty
array. -/
theorem BoolQuery.body_buckets (q : BoolQuery) (h : q.isEmpty = false) :
    ∃ fs, q.body = .obj fs ∧ fs ≠ [] ∧ ∀ kv ∈ fs, ∃ x xs, kv.2 = .arr (x :: xs) := by
  refine ⟨_, rfl, ?_, ?_⟩
  · intro hnil
    simp only [List.append_eq_nil_iff, bucket_entry_eq_nil] at hnil
    obtain ⟨⟨⟨hf, hm⟩, hn⟩, hs⟩ := hnil
    simp [BoolQuery.isEmpty, hf, hm, hn, hs] at h
  · intro kv hkv
    simp only [List.mem_append] at hkv
    rcases hkv with ((hkv | hkv) | hkv) | hkv <;> exact mem_bucket_entry hkv

theorem BoolQuery.isEmpty_extend_empty (o : Occur) (cs : List Json) :
    (BoolQuery.extend {} o cs).isEmpty = cs.isEmpty := by
  cases o <;> simp [BoolQuery.extend, BoolQuery.isEmpty]

mutual

/-- The nodes generated below a group are never empty. -/
theorem nodes_fragmentTrees :
    ∀ g : Group, ∀ x ∈ g.fragmentTrees, ∀ q ∈ x.nodes, q.isEmpty = false
  | ⟨_, _, conditions, groups⟩ => by
      intro x hx q hq
      rw [Group.fragmentTrees, List.mem_append] at hx
      rcases hx with hx | hx
      · obtain ⟨v, -, rfl⟩ := List.mem_map.1 hx
        simp [Fragment.nodes] at hq
      · exact nodes_nestedTrees groups x hx q hq

/-- The nodes generated for nested groups are never empty. -/
theorem nodes_nestedTrees :
    ∀ gs : List Group, ∀ x ∈ Group.nestedTrees gs, ∀ q ∈ x.nodes, q.isEmpty = false
  | [] => by simp [Group.nestedTrees]
  | g :: gs => by
      intro x hx q hq
      rw [Group.nestedTrees, List.mem_append] at hx
      rcases hx with hx | hx
      · split at hx
        · simp at hx
        · rename_i hne
          rw [List.mem_singleton] at hx
          subst hx
          rw [Fragment.nodes_single, List.mem_cons] at hq
          rcases hq with rfl | hq
          · -- the nested group's own node holds its fragments, and it has some
            rw [BoolQuery.isEmpty_extend_empty, List.isEmpty_map]
            simpa using hne
          · obtain ⟨y, hy, hq⟩ := List.mem_flatMap.1 hq
            exact nodes_fragmentTrees g y hy q hq
      · exact nodes_nestedTrees gs x hx q hq

end

theorem nodes_forestBucket {gs : List Group} {o : Occur} :
    ∀ y ∈ forestBucket gs o, ∀ q ∈ y.nodes, q.isEmpty = false := by
  intro y hy q hq
  obtain ⟨g, -, hy⟩ := List.mem_flatMap.1 hy
  exact nodes_fragmentTrees g y hy q hq

/-- Every node of the compiled tree, the top-level one included, has a non-empty bucket. -/
theorem nodes_compiledTree {gs : List Group} {t : Fragment} (ht : t ∈ compiledTree gs) :
    ∀ q ∈ t.nodes, q.isEmpty = false := by
  unfold compiledTree at ht
  split at ht
  · cases ht
  · rename_i hne
    simp only [Option.mem_def, Option.some.injEq] at ht
    subst ht
    intro q hq
    simp only [Fragment.nodes, Fragment.toJsonList_eq_map, forestBucket_toJson,
      Fragment.nodesAll_eq_flatMap, List.mem_cons, List.mem_append, List.mem_flatMap] at hq
    rcases hq with rfl | (((⟨y, hy, hq⟩ | ⟨y, hy, hq⟩) | ⟨y, hy, hq⟩) | ⟨y, hy, hq⟩)
    · -- the top-level node prints the gathered forest, which is not empty
      exact Bool.eq_false_iff.2 hne
    all_goals exact nodes_forestBucket y hy q hq

/-- No loss, no duplication, no empty node. The compiled query is the print of the compiled
tree; walking that tree through the nodes the compiler generated meets every compiled
condition of the forest once, at the path of its groups' occurrences; the query is
`{"match_all":{}}` exactly when no condition anywhere compiles; and each generated node prints
with at least one bucket key, none holding an empty array. -/
theorem compileQuery_walk_perm_clauses (gs : List Group) :
    compileQuery gs = (compiledTree gs).elim Json.matchAll Fragment.toJson ∧
    ((compiledTree gs).elim [] Fragment.walk).Perm (Group.clausesAll gs) ∧
    (compileQuery gs = Json.matchAll ↔ ∀ c ∈ Group.allConditionsAll gs, c.clause? = none) ∧
    ∀ t ∈ compiledTree gs, ∀ q ∈ t.nodes,
      ∃ fs, q.body = .obj fs ∧ fs ≠ [] ∧ ∀ kv ∈ fs, ∃ x xs, kv.2 = .arr (x :: xs) :=
  ⟨compileQuery_eq_compiledTree gs, walk_compiledTree gs, compileQuery_eq_matchAll_iff_clause gs,
    fun _ ht q hq => BoolQuery.body_buckets q (nodes_compiledTree ht q hq)⟩

end Sift
