import Mathlib
import Sift.Mapping.Fields
import Sift.Proofs.JsonValues

/-!
# The field catalog lists the typed nodes of a mapping

A mapping's `properties` value hangs under a root node of its own (`mappingRoot`). From a node a
path goes down step by step (`MappingStep`). Each step takes the object under `properties` (the
node's sub-fields) or under `fields` (its multi-fields), then the entry of a key
(`Json.follow`). The catalog of a value walks those paths in pre-order (`PathBefore`): a node
comes before its sub-fields, the sub-fields before the multi-fields, siblings in key order.

For every JSON value the catalog holds exactly one field per node whose `type` is a string
(`TypedNode`), in pre-order (`extractFields_preorder`). A field's name is the keys of its path
joined by dots once leading empty keys are dropped. A name is extended with a dot only below a
non-empty name, so a key below an empty one stands alone (`extractFields_empty_parent_name`).
A field is searchable when its type is one of the searchable types, and aggregatable when it is
searchable and not `text`. An index's catalog is that of `mappings.properties` under the index,
or none.

The proof runs over `typedNodes`, the typed nodes of a node with their paths, laid out like the
walk itself. Its infos are the catalog (`collectFields_eq_map`), its members are the typed
nodes (`mem_typedNodes_iff`), and its paths are in pre-order (`sortedBelow`).
-/

namespace Sift

open Json

/-! ## Paths through a mapping -/

/-- The two kinds of children of a mapping node: sub-fields under `properties` and multi-fields
under `fields`. -/
inductive Branch where
  | properties
  | fields
  deriving DecidableEq, Repr

namespace Branch

/-- The configuration key that holds a branch's children. -/
def name : Branch → String
  | .properties => "properties"
  | .fields => "fields"

/-- The catalog visits sub-fields before multi-fields. -/
def rank : Branch → Nat
  | .properties => 0
  | .fields => 1

end Branch

/-- One step down a mapping: into the object of a branch, then to the entry of a key. -/
structure MappingStep where
  branch : Branch
  key : String
  deriving DecidableEq, Repr

/-- The order in which the catalog takes the steps from a node: by branch, then by key. -/
def MappingStep.Before (a b : MappingStep) : Prop :=
  a.branch.rank < b.branch.rank ∨ (a.branch = b.branch ∧ a.key < b.key)

/-- Pre-order of paths: a path comes before its extensions; otherwise the first step where two
paths part decides. -/
def PathBefore : List MappingStep → List MappingStep → Prop := List.Lex MappingStep.Before

namespace Json

/-- The node a path leads to from a node, if any: each step takes the object under its branch's
key, then the entry of its key. -/
def follow (n : Json) : List MappingStep → Option Json
  | [] => some n
  | s :: rest => ((n.get? s.branch.name).bind (·.get? s.key)).bind (·.follow rest)

/-- A node whose `type` is the string `t`. -/
def HasType (n : Json) (t : String) : Prop := n.get? "type" = some (.str t)

end Json

/-- The node that holds a mapping's `properties` value, from which the catalog's paths start. -/
def mappingRoot (properties : Json) : Json := .obj [("properties", properties)]

/-- The node at a path from the mapping root has type `t`. -/
def TypedNode (properties : Json) (path : List MappingStep) (t : String) : Prop :=
  ∃ n, (mappingRoot properties).follow path = some n ∧ n.HasType t

/-! ## The typed nodes below a node -/

/-- The node itself with the empty path, if it is typed. -/
def ownType (n : Json) : List (List MappingStep × String) :=
  match n.get? "type" with
  | some (.str t) => [([], t)]
  | _ => []

/-- A node's path seen from its parent: one step more in front. -/
def underStep (st : MappingStep) (node : List MappingStep × String) :
    List MappingStep × String :=
  (st :: node.1, node.2)

mutual

/-- The typed nodes at and below a node, each with its path from the node, in pre-order: the
node, then the nodes under `properties`, then those under `fields`. -/
def typedNodes : Json → List (List MappingStep × String)
  | .obj cfs => ownType (.obj cfs) ++ branchNodes .properties cfs ++ branchNodes .fields cfs
  | _ => []

/-- The typed nodes under a branch's value: below each of its entries in turn. -/
def valueNodes (br : Branch) : Json → List (List MappingStep × String)
  | .obj es => entryNodes br es
  | _ => []

/-- The typed nodes below entries of a branch's object, entry by entry. -/
def entryNodes (br : Branch) : List (String × Json) → List (List MappingStep × String)
  | [] => []
  | (k, c) :: rest => (typedNodes c).map (underStep ⟨br, k⟩) ++ entryNodes br rest

/-- The typed nodes under what a configuration holds at a branch's key. -/
def branchNodes (br : Branch) : List (String × Json) → List (List MappingStep × String)
  | [] => []
  | (k, v) :: rest => (if k = br.name then valueNodes br v else []) ++ branchNodes br rest

end

theorem mem_ownType {n : Json} {s : List MappingStep} {t : String} :
    (s, t) ∈ ownType n ↔ s = [] ∧ n.HasType t := by
  unfold ownType HasType
  split
  · next t' h => simp [h, eq_comm]
  · next h => simp only [List.not_mem_nil, false_iff, not_and]; intro _ ht; exact h t ht

theorem mem_entryNodes {br : Branch} {es : List (String × Json)} {s : List MappingStep}
    {t : String} :
    (s, t) ∈ entryNodes br es ↔ ∃ k c rest, (k, c) ∈ es ∧ s = ⟨br, k⟩ :: rest ∧
      (rest, t) ∈ typedNodes c := by
  induction es with
  | nil => simp [entryNodes]
  | cons e es ih =>
    obtain ⟨k, c⟩ := e
    simp only [entryNodes, List.mem_append, List.mem_map, ih, List.mem_cons, underStep]
    constructor
    · rintro (⟨⟨rest, t'⟩, hmem, heq⟩ | ⟨k', c', rest, hkc, rfl, hrest⟩)
      · simp only [Prod.mk.injEq] at heq
        obtain ⟨rfl, rfl⟩ := heq
        exact ⟨k, c, rest, .inl rfl, rfl, hmem⟩
      · exact ⟨k', c', rest, .inr hkc, rfl, hrest⟩
    · rintro ⟨k', c', rest, hkc | hkc, rfl, hrest⟩
      · cases hkc
        exact .inl ⟨(rest, t), hrest, rfl⟩
      · exact .inr ⟨k', c', rest, hkc, rfl, hrest⟩

theorem mem_branchNodes {br : Branch} {cfs : List (String × Json)} {s : List MappingStep}
    {t : String} : (s, t) ∈ branchNodes br cfs ↔ ∃ v, (br.name, v) ∈ cfs ∧ (s, t) ∈ valueNodes br v := by
  induction cfs with
  | nil => simp [branchNodes]
  | cons e cfs ih =>
    obtain ⟨k, v⟩ := e
    simp only [branchNodes, List.mem_append, ih, List.mem_cons, Prod.mk.injEq]
    by_cases hk : k = br.name
    · subst hk
      simp only [if_true, true_and]
      constructor
      · rintro (h | ⟨v', hv', h⟩)
        · exact ⟨v, .inl rfl, h⟩
        · exact ⟨v', .inr hv', h⟩
      · rintro ⟨v', rfl | hv', h⟩
        · exact .inl h
        · exact .inr ⟨v', hv', h⟩
    · simp only [hk, if_false, List.not_mem_nil, false_or]
      constructor
      · rintro ⟨v', hv', h⟩
        exact ⟨v', .inr hv', h⟩
      · rintro ⟨v', ⟨hk', -⟩ | hv', h⟩
        · exact absurd hk'.symm hk
        · exact ⟨v', hv', h⟩

/-- Every path below a branch's value starts with a step into that branch, at one of the value's
keys. -/
theorem head_of_mem_valueNodes {br : Branch} {v : Json} {s : List MappingStep} {t : String}
    (h : (s, t) ∈ valueNodes br v) :
    ∃ k rest, s = ⟨br, k⟩ :: rest ∧ k ∈ v.fields.map Prod.fst := by
  cases v with
  | obj es =>
    obtain ⟨k, c, rest, hkc, rfl, -⟩ := mem_entryNodes.1 h
    exact ⟨k, rest, rfl, List.mem_map_of_mem hkc⟩
  | _ => simp [valueNodes] at h

theorem head_of_mem_branchNodes {br : Branch} {cfs : List (String × Json)} {s : List MappingStep}
    {t : String} (h : (s, t) ∈ branchNodes br cfs) : ∃ k rest, s = ⟨br, k⟩ :: rest := by
  obtain ⟨v, -, hv⟩ := mem_branchNodes.1 h
  obtain ⟨k, rest, rfl, -⟩ := head_of_mem_valueNodes hv
  exact ⟨k, rest, rfl⟩

/-- With distinct keys, a configuration holds at most one value under a branch's key. -/
theorem branchNodes_eq_lookup {br : Branch} {cfs : List (String × Json)}
    (h : (cfs.map Prod.fst).Nodup) :
    branchNodes br cfs = ((cfs.lookup br.name).map (valueNodes br)).getD [] := by
  induction cfs with
  | nil => rfl
  | cons e cfs ih =>
    obtain ⟨k, v⟩ := e
    simp only [List.map_cons, List.nodup_cons] at h
    rw [branchNodes, ih h.2, lookup_cons_ite]
    by_cases hk : k = br.name
    · subst hk
      -- the key is not repeated, so nothing further comes under it
      have hnone : cfs.lookup br.name = none :=
        List.lookup_eq_none_iff.2 fun p hp =>
          bne_iff_ne.2 fun hkp => h.1 (hkp ▸ List.mem_map_of_mem hp)
      simp [hnone]
    · simp [hk, Ne.symm hk]

/-! ## The catalog is the typed nodes -/

/-- The name of a field below a parent name: `childName` applied along the keys of its path. -/
def extendName (parent : String) (keys : List String) : String := keys.foldl childName parent

/-- The catalog entry of a typed node below a parent name. -/
def nodeInfo (parent : String) (node : List MappingStep × String) : FieldInfo :=
  FieldInfo.ofType (extendName parent (node.1.map (·.key))) node.2

mutual

/-- The catalog of a branch's value below a parent name is the infos of its typed nodes. -/
theorem collectFields_eq_map (br : Branch) (parent : String) :
    ∀ v : Json, collectFields parent v = (valueNodes br v).map (nodeInfo parent)
  | .obj es => by rw [collectFields, valueNodes, collectEntries_eq_map br parent es]
  | .null | .bool _ | .num _ | .str _ | .arr _ => rfl

theorem collectEntries_eq_map (br : Branch) (parent : String) :
    ∀ es : List (String × Json),
      collectEntries parent es = (entryNodes br es).map (nodeInfo parent)
  | [] => rfl
  | (k, .obj cfs) :: rest => by
    -- a typed entry, then what lies under its `properties`, then under its `fields`
    have hprops : collectConfig (childName parent k) "properties" cfs =
        (branchNodes .properties cfs).map (nodeInfo (childName parent k)) :=
      collectConfig_eq_map .properties _ cfs
    have hfields : collectConfig (childName parent k) "fields" cfs =
        (branchNodes .fields cfs).map (nodeInfo (childName parent k)) :=
      collectConfig_eq_map .fields _ cfs
    have hstep : nodeInfo parent ∘ underStep ⟨br, k⟩ = nodeInfo (childName parent k) := rfl
    simp only [collectEntries, entryNodes, typedNodes, List.map_append, List.map_map, hstep,
      hprops, hfields, collectEntries_eq_map br parent rest, List.append_assoc]
    unfold ownType
    split <;> simp_all [nodeInfo, extendName]
  | (k, .null) :: rest | (k, .bool _) :: rest | (k, .num _) :: rest | (k, .str _) :: rest
  | (k, .arr _) :: rest => by
    -- a value that is no object has no type and nothing below it
    simp only [collectEntries, entryNodes, typedNodes, List.map_nil, List.nil_append,
      collectEntries_eq_map br parent rest]
    rfl

theorem collectConfig_eq_map (br : Branch) (full : String) :
    ∀ cfs : List (String × Json),
      collectConfig full br.name cfs = (branchNodes br cfs).map (nodeInfo full)
  | [] => rfl
  | (k, v) :: rest => by
    rw [collectConfig, branchNodes, List.map_append, collectConfig_eq_map br full rest]
    by_cases hk : k = br.name
    · rw [if_pos hk, if_pos hk, collectFields_eq_map br full v]
    · rw [if_neg hk, if_neg hk, List.map_nil]

end

/-! ## The typed nodes are the nodes reachable by paths -/

theorem follow_cons (n : Json) (st : MappingStep) (rest : List MappingStep) :
    n.follow (st :: rest) = ((n.get? st.branch.name).bind (·.get? st.key)).bind (·.follow rest) :=
  rfl

/-- A value that is no object has no keys. -/
theorem get?_of_not_obj {j : Json} (hj : ∀ fs, j ≠ .obj fs) (key : String) : j.get? key = none := by
  cases j with
  | obj fs => exact absurd rfl (hj fs)
  | _ => rfl

/-- Nothing lies below a value that is no object, and it has no type. -/
theorem follow_eq_of_not_obj {j : Json} (hj : ∀ fs, j ≠ .obj fs) (s : List MappingStep) :
    j.follow s = if s = [] then some j else none := by
  cases s with
  | nil => rfl
  | cons st rest => simp [follow_cons, get?_of_not_obj hj]

theorem typedNodes_of_not_obj {j : Json} (hj : ∀ fs, j ≠ .obj fs) : typedNodes j = [] := by
  cases j with
  | obj fs => exact absurd rfl (hj fs)
  | _ => rfl

theorem valueNodes_of_not_obj {j : Json} (br : Branch) (hj : ∀ fs, j ≠ .obj fs) :
    valueNodes br j = [] := by
  cases j with
  | obj fs => exact absurd rfl (hj fs)
  | _ => rfl

/-- A typed node reached from an object by a step into a branch lies below the value the object
holds at that branch's key. -/
theorem mem_typedNodes_obj_cons {cfs : List (String × Json)} {st : MappingStep}
    {rest : List MappingStep} {t : String} :
    (st :: rest, t) ∈ typedNodes (.obj cfs) ↔
      ∃ v, (st.branch.name, v) ∈ cfs ∧ (st :: rest, t) ∈ valueNodes st.branch v := by
  obtain ⟨br, k⟩ := st
  simp only [typedNodes, List.mem_append, mem_ownType, reduceCtorEq, false_and, false_or,
    mem_branchNodes]
  -- the other branch's nodes start with a step into that branch
  have hother : ∀ br' v, br' ≠ br → (⟨br, k⟩ :: rest, t) ∉ valueNodes br' v := by
    intro br' v hne hmem
    obtain ⟨k', rest', heq, -⟩ := head_of_mem_valueNodes hmem
    simp only [List.cons.injEq, MappingStep.mk.injEq] at heq
    exact hne heq.1.1.symm
  cases br with
  | properties =>
    constructor
    · rintro (h | ⟨v, -, hv⟩)
      · exact h
      · exact absurd hv (hother .fields v (by decide))
    · exact .inl
  | fields =>
    constructor
    · rintro (⟨v, -, hv⟩ | h)
      · exact absurd hv (hother .properties v (by decide))
      · exact h
    · exact .inr

/-- What `typedNodes` lists of a value and `valueNodes` of a branch's value, read as nodes
reached by paths. -/
def ReachesTyped (j : Json) : Prop :=
  (∀ s t, (s, t) ∈ typedNodes j ↔ ∃ n, j.follow s = some n ∧ n.HasType t) ∧
  ∀ (br : Branch) k rest t, (⟨br, k⟩ :: rest, t) ∈ valueNodes br j ↔
    ∃ c, j.get? k = some c ∧ ∃ n, c.follow rest = some n ∧ n.HasType t

theorem reachesTyped_of_not_obj {j : Json} (hj : ∀ fs, j ≠ .obj fs) : ReachesTyped j := by
  have hget := get?_of_not_obj hj
  refine ⟨fun s t => ?_, fun br k rest t => ?_⟩
  · rw [typedNodes_of_not_obj hj, follow_eq_of_not_obj hj]
    split
    · simp [HasType, hget]
    · simp
  · simp [valueNodes_of_not_obj br hj, hget]

/-- Every node of a value is reached by exactly the paths `typedNodes` gives it. The induction
is on the value; a step goes from an object to the value at a branch's key, then to an entry. -/
theorem reachesTyped {j : Json} (h : j.IsValue) : ReachesTyped j := by
  induction h with
  | null => exact reachesTyped_of_not_obj (by simp)
  | bool b => exact reachesTyped_of_not_obj (by simp)
  | num n => exact reachesTyped_of_not_obj (by simp)
  | str s => exact reachesTyped_of_not_obj (by simp)
  | arr _ _ => exact reachesTyped_of_not_obj (by simp)
  | @obj fields hkeys _ ih =>
    have hnodup : (fields.map Prod.fst).Nodup := hkeys.imp ne_of_lt
    refine ⟨fun s t => ?_, fun br k rest t => ?_⟩
    · cases s with
      | nil =>
        -- the object itself: typed by its own `type`, the only node with the empty path
        simp only [typedNodes, List.mem_append, mem_ownType, true_and, Json.follow,
          Option.some.injEq, exists_eq_left']
        constructor
        · rintro ((h | h) | h)
          · exact h
          · obtain ⟨k, rest, ⟨⟩⟩ := head_of_mem_branchNodes h
          · obtain ⟨k, rest, ⟨⟩⟩ := head_of_mem_branchNodes h
        · exact fun h => .inl (.inl h)
      | cons st rest =>
        -- a step into a branch: the value at the branch's key, then one of its entries
        rw [mem_typedNodes_obj_cons, follow_cons, get?_obj]
        constructor
        · rintro ⟨v, hv, hmem⟩
          obtain ⟨c, hc, n, hn, ht⟩ := ((ih _ hv).2 st.branch st.key rest t).1 hmem
          exact ⟨n, by simp [(lookup_eq_some_iff_mem hnodup).2 hv, hc, hn], ht⟩
        · rintro ⟨n, hn, ht⟩
          simp only [Option.bind_eq_some_iff] at hn
          obtain ⟨c, ⟨v, hv, hc⟩, hn⟩ := hn
          have hmem := (lookup_eq_some_iff_mem hnodup).1 hv
          exact ⟨v, hmem, ((ih _ hmem).2 st.branch st.key rest t).2 ⟨c, hc, n, hn, ht⟩⟩
    · -- an entry of the object, then a path below it
      simp only [valueNodes, mem_entryNodes, List.cons.injEq, MappingStep.mk.injEq, true_and,
        get?_obj]
      constructor
      · rintro ⟨k', c, rest', hkc, ⟨rfl, rfl⟩, hmem⟩
        exact ⟨c, (lookup_eq_some_iff_mem hnodup).2 hkc, ((ih _ hkc).1 rest t).1 hmem⟩
      · rintro ⟨c, hc, hreach⟩
        have hkc := (lookup_eq_some_iff_mem hnodup).1 hc
        exact ⟨k, c, rest, hkc, ⟨rfl, rfl⟩, ((ih _ hkc).1 rest t).2 hreach⟩

/-- The typed nodes of a value are exactly the typed nodes its paths reach. -/
theorem mem_typedNodes_iff {j : Json} (h : j.IsValue) {s : List MappingStep} {t : String} :
    (s, t) ∈ typedNodes j ↔ ∃ n, j.follow s = some n ∧ n.HasType t :=
  (reachesTyped h).1 s t

/-! ## The typed nodes come in pre-order -/

/-- Paths that agree on a first step are ordered by what follows it. -/
theorem PathBefore.cons (st : MappingStep) {a b : List MappingStep} (h : PathBefore a b) :
    PathBefore (st :: a) (st :: b) :=
  List.Lex.cons h

/-- Paths that part at their first step are ordered by it. -/
theorem PathBefore.head {st st' : MappingStep} (a b : List MappingStep)
    (h : st.Before st') : PathBefore (st :: a) (st' :: b) :=
  List.Lex.rel h

/-- A node comes before everything below it. -/
theorem PathBefore.nil (st : MappingStep) (b : List MappingStep) : PathBefore [] (st :: b) :=
  List.Lex.nil

/-- The nodes below entries with strictly ascending keys are in pre-order when the nodes below
each entry are: an entry's nodes come before those of later entries. -/
theorem entryNodes_sorted {br : Branch} : ∀ {es : List (String × Json)},
    (es.map Prod.fst).Pairwise (· < ·) →
    (∀ e ∈ es, ((typedNodes e.2).map (·.1)).Pairwise PathBefore) →
    ((entryNodes br es).map (·.1)).Pairwise PathBefore
  | [], _, _ => by simp [entryNodes]
  | (k, c) :: rest, hkeys, hsorted => by
    simp only [List.map_cons, List.pairwise_cons] at hkeys
    simp only [entryNodes, List.map_append, List.pairwise_append]
    refine ⟨?_, entryNodes_sorted hkeys.2 fun e he => hsorted e (by simp [he]), ?_⟩
    · -- one step more in front keeps the entry's own order
      have hc : ((typedNodes c).map (·.1)).Pairwise PathBefore := hsorted (k, c) (by simp)
      rw [List.map_map]
      rw [List.pairwise_map] at hc ⊢
      exact hc.imp fun h => PathBefore.cons _ h
    · -- an entry's nodes come before those of every later entry, whose keys are greater
      intro a ha b hb
      simp only [List.map_map, List.mem_map, Function.comp_apply, underStep] at ha
      obtain ⟨x, -, rfl⟩ := ha
      obtain ⟨⟨s, t⟩, hst, rfl⟩ := List.mem_map.1 hb
      obtain ⟨k', c', rest', hkc, rfl, -⟩ := mem_entryNodes.1 hst
      exact PathBefore.head _ _ (.inr ⟨rfl, hkeys.1 k' (List.mem_map_of_mem hkc)⟩)

/-- A configuration with distinct keys holds one value under a branch's key, so its nodes there
are in pre-order when that value's are. -/
theorem branchNodes_sorted {br : Branch} {cfs : List (String × Json)}
    (hnodup : (cfs.map Prod.fst).Nodup)
    (hsorted : ∀ e ∈ cfs, ((valueNodes br e.2).map (·.1)).Pairwise PathBefore) :
    ((branchNodes br cfs).map (·.1)).Pairwise PathBefore := by
  rw [branchNodes_eq_lookup hnodup]
  cases hv : cfs.lookup br.name with
  | none => simp
  | some v => exact hsorted (br.name, v) ((lookup_eq_some_iff_mem hnodup).1 hv)

theorem ownType_sorted (n : Json) : ((ownType n).map (·.1)).Pairwise PathBefore := by
  unfold ownType
  split <;> simp

/-- The nodes of `typedNodes` and of `valueNodes`, in pre-order. -/
def SortedBelow (j : Json) : Prop :=
  ((typedNodes j).map (·.1)).Pairwise PathBefore ∧
    ∀ br : Branch, ((valueNodes br j).map (·.1)).Pairwise PathBefore

theorem sortedBelow_of_not_obj {j : Json} (hj : ∀ fs, j ≠ .obj fs) : SortedBelow j :=
  ⟨by simp [typedNodes_of_not_obj hj], fun br => by simp [valueNodes_of_not_obj br hj]⟩

/-- The typed nodes of a value come in pre-order: the node itself, then the nodes under
`properties`, then those under `fields`, siblings in key order. -/
theorem sortedBelow {j : Json} (h : j.IsValue) : SortedBelow j := by
  induction h with
  | null => exact sortedBelow_of_not_obj (by simp)
  | bool b => exact sortedBelow_of_not_obj (by simp)
  | num n => exact sortedBelow_of_not_obj (by simp)
  | str s => exact sortedBelow_of_not_obj (by simp)
  | arr _ _ => exact sortedBelow_of_not_obj (by simp)
  | @obj fields hkeys _ ih =>
    have hnodup : (fields.map Prod.fst).Nodup := hkeys.imp ne_of_lt
    refine ⟨?_, fun br => entryNodes_sorted hkeys fun e he => (ih e he).1⟩
    have hprops : ((branchNodes .properties fields).map (·.1)).Pairwise PathBefore :=
      branchNodes_sorted hnodup fun e he => (ih e he).2 _
    have hfields : ((branchNodes .fields fields).map (·.1)).Pairwise PathBefore :=
      branchNodes_sorted hnodup fun e he => (ih e he).2 _
    simp only [typedNodes, List.map_append, List.pairwise_append]
    refine ⟨⟨ownType_sorted _, hprops, ?_⟩, hfields, ?_⟩
    · -- the object itself comes before everything below it
      intro a ha b hb
      obtain ⟨⟨s, t⟩, hst, rfl⟩ := List.mem_map.1 ha
      obtain ⟨⟨s', t'⟩, hst', rfl⟩ := List.mem_map.1 hb
      obtain ⟨rfl, -⟩ := mem_ownType.1 hst
      obtain ⟨k, rest, rfl⟩ := head_of_mem_branchNodes hst'
      exact PathBefore.nil _ _
    · -- the object itself and its sub-fields come before its multi-fields
      intro a ha b hb
      obtain ⟨⟨s', t'⟩, hst', rfl⟩ := List.mem_map.1 hb
      obtain ⟨k', rest', rfl⟩ := head_of_mem_branchNodes hst'
      rcases List.mem_append.1 ha with ha | ha
      · obtain ⟨⟨s, t⟩, hst, rfl⟩ := List.mem_map.1 ha
        obtain ⟨rfl, -⟩ := mem_ownType.1 hst
        exact PathBefore.nil _ _
      · obtain ⟨⟨s, t⟩, hst, rfl⟩ := List.mem_map.1 ha
        obtain ⟨k, rest, rfl⟩ := head_of_mem_branchNodes hst
        exact PathBefore.head _ _ (.inl Nat.zero_lt_one)

/-! ## Names -/

/-- Below a name that is not empty, every key adds a dot and itself. -/
theorem extendName_of_ne_empty (keys : List String) :
    ∀ {parent : String}, parent ≠ "" → extendName parent keys = ".".intercalate (parent :: keys) := by
  induction keys with
  | nil => intro parent _; simp [extendName]
  | cons k ks ih =>
    intro parent hp
    have hchild : childName parent k = parent ++ "." ++ k := by
      simp [childName, String.isEmpty_iff, hp]
    have hne : parent ++ "." ++ k ≠ "" := by
      intro h
      have := congrArg String.length h
      simp at this
    show extendName (childName parent k) ks = _
    rw [hchild, ih hne, String.intercalate_cons_append, String.intercalate_cons_cons]

/-- From the root, a name is its keys joined by dots once the leading empty keys are dropped: a
key below an empty name stands alone. -/
theorem extendName_root (keys : List String) :
    extendName "" keys = ".".intercalate (keys.dropWhile (· == "")) := by
  induction keys with
  | nil => rfl
  | cons k ks ih =>
    have hchild : childName "" k = k := by simp [childName]
    show extendName (childName "" k) ks = _
    rw [hchild, List.dropWhile_cons]
    by_cases hk : k = ""
    · subst hk
      simpa using ih
    · rw [extendName_of_ne_empty ks hk]
      simp [hk]

/-! ## The catalog of a mapping -/

theorem isValue_mappingRoot {properties : Json} (h : properties.IsValue) :
    (mappingRoot properties).IsValue :=
  .obj (by simp) (by simpa using h)

/-- Below the mapping root lie the nodes of its `properties` value, and nothing else. -/
theorem typedNodes_mappingRoot (properties : Json) :
    typedNodes (mappingRoot properties) = valueNodes .properties properties := by
  simp [mappingRoot, typedNodes, ownType, branchNodes, Branch.name, Json.get?]

/-- The catalog lists the infos of the typed nodes below the mapping root. -/
theorem extractFields_eq_map (properties : Json) :
    extractFields properties = (typedNodes (mappingRoot properties)).map (nodeInfo "") := by
  rw [typedNodes_mappingRoot, extractFields, collectFields_eq_map .properties]

/-- The info of a node from the root: named by its keys, searchable and aggregatable by its
type. -/
theorem nodeInfo_root (node : List MappingStep × String) :
    nodeInfo "" node =
      { name := ".".intercalate ((node.1.map (·.key)).dropWhile (· == "")),
        fieldType := node.2, searchable := isSearchable node.2,
        aggregatable := isSearchable node.2 && node.2 != "text" } := by
  rw [nodeInfo, FieldInfo.ofType, extendName_root, isAggregatable, Bool.and_comm]

theorem indexFields_eq (response : Json) (index : String) :
    indexFields response index =
      ((response.getPath? [index, "mappings", "properties"]).map extractFields).getD [] := by
  unfold indexFields
  cases h : response.get? index with
  | none => simp [Json.getPath?, h]
  | some m =>
    have hpath : response.getPath? [index, "mappings", "properties"] =
        m.getPath? ["mappings", "properties"] := by
      rw [Json.getPath?, h]
      rfl
    rw [hpath]
    dsimp only
    cases m.getPath? ["mappings", "properties"] <;> rfl

/-- The catalog of a JSON value lists each node whose `type` is a string exactly once, in
pre-order: a node before its sub-fields, the sub-fields before the multi-fields, siblings in key
order. The nodes are those a path reaches from the mapping root through entries of `properties`
and `fields` objects. A field is named by the keys of its path joined by dots, leading empty
keys left out, and carries its type. It is searchable when the type is, and aggregatable when it
is searchable and not `text`, so only searchable fields are aggregatable. An index's catalog is
that of `mappings.properties` under the index, or nothing when that is absent. -/
theorem extractFields_preorder (properties : Json) (hP : properties.IsValue) (response : Json)
    (index : String) :
    (∃ nodes : List (List MappingStep × String),
      (nodes.map (·.1)).Pairwise PathBefore ∧
      (∀ path t, (path, t) ∈ nodes ↔ TypedNode properties path t) ∧
      extractFields properties = nodes.map fun node =>
        { name := ".".intercalate ((node.1.map (·.key)).dropWhile (· == "")),
          fieldType := node.2, searchable := isSearchable node.2,
          aggregatable := isSearchable node.2 && node.2 != "text" }) ∧
    (∀ f ∈ extractFields properties, f.aggregatable = true → f.searchable = true) ∧
    indexFields response index =
      ((response.getPath? [index, "mappings", "properties"]).map extractFields).getD [] := by
  have hroot := isValue_mappingRoot hP
  have hinfos : extractFields properties =
      (typedNodes (mappingRoot properties)).map fun node =>
        ({ name := ".".intercalate ((node.1.map (·.key)).dropWhile (· == "")),
           fieldType := node.2, searchable := isSearchable node.2,
           aggregatable := isSearchable node.2 && node.2 != "text" } : FieldInfo) := by
    rw [extractFields_eq_map]
    exact List.map_congr_left fun node _ => nodeInfo_root node
  refine ⟨⟨typedNodes (mappingRoot properties), (sortedBelow hroot).1,
    fun path t => mem_typedNodes_iff hroot, hinfos⟩, ?_, indexFields_eq response index⟩
  -- an aggregatable field's type is searchable
  intro f hf hagg
  rw [hinfos] at hf
  obtain ⟨node, -, rfl⟩ := List.mem_map.1 hf
  simp only [Bool.and_eq_true] at hagg
  exact hagg.1

/-- The mapping of a message with a raw keyword variant and a user with an id and a location: a
JSON value, whose catalog is its typed nodes in pre-order. -/
theorem extractFields_preorder_message_user :
    let P : Json := .obj [
      ("message", .obj [("fields", .obj [("raw", .obj [("type", .str "keyword")])]),
        ("type", .str "text")]),
      ("user", .obj [("properties", .obj [("geo", .obj [("type", .str "geo_point")]),
        ("id", .obj [("type", .str "long")])])])]
    let response : Json := .obj [("logs", .obj [("mappings", .obj [("properties", P)])])]
    P.IsValue ∧
      (∃ nodes : List (List MappingStep × String),
        (nodes.map (·.1)).Pairwise PathBefore ∧
        (∀ path t, (path, t) ∈ nodes ↔ TypedNode P path t) ∧
        extractFields P = nodes.map fun node =>
          { name := ".".intercalate ((node.1.map (·.key)).dropWhile (· == "")),
            fieldType := node.2, searchable := isSearchable node.2,
            aggregatable := isSearchable node.2 && node.2 != "text" }) ∧
      (∀ f ∈ extractFields P, f.aggregatable = true → f.searchable = true) ∧
      indexFields response "logs" =
        ((response.getPath? ["logs", "mappings", "properties"]).map extractFields).getD [] := by
  intro P response
  have hP : P.IsValue := by simp +decide [P, -String.lt_iff_ltb]
  exact ⟨hP, extractFields_preorder P hP response "logs"⟩

/-- A key below an empty name stands alone: in the mapping `{"": {"properties": {"x": {"type":
"text"}}}}` the field at the path of keys `""`, `"x"` is named `x`, not `.x`, the two keys joined
by a dot. -/
theorem extractFields_empty_parent_name :
    (extractFields (.obj [("", .obj [("properties",
        .obj [("x", .obj [("type", .str "text")])])])])).map (·.name) = ["x"] ∧
      ".".intercalate ["", "x"] = ".x" := by
  refine ⟨?_, by simp⟩
  simp [extractFields, collectFields, collectEntries, collectConfig, childName, Json.get?,
    FieldInfo.ofType]

end Sift
