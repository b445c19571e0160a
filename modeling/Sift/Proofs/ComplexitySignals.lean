import Mathlib
import Sift.Proofs.SiblingMerge
import Sift.Dsl.Complexity

/-!
# Complexity signals of compiled queries

`analyzeComplexity` reads five signals off a query: its depth, the entries of its bool buckets,
whether a `wildcard` or a `regexp` key occurs, and how many `range` keys occur. On a compiled
forest each signal is a homomorphism over the root groups: compiling `gs₁ ++ gs₂` merges the two
bool queries bucket by bucket (`gatherGroups_append`), and the signals of a printed bool query
are folds over its buckets, so the depth of the merge is the larger depth, the counts add up and
the flags are joined by `||`. The score only grows with the signals, so adding root groups never
lowers it.

Two points make this exact rather than approximate:

* a forest with no fragment compiles to `{"match_all":{}}`, whose signals are those of the empty
  bool query `{"bool":{}}` (depth 2, all counts 0), so the fallback acts as the unit;
* the keys a compiled query adds around its clauses are `bool` and the four bucket names, none of
  which is counted, so clauses may hold any keys at all, `bool`, `range` or `wildcard` included,
  and are counted exactly once, inside their bucket.
-/

namespace Sift

open Json

/-! ## Signals over lists of values -/

theorem depthItems_append (xs ys : List Json) :
    depthItems (xs ++ ys) = max (depthItems xs) (depthItems ys) := by
  induction xs with
  | nil => simp [depthItems]
  | cons x xs ih => simp only [List.cons_append, depthItems, ih]; omega

theorem depthFields_append (xs ys : List (String × Json)) :
    depthFields (xs ++ ys) = max (depthFields xs) (depthFields ys) := by
  induction xs with
  | nil => simp [depthFields]
  | cons x xs ih => simp only [List.cons_append, depthFields, ih]; omega

theorem boolEntriesItems_append (xs ys : List Json) :
    boolEntriesItems (xs ++ ys) = boolEntriesItems xs + boolEntriesItems ys := by
  induction xs with
  | nil => simp [boolEntriesItems]
  | cons x xs ih => simp only [List.cons_append, boolEntriesItems, ih]; omega

theorem boolEntriesFields_append (xs ys : List (String × Json)) :
    boolEntriesFields (xs ++ ys) = boolEntriesFields xs + boolEntriesFields ys := by
  induction xs with
  | nil => simp [boolEntriesFields]
  | cons x xs ih => simp only [List.cons_append, boolEntriesFields, ih]; omega

theorem keyCountItems_append (k : String) (xs ys : List Json) :
    keyCountItems k (xs ++ ys) = keyCountItems k xs + keyCountItems k ys := by
  induction xs with
  | nil => simp [keyCountItems]
  | cons x xs ih => simp only [List.cons_append, keyCountItems, ih]; omega

theorem keyCountFields_append (k : String) (xs ys : List (String × Json)) :
    keyCountFields k (xs ++ ys) = keyCountFields k xs + keyCountFields k ys := by
  induction xs with
  | nil => simp [keyCountFields]
  | cons x xs ih => simp only [List.cons_append, keyCountFields, ih]; omega

/-! ## Signals of a printed bool query

A bucket prints as the entry `name: [clauses]`, or not at all when it is empty. -/

namespace BoolQuery

/-- The depth a bucket adds to the body: one more than its deepest clause, `0` when empty. -/
def bucketDepth (cs : List Json) : Nat := if cs = [] then 0 else depthItems cs + 1

theorem bucketDepth_append (xs ys : List Json) :
    bucketDepth (xs ++ ys) = max (bucketDepth xs) (bucketDepth ys) := by
  cases xs <;> cases ys <;> simp [bucketDepth, depthItems_append, depthItems]

theorem depthFields_bucket (name : String) (cs : List Json) :
    depthFields (if cs.isEmpty then [] else [(name, Json.arr cs)]) = bucketDepth cs := by
  cases cs <;> simp [bucketDepth, depthFields, Json.depth]

theorem boolEntriesFields_bucket (name : String) (cs : List Json) :
    boolEntriesFields (if cs.isEmpty then [] else [(name, Json.arr cs)]) = boolEntriesItems cs := by
  cases cs <;> simp [boolEntriesFields, boolEntries, boolEntriesItems]

theorem keyCountFields_bucket (k name : String) (h : name ≠ k) (cs : List Json) :
    keyCountFields k (if cs.isEmpty then [] else [(name, Json.arr cs)]) = keyCountItems k cs := by
  cases cs <;> simp [keyCountFields, keyCount, keyCountItems, h]

/-- The value under a key of a body, among the four bucket entries. -/
theorem find?_bucket (name k : String) (cs : List Json) :
    (if cs = [] then [] else [(name, Json.arr cs)]).find? (·.1 == k) =
      if name = k ∧ cs ≠ [] then some (name, Json.arr cs) else none := by
  cases cs <;> by_cases h : name = k <;> simp [h]

/-- How many entries the bool-body count gives a bucket's value: the items of an array, one for
anything else, nothing for no value. -/
def entryWeight (o : Option Json) : Nat :=
  (o.map fun b => match b with | .arr xs => xs.length | _ => 1).getD 0

theorem foldl_filterMap_weight (keys : List String) (g : String → Option Json) (n : Nat) :
    (keys.filterMap g).foldl (fun n b => n + match b with | .arr xs => xs.length | _ => 1) n =
      n + (keys.map fun k => entryWeight (g k)).sum := by
  induction keys generalizing n with
  | nil => simp
  | cons k keys ih =>
    cases hk : g k with
    | none => simp [hk, ih, entryWeight]
    | some v => simp [hk, ih, entryWeight]; omega

theorem entryWeight_bucket (cs : List Json) :
    entryWeight (if cs = [] then none else some (Json.arr cs)) = cs.length := by
  cases cs <;> simp [entryWeight]

/-- The value of a bucket's key in the body: the bucket's array, nothing when it is empty. -/
theorem get?_body (q : BoolQuery) (o : Occur) :
    q.body.get? o.name = if q.bucket o = [] then none else some (Json.arr (q.bucket o)) := by
  cases o <;> simp [body, Json.get?, List.find?_append, find?_bucket, Occur.name, bucket] <;>
    split <;> simp_all

theorem boolBuckets_eq : boolBuckets = Occur.all.map Occur.name := rfl

theorem depth_toJson (q : BoolQuery) :
    q.toJson.depth = max (max (max (bucketDepth q.filter) (bucketDepth q.must))
      (bucketDepth q.mustNot)) (bucketDepth q.should) + 2 := by
  simp only [toJson, body, Json.depth, depthFields, depthFields_append, depthFields_bucket]
  omega

theorem boolEntries_toJson (q : BoolQuery) :
    boolEntries q.toJson =
      (Occur.all.map fun o => (q.bucket o).length + boolEntriesItems (q.bucket o)).sum := by
  have hown : (boolBuckets.filterMap (q.body.get? ·)).foldl
      (fun n b => n + match b with | .arr xs => xs.length | _ => 1) 0 =
      (Occur.all.map fun o => (q.bucket o).length).sum := by
    rw [foldl_filterMap_weight, boolBuckets_eq, List.map_map]
    simp [Occur.all, get?_body, entryWeight_bucket]
  have hsplit : boolEntries q.toJson =
      (boolBuckets.filterMap (q.body.get? ·)).foldl
        (fun n b => n + match b with | .arr xs => xs.length | _ => 1) 0 + boolEntries q.body := by
    rfl
  rw [hsplit, hown]
  simp only [body, boolEntries, boolEntriesFields_append, boolEntriesFields_bucket]
  simp only [Occur.all, bucket, List.map_cons, List.map_nil, List.sum_cons, List.sum_nil]
  omega

/-- Outside the keys a printed bool query adds itself, a key is counted in the clauses only. -/
theorem keyCount_toJson (k : String) (hk : k ∉ ["bool", "filter", "must", "must_not", "should"])
    (q : BoolQuery) :
    keyCount k q.toJson = (Occur.all.map fun o => keyCountItems k (q.bucket o)).sum := by
  simp only [List.mem_cons, List.not_mem_nil, or_false, not_or] at hk
  obtain ⟨hb, hf, hm, hn, hs⟩ := hk
  simp only [toJson, keyCount, keyCountFields, body, keyCountFields_append,
    keyCountFields_bucket k "filter" (Ne.symm hf), keyCountFields_bucket k "must" (Ne.symm hm),
    keyCountFields_bucket k "must_not" (Ne.symm hn), keyCountFields_bucket k "should" (Ne.symm hs),
    Ne.symm hb, if_false]
  simp only [Occur.all, bucket, List.map_cons, List.map_nil, List.sum_cons, List.sum_nil]
  omega

/-! ## Merging is a homomorphism for the signals -/

theorem depth_toJson_merge (a b : BoolQuery) :
    (a.merge b).toJson.depth = max a.toJson.depth b.toJson.depth := by
  simp only [depth_toJson, merge, bucketDepth_append]
  rw [max_add_add_right]
  congr 1
  ac_rfl

theorem boolEntries_toJson_merge (a b : BoolQuery) :
    boolEntries (a.merge b).toJson = boolEntries a.toJson + boolEntries b.toJson := by
  simp only [boolEntries_toJson, bucket_merge, List.length_append, boolEntriesItems_append,
    Occur.all, List.map_cons, List.map_nil, List.sum_cons, List.sum_nil]
  omega

theorem keyCount_toJson_merge (k : String)
    (hk : k ∉ ["bool", "filter", "must", "must_not", "should"]) (a b : BoolQuery) :
    keyCount k (a.merge b).toJson = keyCount k a.toJson + keyCount k b.toJson := by
  simp only [keyCount_toJson k hk, bucket_merge, keyCountItems_append, Occur.all, List.map_cons,
    List.map_nil, List.sum_cons, List.sum_nil]
  omega

end BoolQuery

/-! ## The report is a function of the signals -/

section Report

variable (q : Json)

@[simp] theorem analyzeComplexity_depth : (analyzeComplexity q).depth = q.depth := rfl

@[simp] theorem analyzeComplexity_boolEntries :
    (analyzeComplexity q).boolEntries = boolEntries q := rfl

@[simp] theorem analyzeComplexity_hasWildcard :
    (analyzeComplexity q).hasWildcard = decide (keyCount "wildcard" q > 0) := rfl

@[simp] theorem analyzeComplexity_hasRegexp :
    (analyzeComplexity q).hasRegexp = decide (keyCount "regexp" q > 0) := rfl

@[simp] theorem analyzeComplexity_rangeClauses :
    (analyzeComplexity q).rangeClauses = keyCount "range" q := rfl

/-- The points of the signals that fire, summed. -/
theorem score_analyzeComplexity :
    (analyzeComplexity q).score =
      (if q.depth > 5 then 3 else 0) + (if boolEntries q > 10 then 2 else 0) +
      (if keyCount "wildcard" q > 0 then 2 else 0) + (if keyCount "regexp" q > 0 then 3 else 0) +
      (if keyCount "range" q > 5 then 1 else 0) := by
  have hfired : ∀ xs : List (Bool × Nat × String),
      ((xs.filter (·.1)).map (·.2.1)).foldr (· + ·) 0 =
        (xs.map fun s => if s.1 then s.2.1 else 0).sum := by
    intro xs
    induction xs with
    | nil => rfl
    | cons s xs ih => cases h : s.1 <;> simp [h, ih]
  simp only [analyzeComplexity, hfired, List.map_cons, List.map_nil, List.sum_cons, List.sum_nil,
    decide_eq_true_eq]
  omega

end Report

/-- Points that fire on a weaker condition fire on a stronger one too. -/
theorem points_le_points {p q : Prop} [Decidable p] [Decidable q] (h : p → q) (n : Nat) :
    (if p then n else 0) ≤ (if q then n else 0) := by
  split_ifs with hp hq
  · exact le_rfl
  · exact absurd (h hp) hq
  · exact Nat.zero_le n
  · exact le_rfl

/-- A key occurs in one of two parts exactly when it occurs in one or the other. -/
theorem decide_add_pos (a b : Nat) : decide (a + b > 0) = (decide (a > 0) || decide (b > 0)) := by
  rw [Bool.eq_iff_iff, Bool.or_eq_true, decide_eq_true_eq, decide_eq_true_eq, decide_eq_true_eq]
  omega

/-- The score grows with every signal. -/
theorem score_le_score {x y : Json} (hd : x.depth ≤ y.depth) (hb : boolEntries x ≤ boolEntries y)
    (hw : keyCount "wildcard" x ≤ keyCount "wildcard" y)
    (hr : keyCount "regexp" x ≤ keyCount "regexp" y)
    (hg : keyCount "range" x ≤ keyCount "range" y) :
    (analyzeComplexity x).score ≤ (analyzeComplexity y).score := by
  rw [score_analyzeComplexity, score_analyzeComplexity]
  have h₁ := points_le_points (p := x.depth > 5) (q := y.depth > 5) (by omega) 3
  have h₂ := points_le_points (p := boolEntries x > 10) (q := boolEntries y > 10) (by omega) 2
  have h₃ := points_le_points (p := keyCount "wildcard" x > 0) (q := keyCount "wildcard" y > 0)
    (by omega) 2
  have h₄ := points_le_points (p := keyCount "regexp" x > 0) (q := keyCount "regexp" y > 0)
    (by omega) 3
  have h₅ := points_le_points (p := keyCount "range" x > 5) (q := keyCount "range" y > 5)
    (by omega) 1
  omega

/-- Two documents with the same signals get the same report. -/
theorem analyzeComplexity_congr {x y : Json} (hd : x.depth = y.depth)
    (hb : boolEntries x = boolEntries y) (hw : keyCount "wildcard" x = keyCount "wildcard" y)
    (hr : keyCount "regexp" x = keyCount "regexp" y) (hg : keyCount "range" x = keyCount "range" y) :
    analyzeComplexity x = analyzeComplexity y := by
  simp only [analyzeComplexity, hd, hb, hw, hr, hg]

/-! ## Compiled forests -/

/-- `{"match_all":{}}` reports exactly as the empty bool query `{"bool":{}}`. -/
theorem analyzeComplexity_matchAll :
    analyzeComplexity Json.matchAll = analyzeComplexity ({} : BoolQuery).toJson :=
  analyzeComplexity_congr (by decide) (by decide) (by decide) (by decide) (by decide)

/-- A compiled forest reports as its gathered bool query, printed even when it is empty. -/
theorem analyzeComplexity_compileQuery (gs : List Group) :
    analyzeComplexity (compileQuery gs) = analyzeComplexity (gatherGroups gs).toJson := by
  rw [compileQuery, reduceGroups_eq_nonempty?, BoolQuery.nonempty?]
  by_cases h : (gatherGroups gs).isEmpty
  · rw [if_pos h, (BoolQuery.isEmpty_iff _).1 h]
    exact analyzeComplexity_matchAll
  · rw [if_neg h]

/-- The complexity signals of a compiled forest compose over its root groups: the depth of
`gs₁ ++ gs₂` is the larger of the two depths, its bool entries and range clauses are the sums,
and it has a wildcard or a regexp exactly when one of the two parts has. Hence adding root groups,
before or after the others, never lowers the score. -/
theorem compileQuery_append_signals (gs₁ gs₂ : List Group) :
    let C := analyzeComplexity (compileQuery (gs₁ ++ gs₂))
    let C₁ := analyzeComplexity (compileQuery gs₁)
    let C₂ := analyzeComplexity (compileQuery gs₂)
    C.depth = max C₁.depth C₂.depth ∧
    C.boolEntries = C₁.boolEntries + C₂.boolEntries ∧
    C.rangeClauses = C₁.rangeClauses + C₂.rangeClauses ∧
    C.hasWildcard = (C₁.hasWildcard || C₂.hasWildcard) ∧
    C.hasRegexp = (C₁.hasRegexp || C₂.hasRegexp) ∧
    C₁.score ≤ C.score ∧ C₂.score ≤ C.score := by
  intro C C₁ C₂
  have hC : C = analyzeComplexity ((gatherGroups gs₁).merge (gatherGroups gs₂)).toJson := by
    rw [← gatherGroups_append, ← analyzeComplexity_compileQuery]
  have hC₁ : C₁ = analyzeComplexity (gatherGroups gs₁).toJson := analyzeComplexity_compileQuery gs₁
  have hC₂ : C₂ = analyzeComplexity (gatherGroups gs₂).toJson := analyzeComplexity_compileQuery gs₂
  -- the three counted keys are none of those the printer adds
  have hw := BoolQuery.keyCount_toJson_merge "wildcard" (by simp)
    (gatherGroups gs₁) (gatherGroups gs₂)
  have hr := BoolQuery.keyCount_toJson_merge "regexp" (by simp)
    (gatherGroups gs₁) (gatherGroups gs₂)
  have hg := BoolQuery.keyCount_toJson_merge "range" (by simp)
    (gatherGroups gs₁) (gatherGroups gs₂)
  have hd := BoolQuery.depth_toJson_merge (gatherGroups gs₁) (gatherGroups gs₂)
  have hb := BoolQuery.boolEntries_toJson_merge (gatherGroups gs₁) (gatherGroups gs₂)
  rw [hC, hC₁, hC₂]
  refine ⟨by simp [hd], by simp [hb], by simp [hg], ?_, ?_, ?_, ?_⟩
  · simp only [analyzeComplexity_hasWildcard, hw, decide_add_pos]
  · simp only [analyzeComplexity_hasRegexp, hr, decide_add_pos]
  · exact score_le_score (by omega) (by omega) (by omega) (by omega) (by omega)
  · exact score_le_score (by omega) (by omega) (by omega) (by omega) (by omega)

end Sift
