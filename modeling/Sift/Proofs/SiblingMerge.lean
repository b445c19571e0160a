import Sift.Filter.Compile

/-!
# Sibling groups merge bucket by bucket

Compiling a forest appends the fragments of each group to the bucket of its occurrence
(`reduceGroups`). Read algebraically, bool queries form a monoid under `BoolQuery.merge`,
bucket-wise concatenation, with the empty query as unit; gathering a forest is a monoid
homomorphism from forests under `++`; and sending the empty query to `none` turns `merge` into
`BoolQuery.mergeOpt`, whose unit is `none`. The fragments of later siblings therefore land after
those of earlier ones, in the same bucket of the one top-level query.

Each bucket of the gathered query holds the fragments of the groups with that occurrence, in
forest order (`bucket_gather`). A compiled forest thus depends only on its four sub-forests by
occurrence: groups may be reordered as long as groups with the same occurrence keep their
relative order.
-/

namespace Sift

namespace BoolQuery

/-! ## The monoid of bool queries -/

/-- Two bool queries with the same buckets are equal. -/
theorem ext_bucket {a b : BoolQuery} (h : ∀ o, a.bucket o = b.bucket o) : a = b := by
  obtain ⟨m, s, n, f⟩ := a
  obtain ⟨m', s', n', f'⟩ := b
  have hm := h .must
  have hs := h .should
  have hn := h .mustNot
  have hf := h .filter
  simp only [bucket] at hm hs hn hf
  subst hm hs hn hf
  rfl

@[simp] theorem bucket_empty (o : Occur) : ({} : BoolQuery).bucket o = [] := by
  cases o <;> rfl

@[simp] theorem bucket_merge (a b : BoolQuery) (o : Occur) :
    (a.merge b).bucket o = a.bucket o ++ b.bucket o := by
  cases o <;> rfl

@[simp] theorem bucket_extend (q : BoolQuery) (o o' : Occur) (cs : List Json) :
    (q.extend o cs).bucket o' = q.bucket o' ++ if o = o' then cs else [] := by
  cases o <;> cases o' <;> simp [extend, bucket]

theorem merge_assoc (a b c : BoolQuery) : (a.merge b).merge c = a.merge (b.merge c) :=
  ext_bucket fun o => by simp

@[simp] theorem empty_merge (q : BoolQuery) : ({} : BoolQuery).merge q = q :=
  ext_bucket fun o => by simp

@[simp] theorem merge_empty (q : BoolQuery) : q.merge {} = q :=
  ext_bucket fun o => by simp

/-- Appending to one bucket is merging with the query that has only that bucket. -/
theorem extend_eq_merge (q : BoolQuery) (o : Occur) (cs : List Json) :
    q.extend o cs = q.merge (({} : BoolQuery).extend o cs) :=
  ext_bucket fun o' => by simp

/-- The unit is the query whose every bucket is empty. -/
theorem eq_empty_iff (q : BoolQuery) : q = {} ↔ ∀ o, q.bucket o = [] :=
  ⟨fun h o => by simp [h], fun h => ext_bucket fun o => by simp [h]⟩

/-- A query is empty exactly when it is the unit. -/
theorem isEmpty_iff (q : BoolQuery) : q.isEmpty = true ↔ q = {} := by
  obtain ⟨m, s, n, f⟩ := q
  simp only [isEmpty, Bool.and_eq_true, List.isEmpty_iff]
  constructor
  · rintro ⟨⟨⟨rfl, rfl⟩, rfl⟩, rfl⟩
    rfl
  · intro h
    cases h
    simp

theorem isEmpty_merge (a b : BoolQuery) : (a.merge b).isEmpty = (a.isEmpty && b.isEmpty) := by
  rw [Bool.eq_iff_iff, Bool.and_eq_true, isEmpty_iff, isEmpty_iff, isEmpty_iff, eq_empty_iff,
    eq_empty_iff, eq_empty_iff]
  simp [forall_and]

/-- A query, or nothing when every bucket is empty. -/
def nonempty? (q : BoolQuery) : Option BoolQuery :=
  if q.isEmpty then none else some q

/-- Dropping empty queries turns `merge` into `mergeOpt`. -/
theorem nonempty?_merge (a b : BoolQuery) :
    (a.merge b).nonempty? = mergeOpt a.nonempty? b.nonempty? := by
  cases ha : a.isEmpty with
  | true =>
      rw [(isEmpty_iff a).1 ha, empty_merge]
      rfl
  | false =>
      cases hb : b.isEmpty with
      | true =>
          rw [(isEmpty_iff b).1 hb, merge_empty]
          cases a.nonempty? <;> rfl
      | false =>
          simp [nonempty?, mergeOpt, isEmpty_merge, ha, hb]

end BoolQuery

/-! ## Gathering a forest -/

/-- The bool query of a forest with its empty buckets kept: each group's fragments appended to
the bucket of its occurrence, in forest order. -/
def gatherGroups (gs : List Group) : BoolQuery :=
  gs.foldl (fun acc g => acc.extend g.occur g.fragments) {}

theorem reduceGroups_eq_nonempty? (gs : List Group) :
    reduceGroups gs = (gatherGroups gs).nonempty? := rfl

/-- The compiler's fold from any accumulator is a merge with the gathered forest. -/
theorem foldl_extend_eq_merge (gs : List Group) (acc : BoolQuery) :
    gs.foldl (fun acc g => acc.extend g.occur g.fragments) acc = acc.merge (gatherGroups gs) := by
  induction gs generalizing acc with
  | nil =>
      simp [gatherGroups]
  | cons g gs ih =>
      have hcons : gatherGroups (g :: gs) =
          (({} : BoolQuery).extend g.occur g.fragments).merge (gatherGroups gs) := by
        rw [gatherGroups, List.foldl_cons, ih]
      rw [List.foldl_cons, ih, hcons, BoolQuery.extend_eq_merge acc, BoolQuery.merge_assoc]

theorem gatherGroups_append (gs₁ gs₂ : List Group) :
    gatherGroups (gs₁ ++ gs₂) = (gatherGroups gs₁).merge (gatherGroups gs₂) := by
  rw [gatherGroups, List.foldl_append, foldl_extend_eq_merge]
  rfl

/-- A bucket of a gathered forest: the fragments of the groups of that occurrence, in order. -/
theorem bucket_gatherGroups (gs : List Group) (o : Occur) :
    (gatherGroups gs).bucket o = (gs.filter (·.occur == o)).flatMap Group.fragments := by
  induction gs with
  | nil =>
      simp [gatherGroups]
  | cons g gs ih =>
      rw [← List.singleton_append, gatherGroups_append, BoolQuery.bucket_merge, ih]
      by_cases h : g.occur = o
      · simp [gatherGroups, h]
      · simp [gatherGroups, h]

/-- The compiled query is `{"match_all":{}}` exactly when no group has a fragment. -/
theorem compileQuery_eq_matchAll_iff (gs : List Group) :
    compileQuery gs = Json.matchAll ↔ reduceGroups gs = none := by
  cases h : reduceGroups gs with
  | none =>
      simp [compileQuery, h]
  | some q =>
      simp [compileQuery, h, BoolQuery.toJson, Json.matchAll]

/-- Forests whose sub-forests by occurrence agree compile to the same query. -/
theorem compileQuery_eq_of_filter_occur {gs gs' : List Group}
    (h : ∀ o, gs.filter (·.occur == o) = gs'.filter (·.occur == o)) :
    compileQuery gs = compileQuery gs' := by
  have hgather : gatherGroups gs = gatherGroups gs' :=
    BoolQuery.ext_bucket fun o => by rw [bucket_gatherGroups, bucket_gatherGroups, h]
  simp only [compileQuery, reduceGroups_eq_nonempty?, hgather]

/-- The sibling-merge law: reducing a forest is a monoid homomorphism into optional bool
queries, so the halves of a forest compile to `{"match_all":{}}` together or concatenate bucket
by bucket, and reordering groups of different occurrences changes nothing. -/
theorem reduceGroups_append_merge :
    reduceGroups [] = none ∧
    (∀ gs₁ gs₂ : List Group, reduceGroups (gs₁ ++ gs₂) =
      BoolQuery.mergeOpt (reduceGroups gs₁) (reduceGroups gs₂)) ∧
    (∀ gs₁ gs₂ : List Group, compileQuery (gs₁ ++ gs₂) = Json.matchAll ↔
      compileQuery gs₁ = Json.matchAll ∧ compileQuery gs₂ = Json.matchAll) ∧
    (∀ gs gs' : List Group, (∀ o, gs.filter (·.occur == o) = gs'.filter (·.occur == o)) →
      compileQuery gs = compileQuery gs') := by
  have hom : ∀ gs₁ gs₂ : List Group, reduceGroups (gs₁ ++ gs₂) =
      BoolQuery.mergeOpt (reduceGroups gs₁) (reduceGroups gs₂) := by
    intro gs₁ gs₂
    simp only [reduceGroups_eq_nonempty?, gatherGroups_append, BoolQuery.nonempty?_merge]
  refine ⟨rfl, hom, ?_, fun _ _ h => compileQuery_eq_of_filter_occur h⟩
  intro gs₁ gs₂
  simp only [compileQuery_eq_matchAll_iff, hom]
  cases reduceGroups gs₁ <;> cases reduceGroups gs₂ <;> simp [BoolQuery.mergeOpt]

/-- A `filter` group may move in front of a `must` group. -/
theorem compileQuery_filter_moved_first :
    (∀ o, [({ occur := .must, conditions := [{ field := "a", operator := some .present }] } : Group),
        { occur := .filter, conditions := [{ field := "b", operator := some .present }] }].filter
        (·.occur == o) =
      [({ occur := .filter, conditions := [{ field := "b", operator := some .present }] } : Group),
        { occur := .must, conditions := [{ field := "a", operator := some .present }] }].filter
        (·.occur == o)) ∧
    compileQuery [{ occur := .must, conditions := [{ field := "a", operator := some .present }] },
        { occur := .filter, conditions := [{ field := "b", operator := some .present }] }] =
      compileQuery [{ occur := .filter, conditions := [{ field := "b", operator := some .present }] },
        { occur := .must, conditions := [{ field := "a", operator := some .present }] }] := by
  have h : ∀ o,
      [({ occur := .must, conditions := [{ field := "a", operator := some .present }] } : Group),
        { occur := .filter, conditions := [{ field := "b", operator := some .present }] }].filter
        (·.occur == o) =
      [({ occur := .filter, conditions := [{ field := "b", operator := some .present }] } : Group),
        { occur := .must, conditions := [{ field := "a", operator := some .present }] }].filter
        (·.occur == o) := by
    intro o
    cases o <;> rfl
  exact ⟨h, reduceGroups_append_merge.2.2.2 _ _ h⟩

end Sift
