import Sift.Search.Query
import Sift.Proofs.CompactText

/-!
# The cache key identifies the request

The cache key of a request is the compact text of
`[connection, index, query, sort or null, from, effective size]`, and its body is
`{from, query, size, sort?}` holding the same start, query, capped size and sort. Compact text is
injective on documents whose numbers are finite (`Json.compact_inj`); a missing sort is `null` in
the key and no entry in the body; the start and the capped size are integers in both. So two
requests share a key exactly when they go to the same connection and index with the same body
(`SearchQuery.cacheKey_eq_iff`).

Only the capped size reaches the key and the body, so requests that differ only in a size above
`maxResultWindow` share their key. Queries read by `SearchQuery.decode` hold values whose
objects have sorted, unique keys, so for them equal bodies are bodies equal as maps.
-/

namespace Sift

open Json

/-- A start below `2^64` prints as an integer. -/
theorem Json.nat_of_lt {n : Nat} (h : n < 2 ^ 64) : Json.nat n = .num (.int n) := by
  have hlt : (n : Int) < Json.Number.intBound := by
    rw [show Json.Number.intBound = 2 ^ 64 from rfl]
    exact_mod_cast h
  simp only [Json.nat, Json.Number.ofNat, if_pos hlt]

namespace SearchQuery

/-- What a request decoded from JSON satisfies: a start that fits in 64 bits, and only finite
numbers in the query and the sort. -/
structure Wellformed (q : SearchQuery) : Prop where
  /-- The start is read as an unsigned 64-bit integer. -/
  from_lt : q.from < 2 ^ 64
  /-- The reader makes no infinite or NaN number. -/
  query_finite : q.query.finite
  /-- Nor does it make one in the sort. -/
  sort_finite : ∀ s, q.sort = some s → Json.finiteItems s

theorem effectiveSize_lt (q : SearchQuery) : q.effectiveSize < 2 ^ 64 := by
  have : q.effectiveSize ≤ maxResultWindow := Nat.min_le_right _ _
  unfold maxResultWindow at this
  omega

/-- The document whose compact text is the key has only finite numbers. -/
theorem Wellformed.finite_key (c : String) {q : SearchQuery} (hq : q.Wellformed) :
    (Json.arr [.str c, .str q.index, q.query,
      (match q.sort with | some s => .arr s | none => .null),
      Json.nat q.from, Json.nat q.effectiveSize]).finite := by
  have hsort : (match q.sort with | some s => Json.arr s | none => .null).finite := by
    cases hs : q.sort with
    | none => rfl
    | some s => exact hq.sort_finite s hs
  simp only [Json.finite, Json.finiteItems, hq.query_finite, hsort, Json.nat_of_lt hq.from_lt,
    Json.nat_of_lt q.effectiveSize_lt, Json.Number.finite, Bool.and_self]

/-- Equal bodies: the same start, query, capped size and sort. -/
theorem requestBody_eq_iff {q₁ q₂ : SearchQuery} :
    q₁.requestBody = q₂.requestBody ↔
      Json.nat q₁.from = Json.nat q₂.from ∧ q₁.query = q₂.query ∧
        Json.nat q₁.effectiveSize = Json.nat q₂.effectiveSize ∧ q₁.sort = q₂.sort := by
  unfold requestBody
  cases hs₁ : q₁.sort <;> cases hs₂ : q₂.sort <;> simp

/-- The key's entries: connection, index, query, sort, start and capped size. -/
theorem keyItems_eq_iff {c₁ c₂ : String} {q₁ q₂ : SearchQuery} :
    [Json.str c₁, .str q₁.index, q₁.query,
        (match q₁.sort with | some s => .arr s | none => .null),
        Json.nat q₁.from, Json.nat q₁.effectiveSize] =
      [Json.str c₂, .str q₂.index, q₂.query,
        (match q₂.sort with | some s => .arr s | none => .null),
        Json.nat q₂.from, Json.nat q₂.effectiveSize] ↔
      c₁ = c₂ ∧ q₁.index = q₂.index ∧ q₁.query = q₂.query ∧ q₁.sort = q₂.sort ∧
        Json.nat q₁.from = Json.nat q₂.from ∧
        Json.nat q₁.effectiveSize = Json.nat q₂.effectiveSize := by
  -- the sort is `null` exactly when there is none
  have hsort : (match q₁.sort with | some s => Json.arr s | none => .null) =
      (match q₂.sort with | some s => Json.arr s | none => .null) ↔ q₁.sort = q₂.sort := by
    cases q₁.sort <;> cases q₂.sort <;> simp
  simp only [List.cons.injEq, Json.str.injEq, and_true, hsort]

/-- Two requests share a cache key exactly when they go to the same connection and index with
the same body. -/
theorem cacheKey_eq_iff {c₁ c₂ : String} {q₁ q₂ : SearchQuery} (h₁ : q₁.Wellformed)
    (h₂ : q₂.Wellformed) :
    q₁.cacheKey c₁ = q₂.cacheKey c₂ ↔
      c₁ = c₂ ∧ q₁.index = q₂.index ∧ q₁.requestBody = q₂.requestBody := by
  rw [requestBody_eq_iff]
  constructor
  · -- equal texts come from equal key documents, entry by entry
    intro h
    obtain ⟨hc, hidx, hquery, hsort, hfrom, hsize⟩ :=
      keyItems_eq_iff.1 (Json.arr.inj (Json.compact_inj (h₁.finite_key c₁) (h₂.finite_key c₂) h))
    exact ⟨hc, hidx, hfrom, hquery, hsize, hsort⟩
  · rintro ⟨hc, hidx, hfrom, hquery, hsize, hsort⟩
    exact congrArg (fun items => (Json.arr items).compact)
      (keyItems_eq_iff.2 ⟨hc, hidx, hquery, hsort, hfrom, hsize⟩)

/-- Two requests that differ only in sizes above the window share their key. -/
theorem cacheKey_shared_above_window :
    ({ index := "logs", size := 20000 } : SearchQuery).Wellformed ∧
    ({ index := "logs", size := 50000 } : SearchQuery).Wellformed ∧
    cacheKey "local" { index := "logs", size := 20000 } =
      cacheKey "local" { index := "logs", size := 50000 } := by
  have hw : ∀ n : Nat, ({ index := "logs", size := n } : SearchQuery).Wellformed := fun _ =>
    ⟨Nat.two_pow_pos 64, rfl, fun s hs => by cases hs⟩
  exact ⟨hw _, hw _, (cacheKey_eq_iff (hw _) (hw _)).2 ⟨rfl, rfl, rfl⟩⟩

end SearchQuery

end Sift
