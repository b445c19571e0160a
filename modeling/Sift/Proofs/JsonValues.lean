import Mathlib
import Sift.Proofs.ObjectFields

/-!
# JSON values

The engine's dynamic values are documents whose objects are maps: the keys of every object are
sorted, in code point order, and unique (`Json.IsValue`). A document read from text need not be
one, and `Json.normalize` makes it one. On a value `Json.normalize` changes nothing
(`Json.normalize_of_isValue`). In a value's object, looking a key up finds exactly the entry that
holds it (`Json.lookup_eq_some_iff_mem`).
-/

namespace Sift.Json

/-- A JSON value as the engine holds it: the keys of every object strictly ascending. -/
inductive IsValue : Json → Prop
  | null : IsValue .null
  | bool (b : Bool) : IsValue (.bool b)
  | num (n : Number) : IsValue (.num n)
  | str (s : String) : IsValue (.str s)
  | arr {items : List Json} : (∀ x ∈ items, IsValue x) → IsValue (.arr items)
  | obj {fields : List (String × Json)} : (fields.map Prod.fst).Pairwise (· < ·) →
      (∀ e ∈ fields, IsValue e.2) → IsValue (.obj fields)

@[simp] theorem isValue_null : IsValue .null := .null

@[simp] theorem isValue_str (s : String) : IsValue (.str s) := .str s

@[simp] theorem isValue_obj_iff {fields : List (String × Json)} :
    IsValue (.obj fields) ↔ (fields.map Prod.fst).Pairwise (· < ·) ∧ ∀ e ∈ fields, IsValue e.2 :=
  ⟨fun h => by cases h with | obj hkeys hvalues => exact ⟨hkeys, hvalues⟩,
    fun h => .obj h.1 h.2⟩

/-- Inserting a key above every key present puts its entry last. -/
theorem insertSorted_of_lt {k : String} {v : Json} {acc : List (String × Json)}
    (h : ∀ k' ∈ acc.map Prod.fst, k' < k) : insertSorted k v acc = acc ++ [(k, v)] := by
  induction acc with
  | nil => rfl
  | cons e rest ih =>
    obtain ⟨k', v'⟩ := e
    simp only [List.map_cons, List.mem_cons, forall_eq_or_imp] at h
    rw [insertSorted, if_neg (ne_of_gt h.1), if_neg (not_lt.2 (le_of_lt h.1)), ih h.2,
      List.cons_append]

/-- Entries already sorted by strictly ascending keys are left as they are. -/
theorem sortFields_of_sorted {fields : List (String × Json)}
    (h : (fields.map Prod.fst).Pairwise (· < ·)) : sortFields fields = fields := by
  -- the fold appends each entry after those inserted before it, all of whose keys are smaller
  suffices hfold : ∀ acc : List (String × Json),
      (∀ a ∈ acc.map Prod.fst, ∀ b ∈ fields.map Prod.fst, a < b) →
      fields.foldl (fun acc e => insertSorted e.1 e.2 acc) acc = acc ++ fields by
    simpa [sortFields_eq_foldl] using hfold [] (by simp)
  induction fields with
  | nil => simp
  | cons e rest ih =>
    intro acc hacc
    simp only [List.map_cons, List.pairwise_cons] at h
    have hlast := insertSorted_of_lt (v := e.2) fun k' hk' => hacc k' hk' e.1 (by simp)
    rw [List.foldl_cons, hlast, ih h.2]
    · simp
    · intro a ha b hb
      simp only [List.map_append, List.map_cons, List.map_nil, List.mem_append, List.mem_cons,
        List.not_mem_nil, or_false] at ha
      rcases ha with ha | rfl
      · exact hacc a ha b (by simp [hb])
      · exact h.1 b hb

theorem normalizeItems_eq_map (items : List Json) : normalizeItems items = items.map normalize := by
  induction items with
  | nil => rfl
  | cons x xs ih => rw [normalizeItems, ih, List.map_cons]

theorem normalizeFields_eq_map (fields : List (String × Json)) :
    normalizeFields fields = fields.map fun e => (e.1, normalize e.2) := by
  induction fields with
  | nil => rfl
  | cons e rest ih =>
    obtain ⟨k, x⟩ := e
    rw [normalizeFields, ih, List.map_cons]

/-- Normalizing a value gives it back. -/
theorem normalize_of_isValue {j : Json} (h : IsValue j) : normalize j = j := by
  induction h with
  | null => rfl
  | bool b => rfl
  | num n => rfl
  | str s => rfl
  | arr _ ih =>
    rw [normalize, normalizeItems_eq_map, List.map_congr_left ih, List.map_id']
  | @obj fields hkeys _ ih =>
    have hvalues : fields.map (fun e => (e.1, normalize e.2)) = fields := by
      conv_rhs => rw [← List.map_id' fields]
      exact List.map_congr_left fun e he => by rw [ih e he]
    rw [normalize, normalizeFields_eq_map, hvalues, sortFields_of_sorted hkeys]

/-- In entries with distinct keys, a key looks up exactly the value it comes with. -/
theorem lookup_eq_some_iff_mem {l : List (String × Json)} (h : (l.map Prod.fst).Nodup)
    {k : String} {v : Json} : l.lookup k = some v ↔ (k, v) ∈ l := by
  constructor
  · intro hl
    obtain ⟨l₁, l₂, rfl, -⟩ := List.lookup_eq_some_iff.1 hl
    simp
  · exact lookup_of_mem h

end Sift.Json
