import Mathlib
import Sift.SlowLog.Report
import Sift.Proofs.SearchEquality

/-!
# Entries similar to a query

`SlowLog.findSimilar` scores every logged entry against a query, keeps those whose similarity
is at or above the log's threshold, sorts them most similar first and cuts the list to the log's
limit. The sort is a merge sort, which is stable: entries of equal similarity keep the
newest-first order of the log.

The sort compares similarities by the IEEE order of doubles, which is not total, since a NaN
compares with nothing. No kept similarity is a NaN, though: it is at or above the threshold. On
doubles that are not NaN the IEEE order is the order of a key in a lexicographic product of
integers (`UnpackedFloat.le_iff_orderKey`): first the class (negative infinity, negative finite,
zero of either sign, positive finite, positive infinity), then exponent and mantissa, read
backwards below zero. Sorting the kept entries by that key sorts them the same way, and the key's
order is linear, where the laws of merge sort hold.

Main statement: `SlowLog.findSimilar_spec`. The answer is the first `similarLimit` of the
qualifying entries ordered by non-increasing similarity, with ties in log order; each qualifying
entry left out is at most as similar as every entry returned, none is returned twice, and each
returned entry carries the similarity computed for it.
-/

namespace Float.Model.UnpackedFloat

/-- Where an unpacked double stands in the IEEE order, as a key in a lexicographic product:
negative infinity, the negative finite values (larger exponent and mantissa further down), the
zeros of both signs together, the positive finite values, positive infinity. A NaN gets the key
of zero, but nothing is said of it. -/
def orderKey : UnpackedFloat → Int ×ₗ Int ×ₗ Int
  | .infinity .negative => toLex (-2, toLex (0, 0))
  | .finite .negative m e _ => toLex (-1, toLex (-e, -(m : Int)))
  | .zero _ | .notANumber => toLex (0, toLex (0, 0))
  | .finite .positive m e _ => toLex (1, toLex (e, m))
  | .infinity .positive => toLex (2, toLex (0, 0))

theorem Sign.isLE_compare (s t : Sign) :
    (compare s t).isLE = true ↔ s = .negative ∨ t = .positive := by
  cases s <;> cases t <;> simp <;> decide

/-- Positive finite values compare by exponent, then by mantissa. -/
theorem isLE_then_compare (e f : Int) (m n : Nat) :
    ((compare e f).then (compare m n)).isLE = true ↔ e < f ∨ e = f ∧ m ≤ n := by
  rcases lt_trichotomy e f with h | rfl | h
  · simp [compare_lt_iff_lt.2 h, h]
  · simp [Nat.isLE_compare]
  · simp [compare_gt_iff_gt.2 h, h.not_gt, h.ne']

/-- Negative finite values compare the other way round. -/
theorem isGE_then_compare (e f : Int) (m n : Nat) :
    ((compare e f).then (compare m n)).isGE = true ↔ f < e ∨ e = f ∧ n ≤ m := by
  rcases lt_trichotomy e f with h | rfl | h
  · simp [compare_lt_iff_lt.2 h, h.not_gt, h.ne]
  · simp [Nat.isGE_compare]
  · simp [compare_gt_iff_gt.2 h, h]

/-- On values that are not NaN, IEEE `≤` is the order of the keys. -/
theorem le_iff_orderKey {a b : UnpackedFloat} (ha : a ≠ .notANumber) (hb : b ≠ .notANumber) :
    a.le b = true ↔ a.orderKey ≤ b.orderKey := by
  -- every pair of constructors and signs: a fixed answer, or exponents then mantissas
  rcases a with (_ | _) | _ | (_ | _) | ⟨(_ | _), m, e, hm⟩ <;>
    rcases b with (_ | _) | _ | (_ | _) | ⟨(_ | _), n, f, hn⟩ <;>
    simp_all [UnpackedFloat.le, UnpackedFloat.compare, orderKey, Prod.Lex.le_iff,
      isLE_then_compare, isGE_then_compare, Sign.isLE_compare]

/-- A NaN is at or below nothing, and nothing is at or below a NaN. -/
theorem ne_notANumber_of_le {a b : UnpackedFloat} (h : a.le b = true) :
    a ≠ .notANumber ∧ b ≠ .notANumber := by
  constructor <;> rintro rfl
  · simp [UnpackedFloat.le, UnpackedFloat.compare] at h
  · cases a <;> simp [UnpackedFloat.le, UnpackedFloat.compare] at h

/-- Values that are IEEE-equal have one key. -/
theorem orderKey_eq_of_beq {a b : UnpackedFloat} (h : a.beq b = true) :
    a.orderKey = b.orderKey := by
  rcases a with (_ | _) | _ | (_ | _) | ⟨(_ | _), m, e, hm⟩ <;>
    rcases b with (_ | _) | _ | (_ | _) | ⟨(_ | _), n, f, hn⟩ <;>
    simp_all [UnpackedFloat.beq, UnpackedFloat.compare, orderKey, Ordering.then_eq_eq]

/-- Values that are not NaN and have one key are IEEE-equal. -/
theorem beq_of_orderKey_eq {a b : UnpackedFloat} (ha : a ≠ .notANumber) (hb : b ≠ .notANumber)
    (h : a.orderKey = b.orderKey) : a.beq b = true := by
  rcases a with (_ | _) | _ | (_ | _) | ⟨(_ | _), m, e, hm⟩ <;>
    rcases b with (_ | _) | _ | (_ | _) | ⟨(_ | _), n, f, hn⟩ <;>
    simp_all [UnpackedFloat.beq, UnpackedFloat.compare, orderKey, Sign.compare_self]

end Float.Model.UnpackedFloat

namespace Float

open Model

/-- The key of a double, by its unpacked form. -/
def orderKey (x : Float) : Int ×ₗ Int ×ₗ Int := x.toModel.unpack.orderKey

variable {x y : Float}

theorem le_iff_unpack : x ≤ y ↔ x.toModel.unpack.le y.toModel.unpack = true := by
  show x.le y = true ↔ _
  simp only [Float.le, decide_eq_true_eq]
  rfl

theorem isNaN_eq_false_iff : x.isNaN = false ↔ x.toModel.unpack ≠ .notANumber := by
  show x.toModel.unpack.isNaN = false ↔ _
  cases x.toModel.unpack <;> simp [UnpackedFloat.isNaN]

/-- Two doubles in the IEEE order are both not NaN. -/
theorem isNaN_eq_false_of_le (h : x ≤ y) : x.isNaN = false ∧ y.isNaN = false := by
  obtain ⟨hx, hy⟩ := UnpackedFloat.ne_notANumber_of_le (le_iff_unpack.1 h)
  exact ⟨isNaN_eq_false_iff.2 hx, isNaN_eq_false_iff.2 hy⟩

/-- On doubles that are not NaN, IEEE `≤` is the order of the keys. -/
theorem le_iff_orderKey (hx : x.isNaN = false) (hy : y.isNaN = false) :
    x ≤ y ↔ x.orderKey ≤ y.orderKey :=
  le_iff_unpack.trans
    (UnpackedFloat.le_iff_orderKey (isNaN_eq_false_iff.1 hx) (isNaN_eq_false_iff.1 hy))

/-- IEEE-equal doubles have one key. -/
theorem orderKey_eq_of_beq (h : (x == y) = true) : x.orderKey = y.orderKey :=
  UnpackedFloat.orderKey_eq_of_beq h

/-- Doubles that are not NaN are IEEE-equal exactly when they have one key. -/
theorem beq_iff_orderKey_eq (hx : x.isNaN = false) (hy : y.isNaN = false) :
    (x == y) = true ↔ x.orderKey = y.orderKey :=
  ⟨orderKey_eq_of_beq,
    UnpackedFloat.beq_of_orderKey_eq (isNaN_eq_false_iff.1 hx) (isNaN_eq_false_iff.1 hy)⟩

end Float

namespace Sift

/-- A merge sort by a total, transitive order keeps in their order the elements of any class
that the order ranks all alike: the class is a sorted sublist of the input, so it stays a
sublist of the output, which holds no more of it. -/
theorem filter_mergeSort_of_tied {α : Type} {le : α → α → Bool} {p : α → Bool}
    (trans : ∀ a b c, le a b → le b c → le a c) (total : ∀ a b, (le a b || le b a) = true)
    (hp : ∀ a b, p a → p b → le a b) (l : List α) :
    (l.mergeSort le).filter p = l.filter p := by
  have hsorted : (l.filter p).Pairwise fun a b => le a b :=
    List.pairwise_of_forall_mem_list fun a ha b hb =>
      hp a b (List.mem_filter.1 ha).2 (List.mem_filter.1 hb).2
  have hsub : (l.filter p).Sublist (l.mergeSort le) :=
    List.sublist_mergeSort trans total hsorted List.filter_sublist
  have hlen : ((l.mergeSort le).filter p).length = (l.filter p).length :=
    ((List.mergeSort_perm l le).filter p).length_eq
  have hclass : (l.filter p).Sublist ((l.mergeSort le).filter p) := by
    simpa [List.filter_filter] using hsub.filter p
  exact (hclass.eq_of_length hlen.symm).symm

/-- A list sorted by a key, largest first, is fixed by what it holds and by the order in which it
holds the elements of each key: two such lists that agree on every key's elements are equal. -/
theorem eq_of_pairwise_of_filter_key {α β : Type} [LinearOrder β] (k : α → β) :
    ∀ {L₁ L₂ : List α}, L₁.Perm L₂ → L₁.Pairwise (fun a b => k b ≤ k a) →
      L₂.Pairwise (fun a b => k b ≤ k a) →
      (∀ x ∈ L₁, L₁.filter (fun y => k y = k x) = L₂.filter (fun y => k y = k x)) → L₁ = L₂
  | [], _, hp, _, _, _ => hp.nil_eq
  | a :: L₁, L₂, hp, s₁, s₂, hf => by
    obtain ⟨b, L₂, rfl⟩ : ∃ b L₂', L₂ = b :: L₂' := by
      cases L₂ with
      | nil => exact absurd hp.length_eq (by simp)
      | cons b L₂' => exact ⟨b, L₂', rfl⟩
    -- both heads carry the largest key, so both head the elements of that key
    have hab : k a = k b := by
      have hb : b ∈ a :: L₁ := hp.symm.subset List.mem_cons_self
      have ha : a ∈ b :: L₂ := hp.subset List.mem_cons_self
      apply le_antisymm
      · rcases List.mem_cons.1 ha with rfl | ha
        · exact le_rfl
        · exact List.rel_of_pairwise_cons s₂ ha
      · rcases List.mem_cons.1 hb with rfl | hb
        · exact le_rfl
        · exact List.rel_of_pairwise_cons s₁ hb
    have hhead := hf a List.mem_cons_self
    simp only [List.filter_cons, decide_true, if_true, hab.symm] at hhead
    obtain ⟨rfl, -⟩ := List.cons.inj hhead
    congr 1
    -- the tails agree on every key's elements too, the common head taken away
    refine eq_of_pairwise_of_filter_key k hp.cons_inv s₁.of_cons s₂.of_cons fun x hx => ?_
    have h := hf x (List.mem_cons_of_mem a hx)
    simp only [List.filter_cons] at h
    split at h
    · exact (List.cons.inj h).2
    · exact h

namespace SlowLog

variable (log : SlowLog) (q : Json)

/-- The entries whose similarity to `q` is at or above the threshold, newest first, each with
its similarity. -/
def qualifying : List SimilarEntry :=
  (log.entries.filter fun e => log.similarityThreshold ≤ querySimilarity q e.query).map
    fun e => ⟨e, querySimilarity q e.query⟩

/-- Most similar first, by the key of the similarity. -/
def keyOrder (a b : SimilarEntry) : Bool := decide (b.similarity.orderKey ≤ a.similarity.orderKey)

theorem keyOrder_trans (a b c : SimilarEntry) (hab : keyOrder a b) (hbc : keyOrder b c) :
    keyOrder a c := by
  simp only [keyOrder, decide_eq_true_eq] at hab hbc ⊢
  exact hbc.trans hab

theorem keyOrder_total (a b : SimilarEntry) : (keyOrder a b || keyOrder b a) = true := by
  simp only [keyOrder, Bool.or_eq_true, decide_eq_true_eq]
  exact le_total _ _

variable {log q}

theorem mem_qualifying {r : SimilarEntry} (h : r ∈ log.qualifying q) :
    r.entry ∈ log.entries ∧ r.similarity = querySimilarity q r.entry.query ∧
      log.similarityThreshold ≤ r.similarity := by
  obtain ⟨e, he, rfl⟩ := List.mem_map.1 h
  obtain ⟨he, hsim⟩ := List.mem_filter.1 he
  exact ⟨he, rfl, of_decide_eq_true hsim⟩

/-- A qualifying similarity is at or above the threshold, so it is no NaN. -/
theorem isNaN_of_mem_qualifying {r : SimilarEntry} (h : r ∈ log.qualifying q) :
    r.similarity.isNaN = false :=
  (Float.isNaN_eq_false_of_le (mem_qualifying h).2.2).2

/-- On qualifying entries the key order is the order of similarities, most similar first. -/
theorem keyOrder_iff {a b : SimilarEntry} (ha : a ∈ log.qualifying q) (hb : b ∈ log.qualifying q) :
    keyOrder a b = true ↔ b.similarity ≤ a.similarity := by
  rw [keyOrder, decide_eq_true_iff]
  exact (Float.le_iff_orderKey (isNaN_of_mem_qualifying hb) (isNaN_of_mem_qualifying ha)).symm

/-- `L` ranks the qualifying entries of `q`: all of them, each as often as it qualifies, most
similar first, and the entries of each similarity in the order of the log. -/
structure RankedBySimilarity (log : SlowLog) (q : Json) (L : List SimilarEntry) : Prop where
  perm : L.Perm (log.qualifying q)
  sorted : L.Pairwise fun a b => b.similarity ≤ a.similarity
  ties : ∀ v : Float, L.filter (·.similarity == v) = (log.qualifying q).filter (·.similarity == v)

namespace RankedBySimilarity

variable {L L₁ L₂ : List SimilarEntry}

theorem isNaN_of_mem (h : RankedBySimilarity log q L) {r : SimilarEntry} (hr : r ∈ L) :
    r.similarity.isNaN = false :=
  isNaN_of_mem_qualifying (h.perm.subset hr)

/-- Sorted by similarity is sorted by the key of the similarity, none of them being NaN. -/
theorem sorted_key (h : RankedBySimilarity log q L) :
    L.Pairwise fun a b => b.similarity.orderKey ≤ a.similarity.orderKey :=
  h.sorted.imp_of_mem fun ha hb hle =>
    of_decide_eq_true ((keyOrder_iff (h.perm.subset ha) (h.perm.subset hb)).2 hle)

/-- The entries of one similarity are the entries of one key. -/
theorem filter_key (h : RankedBySimilarity log q L) (v : Float) (hv : v.isNaN = false) :
    L.filter (fun y => y.similarity.orderKey = v.orderKey) = L.filter (·.similarity == v) :=
  List.filter_congr fun y hy => by
    rw [Bool.eq_iff_iff, decide_eq_true_iff, Float.beq_iff_orderKey_eq (h.isNaN_of_mem hy) hv]

/-- There is one ranking of the qualifying entries. -/
theorem unique (h₁ : RankedBySimilarity log q L₁) (h₂ : RankedBySimilarity log q L₂) :
    L₁ = L₂ := by
  refine eq_of_pairwise_of_filter_key (·.similarity.orderKey) (h₁.perm.trans h₂.perm.symm)
    h₁.sorted_key h₂.sorted_key fun x hx => ?_
  have hv := h₁.isNaN_of_mem hx
  rw [h₁.filter_key _ hv, h₂.filter_key _ hv, h₁.ties, h₂.ties]

end RankedBySimilarity

variable (log q)

/-- Merge sort by the key of the similarity ranks the qualifying entries. -/
theorem rankedBySimilarity_mergeSort :
    RankedBySimilarity log q ((log.qualifying q).mergeSort keyOrder) where
  perm := List.mergeSort_perm _ _
  sorted :=
    (List.pairwise_mergeSort keyOrder_trans keyOrder_total _).imp_of_mem fun ha hb h =>
      (keyOrder_iff ((List.mergeSort_perm _ _).subset ha) ((List.mergeSort_perm _ _).subset hb)).1 h
  -- entries of one similarity are all alike to the key order
  ties v := filter_mergeSort_of_tied keyOrder_trans keyOrder_total (fun a b ha hb => by
    simp only [keyOrder, Float.orderKey_eq_of_beq ha, Float.orderKey_eq_of_beq hb, le_refl,
      decide_true]) _

/-- The answer is the qualifying entries sorted by the key of their similarity, cut to the
limit. -/
theorem findSimilar_eq :
    log.findSimilar q = ((log.qualifying q).mergeSort keyOrder).take log.similarLimit := by
  have hscored : (log.entries.filterMap fun e =>
      if log.similarityThreshold ≤ querySimilarity q e.query
      then some (⟨e, querySimilarity q e.query⟩ : SimilarEntry) else none) = log.qualifying q := by
    rw [qualifying, ← List.filterMap_eq_map', List.filterMap_filter]
    simp only [decide_eq_true_eq]
  -- on qualifying entries, none of them NaN, the IEEE order and the key order agree
  have hsort : (log.qualifying q).mergeSort (fun a b => decide (b.similarity ≤ a.similarity)) =
      (log.qualifying q).mergeSort keyOrder := by
    have hagree := List.map_mergeSort (f := id) (l := log.qualifying q)
      (r := fun a b => decide (b.similarity ≤ a.similarity)) (s := keyOrder)
      fun a ha b hb => Bool.eq_iff_iff.2 (decide_eq_true_iff.trans (keyOrder_iff ha hb).symm)
    simpa using hagree
  simp only [findSimilar, ge_iff_le, hscored, hsort]

/-- The entries similar to a query are the first `similarLimit` of the ranking of the
qualifying entries (those at or above the similarity threshold, each with its similarity): most
similar first, entries of equal similarity in the order of the log. That ranking exists, and for
it the answer and the qualifying entries left out (`L.drop similarLimit`) together are the
qualifying entries, each as often as it qualifies; every entry left out is at most as similar
as every entry returned; and every entry returned is a logged one, with the similarity computed
for it. -/
theorem findSimilar_spec :
    (∃ L, RankedBySimilarity log q L) ∧
    ∀ L, RankedBySimilarity log q L →
      log.findSimilar q = L.take log.similarLimit ∧
      (log.findSimilar q ++ L.drop log.similarLimit).Perm (log.qualifying q) ∧
      (∀ r ∈ log.findSimilar q, ∀ d ∈ L.drop log.similarLimit, d.similarity ≤ r.similarity) ∧
      (∀ r ∈ log.findSimilar q,
        r.entry ∈ log.entries ∧ r.similarity = querySimilarity q r.entry.query) := by
  refine ⟨⟨_, rankedBySimilarity_mergeSort log q⟩, fun L hL => ?_⟩
  have hanswer : log.findSimilar q = L.take log.similarLimit := by
    rw [findSimilar_eq, (rankedBySimilarity_mergeSort log q).unique hL]
  have hsplit := List.take_append_drop log.similarLimit L
  refine ⟨hanswer, ?split, ?below, ?computed⟩
  case split =>
    rw [hanswer, hsplit]
    exact hL.perm
  case below =>
    intro r hr d hd
    have hsorted := hL.sorted
    rw [← hsplit, List.pairwise_append] at hsorted
    exact hsorted.2.2 r (hanswer ▸ hr) d hd
  case computed =>
    intro r hr
    have hq := mem_qualifying (hL.perm.subset (List.mem_of_mem_take (hanswer ▸ hr)))
    exact ⟨hq.1, hq.2.1⟩

end SlowLog

end Sift
