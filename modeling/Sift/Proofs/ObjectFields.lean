import Mathlib
import Sift.Json.Basic

/-!
# Objects built from entries

`Json.object` makes an object value out of any entries by inserting them one by one into a list
kept sorted by key (`Json.sortFields`). Three facts say that the result is the map the entries
describe:

* looking a key up finds its last occurrence among the entries, so a later entry wins over an
  earlier one (`Json.lookup_sortFields`, and `Json.get?_object` for the object);
* the keys come out strictly increasing, hence without repetition (`Json.keys_sortFields_nodup`);
* entries whose keys are already distinct are only reordered (`Json.sortFields_perm`).
-/

namespace Sift.Json

/-- The first entry of a list answers for its own key only. -/
theorem lookup_cons_ite (key k : String) (v : Json) (rest : List (String × Json)) :
    ((k, v) :: rest).lookup key = if key = k then some v else rest.lookup key := by
  by_cases h : key = k
  · subst h
    simp
  · have hb : (key == k) = false := by simpa using h
    simp [List.lookup_cons, hb, h]

/-- Looking a key up in an object reads its entries with `List.lookup`. -/
theorem get?_obj (fields : List (String × Json)) (key : String) :
    (Json.obj fields).get? key = fields.lookup key := by
  induction fields with
  | nil => rfl
  | cons e rest ih =>
    obtain ⟨k, v⟩ := e
    rw [lookup_cons_ite, ← ih]
    by_cases h : key = k
    · subst h
      simp [Json.get?]
    · have hk : (k == key) = false := by simpa using Ne.symm h
      simp [Json.get?, hk, h]

/-- Inserting an entry sets its key and leaves every other key as it was. -/
theorem lookup_insertSorted (k : String) (v : Json) (l : List (String × Json)) (key : String) :
    (insertSorted k v l).lookup key = if key = k then some v else l.lookup key := by
  induction l with
  | nil => by_cases h : key = k <;> simp [insertSorted, lookup_cons_ite, h]
  | cons e rest ih =>
    obtain ⟨k', v'⟩ := e
    unfold insertSorted
    by_cases hk : k = k'
    · -- the entry replaces the one with its key
      subst hk
      by_cases h : key = k <;> simp [lookup_cons_ite, h]
    · by_cases hlt : k < k'
      · by_cases h : key = k <;> simp [lookup_cons_ite, hk, hlt, h]
      · simp only [hk, hlt, if_false, lookup_cons_ite, ih]
        by_cases h : key = k
        · subst h
          simp [hk]
        · simp [h]

/-- Sorting inserts the entries one after the other. -/
theorem sortFields_eq_foldl (l : List (String × Json)) :
    sortFields l = l.foldl (fun acc e => insertSorted e.1 e.2 acc) [] := rfl

/-- Looking a key up in sorted entries finds the last of the given entries with that key. -/
theorem lookup_sortFields (l : List (String × Json)) (key : String) :
    (sortFields l).lookup key = l.reverse.lookup key := by
  -- the fold is read from an arbitrary accumulator: the entries still to come win over it
  suffices h : ∀ acc : List (String × Json),
      (l.foldl (fun acc e => insertSorted e.1 e.2 acc) acc).lookup key =
        (l.reverse.lookup key).or (acc.lookup key) by
    simpa [sortFields_eq_foldl] using h []
  induction l with
  | nil => simp
  | cons e l ih =>
    intro acc
    obtain ⟨k, v⟩ := e
    rw [List.foldl_cons, ih, lookup_insertSorted, List.reverse_cons, List.lookup_append,
      Option.or_assoc]
    by_cases h : key = k <;> simp [lookup_cons_ite, h]

/-- The value at a key of an object built from entries: the last entry with that key. -/
theorem get?_object (l : List (String × Json)) (key : String) :
    (Json.object l).get? key = l.reverse.lookup key := by
  rw [Json.object, get?_obj, lookup_sortFields]

/-- Every key of the entries after an insertion is the inserted key or a key from before. -/
theorem mem_keys_insertSorted {k key : String} {v : Json} {l : List (String × Json)}
    (h : key ∈ (insertSorted k v l).map Prod.fst) : key = k ∨ key ∈ l.map Prod.fst := by
  induction l with
  | nil => simpa [insertSorted] using h
  | cons e rest ih =>
    obtain ⟨k', v'⟩ := e
    unfold insertSorted at h
    split_ifs at h with hk hlt
    · simp only [List.map_cons, List.mem_cons] at h
      rcases h with h | h
      · exact .inl h
      · exact .inr (by simp [h])
    · simp only [List.map_cons, List.mem_cons] at h
      rcases h with h | h | h
      · exact .inl h
      · exact .inr (by simp [h])
      · exact .inr (by simp [h])
    · simp only [List.map_cons, List.mem_cons] at h
      rcases h with h | h
      · exact .inr (by simp [h])
      · rcases ih h with h | h
        · exact .inl h
        · exact .inr (by simp [h])

/-- Insertion keeps the keys strictly increasing. -/
theorem keys_insertSorted_pairwise (k : String) (v : Json) {l : List (String × Json)}
    (hl : (l.map Prod.fst).Pairwise (· < ·)) :
    ((insertSorted k v l).map Prod.fst).Pairwise (· < ·) := by
  induction l with
  | nil => simp [insertSorted]
  | cons e rest ih =>
    obtain ⟨k', v'⟩ := e
    simp only [List.map_cons, List.pairwise_cons] at hl
    unfold insertSorted
    split_ifs with hk hlt
    · subst hk
      simpa using hl
    · -- the new key goes first: below `k'` and hence below every later key
      simp only [List.map_cons, List.pairwise_cons, List.mem_cons]
      refine ⟨?_, hl⟩
      rintro b (rfl | hb)
      · exact hlt
      · exact lt_trans hlt (hl.1 b hb)
    · have hgt : k' < k := lt_of_le_of_ne (not_lt.1 hlt) (Ne.symm hk)
      simp only [List.map_cons, List.pairwise_cons]
      refine ⟨fun b hb => ?_, ih hl.2⟩
      rcases mem_keys_insertSorted hb with rfl | hb
      · exact hgt
      · exact hl.1 b hb

/-- The keys of sorted entries are distinct. -/
theorem keys_sortFields_nodup (l : List (String × Json)) : ((sortFields l).map Prod.fst).Nodup := by
  suffices h : ∀ acc : List (String × Json), (acc.map Prod.fst).Pairwise (· < ·) →
      ((l.foldl (fun acc e => insertSorted e.1 e.2 acc) acc).map Prod.fst).Pairwise (· < ·)
    from (h [] List.Pairwise.nil).nodup
  induction l with
  | nil => exact fun acc h => h
  | cons e l ih => exact fun acc h => ih _ (keys_insertSorted_pairwise e.1 e.2 h)

/-- Inserting an entry whose key is new only puts it somewhere among the others. -/
theorem insertSorted_perm {k : String} (v : Json) {l : List (String × Json)}
    (hk : k ∉ l.map Prod.fst) : (insertSorted k v l).Perm ((k, v) :: l) := by
  induction l with
  | nil => simp [insertSorted]
  | cons e rest ih =>
    obtain ⟨k', v'⟩ := e
    simp only [List.map_cons, List.mem_cons, not_or] at hk
    unfold insertSorted
    rw [if_neg hk.1]
    split_ifs
    · exact List.Perm.refl _
    · exact ((ih hk.2).cons _).trans (List.Perm.swap _ _ _)

/-- Entries with distinct keys are only reordered by sorting. -/
theorem sortFields_perm {l : List (String × Json)} (h : (l.map Prod.fst).Nodup) :
    (sortFields l).Perm l := by
  suffices h : ∀ acc : List (String × Json), (∀ key ∈ l.map Prod.fst, key ∉ acc.map Prod.fst) →
      (l.foldl (fun acc e => insertSorted e.1 e.2 acc) acc).Perm (acc ++ l) by
    simpa [sortFields_eq_foldl] using h [] (by simp)
  induction l with
  | nil => simp
  | cons e l ih =>
    intro acc hfresh
    obtain ⟨k, v⟩ := e
    simp only [List.map_cons, List.nodup_cons] at h
    rw [List.foldl_cons]
    have hnew : k ∉ acc.map Prod.fst := hfresh k (by simp)
    -- the later keys are neither the inserted one nor any key of the accumulator
    have hrest : ∀ key ∈ l.map Prod.fst, key ∉ (insertSorted k v acc).map Prod.fst := by
      intro key hkey hmem
      rcases mem_keys_insertSorted hmem with rfl | hmem
      · exact h.1 hkey
      · exact hfresh key (by simp [hkey]) hmem
    refine (ih h.2 _ hrest).trans ?_
    calc List.Perm (insertSorted k v acc ++ l) (((k, v) :: acc) ++ l) :=
          (insertSorted_perm v hnew).append_right l
      _ = ((k, v) :: acc ++ l) := rfl
      List.Perm _ (acc ++ (k, v) :: l) := List.perm_middle.symm

/-- The value at a key that occurs once among the entries is the value it comes with. -/
theorem lookup_of_mem {l : List (String × Json)} (h : (l.map Prod.fst).Nodup) {k : String}
    {v : Json} (hm : (k, v) ∈ l) : l.lookup k = some v := by
  induction l with
  | nil => cases hm
  | cons e rest ih =>
    obtain ⟨k', v'⟩ := e
    simp only [List.map_cons, List.nodup_cons] at h
    rcases List.mem_cons.1 hm with he | hm
    · cases he
      simp
    · have hne : k ≠ k' := fun hk => h.1 (hk ▸ List.mem_map_of_mem hm)
      simpa [lookup_cons_ite, hne] using ih h.2 hm

end Sift.Json
