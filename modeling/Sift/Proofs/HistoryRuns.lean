import Mathlib
import Sift.History.Basic
import Sift.Proofs.SearchEquality

/-!
# Runs of the query history

A history is driven by recording searches, removing items by id, clearing, and restoring the
snapshot of a history. `QueryHistory.Reachable` is every history such runs reach from an empty
one, where a restore takes the snapshot of a history that is itself reachable.

Every reachable history is `Sound`: it holds at most its capacity, no two of its items record
equal searches on one connection, and it has no favorites. Recording a search then does one of
two things (`QueryHistory.Laws`): an item that already records the search is replaced where it
stands, the others keep their places; otherwise the new item goes in front, and the list is cut
to the capacity, which drops the last item when the list was full and the new item itself when
the capacity is 0. No call of a run touches the favorites.

The one-item-per-search law needs equality of searches to be symmetric and transitive
(`Sift.Proofs.SearchEquality`): an item replaced in place by an equal search keeps every other
item distinct from it.
-/

namespace Sift

namespace HistoryItem

/-- Whether an item records a search on a connection: the test by which recording a search
finds the item it replaces. -/
def records (x : HistoryItem) (connection : String) (q : SearchQuery) : Bool :=
  x.connectionId == connection && x.query.sameAs q

/-- Whether two items record equal searches on one connection. -/
def sameSearch (x y : HistoryItem) : Bool := x.records y.connectionId y.query

theorem sameSearch_comm (x y : HistoryItem) : x.sameSearch y = y.sameSearch x := by
  simp only [sameSearch, records, Bool.beq_comm, SearchQuery.sameAs_comm]

/-- Two items that record one search record equal searches. -/
theorem sameSearch_of_records {x y : HistoryItem} {c : String} {q : SearchQuery}
    (hx : x.records c q = true) (hy : y.records c q = true) : x.sameSearch y = true := by
  simp only [records, sameSearch, Bool.and_eq_true, beq_iff_eq] at hx hy ⊢
  rw [SearchQuery.sameAs_comm y.query q] at hy
  exact ⟨hx.1.trans hy.1.symm, SearchQuery.sameAs_trans hx.2 hy.2⟩

/-- An item that records no search equal to another's does not record what that one records. -/
theorem records_false_of_sameSearch_false {x y : HistoryItem} {c : String} {q : SearchQuery}
    (hyx : y.sameSearch x = false) (hx : x.records c q = true) : y.records c q = false := by
  cases hyc : y.records c q with
  | false => rfl
  | true => rw [sameSearch_of_records hyc hx] at hyx; cases hyx

end HistoryItem

/-- Cutting a list that is within a bound to the bound after putting an item in front keeps the
whole list when there was room, drops its last item when it was full, and keeps nothing when the
bound is 0. -/
theorem take_cons_of_length_le {α : Type} (a : α) {l : List α} {n : Nat} (h : l.length ≤ n) :
    (a :: l).take n = if n = 0 then [] else if l.length < n then a :: l else a :: l.dropLast := by
  cases n with
  | zero => rfl
  | succ n =>
    simp only [List.take_succ_cons, Nat.add_one_ne_zero, if_false]
    by_cases hlt : l.length < n + 1
    · rw [if_pos hlt, List.take_of_length_le (by omega)]
    · rw [if_neg hlt, List.dropLast_eq_take]
      congr 2
      omega

namespace QueryHistory

/-! ## What a run reaches -/

/-- The histories that runs of recordings, removals, clears and restores reach from an empty
history; a restore takes the snapshot of a history reached the same way. -/
inductive Reachable : QueryHistory → Prop
  | empty (capacity : Nat) : Reachable (empty capacity)
  | add {h : QueryHistory} (id : String) (q : SearchQuery) (connection : String)
      (executionTime resultCount : Option Nat) (now : Time.Instant) :
      Reachable h → Reachable (h.add id q connection executionTime resultCount now).2
  | remove {h : QueryHistory} (id : String) : Reachable h → Reachable (h.remove id).2
  | clear {h : QueryHistory} : Reachable h → Reachable h.clear
  | restore {h h' : QueryHistory} : Reachable h → Reachable h' → Reachable (h.restore h'.snapshot)

/-- The invariant of the history: within capacity, one item per search and connection, no
favorites. -/
structure Sound (h : QueryHistory) : Prop where
  bounded : h.items.length ≤ h.capacity
  distinct : h.items.Pairwise fun x y => x.sameSearch y = false
  noFavorites : h.favorites = []

/-- The item that recording a search makes. -/
def recorded (id : String) (q : SearchQuery) (connection : String)
    (executionTime resultCount : Option Nat) (now : Time.Instant) : HistoryItem :=
  { id, query := q, connectionId := connection, timestamp := now, executionTime, resultCount }

section Add

variable (h : QueryHistory) (id : String) (q : SearchQuery) (c : String)
  (t n : Option Nat) (now : Time.Instant)

theorem add_fst : (h.add id q c t n now).1 = recorded id q c t n now := by
  simp only [add]
  split <;> rfl

theorem add_favorites : (h.add id q c t n now).2.favorites = h.favorites := by
  simp only [add]
  split <;> rfl

theorem add_capacity : (h.add id q c t n now).2.capacity = h.capacity := by
  simp only [add]
  split <;> rfl

/-- Recording a search no item records puts the new item in front, within capacity. -/
theorem add_items_of_new (hnew : ∀ x ∈ h.items, x.records c q = false) :
    (h.add id q c t n now).2.items = (recorded id q c t n now :: h.items).take h.capacity := by
  have hnone : h.items.findIdx? (fun x => x.records c q) = none :=
    List.findIdx?_eq_none_iff.2 hnew
  simp only [add]
  rw [show (fun x : HistoryItem => x.connectionId == c && x.query.sameAs q) =
    fun x => x.records c q from rfl, hnone]
  rfl

/-- Recording a search that an item records, when no earlier item records it, replaces that
item where it stands. -/
theorem add_items_of_first (pre post : List HistoryItem) (x : HistoryItem)
    (hitems : h.items = pre ++ x :: post) (hpre : ∀ y ∈ pre, y.records c q = false)
    (hx : x.records c q = true) :
    (h.add id q c t n now).2.items = pre ++ recorded id q c t n now :: post := by
  have hfind : h.items.findIdx? (fun x => x.records c q) = some pre.length := by
    rw [hitems, List.findIdx?_append, List.findIdx?_eq_none_iff.2 hpre, List.findIdx?_cons,
      if_pos hx]
    simp
  simp only [add]
  rw [show (fun x : HistoryItem => x.connectionId == c && x.query.sameAs q) =
    fun x => x.records c q from rfl, hfind]
  simp [hitems, recorded]

end Add

/-! ## One step at a time -/

section Steps

variable {h : QueryHistory}

/-- In a history with one item per search, an item that records a search is the first one. -/
theorem Sound.first_records (hs : h.Sound) {pre post : List HistoryItem} {x : HistoryItem}
    {c : String} {q : SearchQuery} (hitems : h.items = pre ++ x :: post)
    (hx : x.records c q = true) : ∀ y ∈ pre, y.records c q = false := by
  intro y hy
  have hpair := hs.distinct
  rw [hitems, List.pairwise_append] at hpair
  -- `y` comes before `x`, so the two do not record equal searches
  exact HistoryItem.records_false_of_sameSearch_false (hpair.2.2 y hy x List.mem_cons_self) hx

/-- After a search replaces the item that records it, items still record distinct searches. -/
theorem distinct_replace {pre post : List HistoryItem} {x item : HistoryItem} {c : String}
    {q : SearchQuery} (hd : (pre ++ x :: post).Pairwise fun x y => x.sameSearch y = false)
    (hx : x.records c q = true) (hitem : ∀ y : HistoryItem, y.sameSearch item = y.records c q) :
    (pre ++ item :: post).Pairwise fun x y => x.sameSearch y = false := by
  rw [List.pairwise_append, List.pairwise_cons] at hd ⊢
  obtain ⟨hpre, ⟨hxpost, hpost⟩, hcross⟩ := hd
  -- an item equal to the new one would equal `x`, which nothing around it does
  have hnot : ∀ y : HistoryItem, y.sameSearch x = false → y.sameSearch item = false := by
    intro y hyx
    rw [hitem]
    exact HistoryItem.records_false_of_sameSearch_false hyx hx
  refine ⟨hpre, ⟨fun y hy => ?_, hpost⟩, fun y hy z hz => ?_⟩
  · rw [HistoryItem.sameSearch_comm]
    exact hnot y (by rw [HistoryItem.sameSearch_comm]; exact hxpost y hy)
  · rcases List.mem_cons.1 hz with rfl | hz
    · exact hnot y (hcross y hy x List.mem_cons_self)
    · exact hcross y hy z (List.mem_cons_of_mem _ hz)

theorem Sound.add (hs : h.Sound) (id : String) (q : SearchQuery) (c : String)
    (t n : Option Nat) (now : Time.Instant) : (h.add id q c t n now).2.Sound := by
  have hitem : ∀ y : HistoryItem, y.sameSearch (recorded id q c t n now) = y.records c q :=
    fun _ => rfl
  by_cases hnew : ∀ x ∈ h.items, x.records c q = false
  · -- a new search: the list grows in front and is cut to the capacity
    refine ⟨?_, ?_, by rw [add_favorites]; exact hs.noFavorites⟩
    · rw [add_items_of_new h id q c t n now hnew, add_capacity]
      exact List.length_take_le _ _
    · rw [add_items_of_new h id q c t n now hnew]
      refine List.Pairwise.sublist (List.take_sublist _ _) (List.pairwise_cons.2 ⟨?_, hs.distinct⟩)
      intro y hy
      rw [HistoryItem.sameSearch_comm, hitem]
      exact hnew y hy
  · -- a recorded search: its item is replaced in place
    obtain ⟨x, hxmem, hx⟩ : ∃ x ∈ h.items, x.records c q = true := by
      simpa using hnew
    obtain ⟨pre, post, hitems⟩ := List.append_of_mem hxmem
    have hadd := add_items_of_first h id q c t n now pre post x hitems
      (hs.first_records hitems hx) hx
    refine ⟨?_, ?_, by rw [add_favorites]; exact hs.noFavorites⟩
    · have hb := hs.bounded
      rw [hitems] at hb
      rw [hadd, add_capacity]
      simpa using hb
    · rw [hadd]
      exact distinct_replace (hitems ▸ hs.distinct) hx hitem

theorem Sound.remove (hs : h.Sound) (id : String) : (h.remove id).2.Sound :=
  ⟨(List.length_filter_le _ _).trans hs.bounded, hs.distinct.filter _, hs.noFavorites⟩

theorem Sound.clear (hs : h.Sound) : h.clear.Sound :=
  ⟨Nat.zero_le _, List.Pairwise.nil, hs.noFavorites⟩

/-- Restoring a sound history's snapshot gives a sound history, whatever it is restored into. -/
theorem restore_sound (h : QueryHistory) {h' : QueryHistory} (hs' : h'.Sound) :
    (h.restore h'.snapshot).Sound :=
  ⟨List.length_take_le _ _, hs'.distinct.sublist (List.take_sublist _ _), hs'.noFavorites⟩

end Steps

/-- Every history a run reaches is sound. -/
theorem Reachable.sound {h : QueryHistory} (hr : h.Reachable) : h.Sound := by
  induction hr with
  | empty capacity => exact ⟨Nat.zero_le _, List.Pairwise.nil, rfl⟩
  | add id q c t n now _ ih => exact ih.add id q c t n now
  | remove id _ ih => exact ih.remove id
  | clear _ ih => exact ih.clear
  | restore _ _ _ ih' => exact restore_sound _ ih'

/-! ## The laws of a reachable history -/

/-- What a history that a run reaches obeys: its invariant; recording a search answers the new
item, and either replaces the item that records the search where it stands or, for a new search,
puts the item in front and cuts the list to the capacity; and no call changes the favorites. -/
structure Laws (h : QueryHistory) : Prop extends Sound h where
  add_answer : ∀ id q c t n now, (h.add id q c t n now).1 = recorded id q c t n now
  add_replaces : ∀ id q c t n now pre x post, h.items = pre ++ x :: post →
    x.records c q = true → (h.add id q c t n now).2.items = pre ++ recorded id q c t n now :: post
  add_inserts : ∀ id q c t n now, (∀ x ∈ h.items, x.records c q = false) →
    (h.add id q c t n now).2.items =
      if h.capacity = 0 then []
      else if h.items.length < h.capacity then recorded id q c t n now :: h.items
      else recorded id q c t n now :: h.items.dropLast
  add_keeps_favorites : ∀ id q c t n now, (h.add id q c t n now).2.favorites = h.favorites
  remove_keeps_favorites : ∀ id, (h.remove id).2.favorites = h.favorites
  clear_keeps_favorites : h.clear.favorites = h.favorites
  restore_keeps_favorites : ∀ h' : QueryHistory, h'.Reachable →
    (h.restore h'.snapshot).favorites = h.favorites

/-- Every history a run reaches obeys the laws of the history. -/
theorem reachable_laws {h : QueryHistory} (hr : h.Reachable) : h.Laws := by
  have hs := hr.sound
  refine
    { toSound := hs
      add_answer := add_fst h
      add_replaces := fun id q c t n now pre x post hitems hx =>
        add_items_of_first h id q c t n now pre post x hitems (hs.first_records hitems hx) hx
      add_inserts := fun id q c t n now hnew => ?_
      add_keeps_favorites := add_favorites h
      remove_keeps_favorites := fun _ => rfl
      clear_keeps_favorites := rfl
      restore_keeps_favorites := fun h' hr' => ?_ }
  · rw [add_items_of_new h id q c t n now hnew]
    exact take_cons_of_length_le _ hs.bounded
  · -- both favorites lists are empty
    show h'.favorites = h.favorites
    rw [hr'.sound.noFavorites, hs.noFavorites]

/-- A history of capacity one that recorded one search obeys the laws. -/
theorem laws_after_one_search :
    let h := ((empty 1).add "h1" { index := "logs" } "c1" none none ⟨0, 0⟩).2
    h.Reachable ∧ h.Laws :=
  have hr := Reachable.add "h1" { index := "logs" } "c1" none none ⟨0, 0⟩ (Reachable.empty 1)
  ⟨hr, reachable_laws hr⟩

end QueryHistory

end Sift
