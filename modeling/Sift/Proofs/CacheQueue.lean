import Sift.Cache.Basic

/-!
# The result cache is a bounded first-in-first-out queue

A cache keeps its results twice over: in a hash map, and as keys in a list that records the
order they were first stored. This module states what the pair means and proves that every run
keeps that meaning.

* `ResultQueue` is the specification: results in one list, oldest first. Storing under a key
  already queued replaces the result in place; storing a new key appends it and drops results
  from the front while the queue is over capacity. Reads and membership tests leave the queue
  as it is, so a read never saves an entry from eviction.
* `ResultCache.Coherent` is the representation invariant: the order lists every key of the map
  once and no other key, and the map holds no more results than the capacity. Under it the map
  has as many results as the order has keys, so eviction never runs out of keys while the map
  is over capacity.
* `ResultCache.toQueue` reads a cache as a queue, and each operation commutes with it
  (`insert_toQueue`, `get_toQueue`, ...). A run of calls from an empty cache thus answers as the
  queue answers, and ends coherent (`run_refines_queue`).
-/

namespace Sift

/-- Results oldest first, with the capacity and the read counters: what a cache means. -/
structure ResultQueue where
  items : List (String × SearchResult)
  capacity : Nat
  hits : Nat
  misses : Nat

namespace ResultQueue

/-- An empty queue. -/
def empty (capacity : Nat) : ResultQueue := { items := [], capacity, hits := 0, misses := 0 }

/-- The result queued under a key. -/
def lookup (q : ResultQueue) (key : String) : Option SearchResult :=
  (q.items.find? (·.1 == key)).map (·.2)

/-- Replaces the result of a queued key in place; otherwise appends the result and drops the
oldest ones beyond the capacity. -/
def insert (q : ResultQueue) (key : String) (r : SearchResult) : ResultQueue :=
  if q.items.any (·.1 == key) then
    { q with items := q.items.map fun e => if e.1 == key then (key, r) else e }
  else
    let items := q.items ++ [(key, r)]
    { q with items := items.drop (items.length - q.capacity) }

/-- Reads the result of a key, counting a hit or a miss; the queue is unchanged. -/
def get (q : ResultQueue) (key : String) : Option SearchResult × ResultQueue :=
  match q.lookup key with
  | some r => (some r, { q with hits := q.hits + 1 })
  | none => (none, { q with misses := q.misses + 1 })

/-- The queue without results; the counters stay. -/
def clear (q : ResultQueue) : ResultQueue := { q with items := [] }

end ResultQueue

/-! ## Runs of calls -/

/-- A call on a cache. -/
inductive CacheCall where
  | insert (key : String) (r : SearchResult)
  | get (key : String)
  | contains (key : String)
  | clear

/-- What a call answers: nothing, the result read, or whether the key is held. -/
inductive CacheReply where
  | done
  | read (r : Option SearchResult)
  | held (b : Bool)

/-- One call on a queue. -/
def ResultQueue.call (q : ResultQueue) : CacheCall → CacheReply × ResultQueue
  | .insert key r => (.done, q.insert key r)
  | .get key => ((q.get key).1 |> .read, (q.get key).2)
  | .contains key => (.held (q.lookup key).isSome, q)
  | .clear => (.done, q.clear)

/-- One call on a cache. -/
def ResultCache.call (c : ResultCache) : CacheCall → CacheReply × ResultCache
  | .insert key r => (.done, c.insert key r)
  | .get key => ((c.get key).1 |> .read, (c.get key).2)
  | .contains key => (.held (c.contains key), c)
  | .clear => (.done, c.clear)

/-- The replies of a run of calls on a queue, and the queue it ends with. -/
def ResultQueue.run (q : ResultQueue) : List CacheCall → List CacheReply × ResultQueue
  | [] => ([], q)
  | x :: xs => ((q.call x).1 :: ((q.call x).2.run xs).1, ((q.call x).2.run xs).2)

/-- The replies of a run of calls on a cache, and the cache it ends with. -/
def ResultCache.run (c : ResultCache) : List CacheCall → List CacheReply × ResultCache
  | [] => ([], c)
  | x :: xs => ((c.call x).1 :: ((c.call x).2.run xs).1, ((c.call x).2.run xs).2)

/-! ## Reading a cache as a queue -/

/-- The results of a list of keys, in its order, skipping keys without one. -/
def resultsOf (m : Std.HashMap String SearchResult) (keys : List String) :
    List (String × SearchResult) :=
  keys.filterMap fun k => m[k]?.map (k, ·)

/-- The order lists each key of the map once, and no other key. -/
def Lockstep (m : Std.HashMap String SearchResult) (keys : List String) : Prop :=
  keys.Nodup ∧ ∀ k, k ∈ m ↔ k ∈ keys

namespace ResultCache

/-- The queue a cache stands for: the results of its keys in insertion order. -/
def toQueue (c : ResultCache) : ResultQueue :=
  { items := resultsOf c.entries c.order, capacity := c.capacity, hits := c.hits,
    misses := c.misses }

/-- The representation invariant: map and order in lock step, within the capacity. -/
structure Coherent (c : ResultCache) : Prop where
  nodup : c.order.Nodup
  mem_iff : ∀ k, k ∈ c.entries ↔ k ∈ c.order
  size_le : c.entries.size ≤ c.capacity

theorem Coherent.lockstep {c : ResultCache} (h : c.Coherent) : Lockstep c.entries c.order :=
  ⟨h.nodup, h.mem_iff⟩

end ResultCache

/-! ## The results of a list of keys -/

section ResultsOf

variable {m m' : Std.HashMap String SearchResult} {keys : List String} {k x : String}
  {r v : SearchResult}

theorem resultsOf_cons_some (hv : m[x]? = some v) :
    resultsOf m (x :: keys) = (x, v) :: resultsOf m keys := by
  simp [resultsOf, hv]

theorem resultsOf_cons_none (hv : m[x]? = none) : resultsOf m (x :: keys) = resultsOf m keys := by
  simp [resultsOf, hv]

theorem exists_getElem?_of_mem (hx : x ∈ m) : ∃ v, m[x]? = some v :=
  Option.isSome_iff_exists.1 (Std.HashMap.mem_iff_isSome_getElem?.1 hx)

theorem resultsOf_congr (h : ∀ y ∈ keys, m[y]? = m'[y]?) :
    resultsOf m keys = resultsOf m' keys := by
  induction keys with
  | nil => rfl
  | cons x rest ih =>
      have hrest := ih fun y hy => h y (by simp [hy])
      cases hv : m[x]? with
      | none => rw [resultsOf_cons_none hv, resultsOf_cons_none ((h x (by simp)).symm.trans hv), hrest]
      | some v => rw [resultsOf_cons_some hv, resultsOf_cons_some ((h x (by simp)).symm.trans hv), hrest]

/-- Looking a key up among the results of a list of keys finds its result, provided the key is
listed. -/
theorem lookup_resultsOf :
    ((resultsOf m keys).find? (·.1 == k)).map (·.2) = if k ∈ keys then m[k]? else none := by
  induction keys with
  | nil => simp [resultsOf]
  | cons x rest ih =>
      by_cases hx : x = k
      · subst hx
        cases hv : m[x]? with
        | none =>
            rw [resultsOf_cons_none hv, ih]
            simp [hv]
        | some v =>
            rw [resultsOf_cons_some hv, List.find?_cons]
            simp
      · cases hv : m[x]? with
        | none =>
            rw [resultsOf_cons_none hv, ih]
            simp [Ne.symm hx]
        | some v =>
            have hb : (x == k) = false := beq_eq_false_iff_ne.2 hx
            rw [resultsOf_cons_some hv, List.find?_cons]
            simp only [hb]
            rw [ih]
            simp [Ne.symm hx]

theorem length_resultsOf (h : ∀ y ∈ keys, y ∈ m) : (resultsOf m keys).length = keys.length := by
  induction keys with
  | nil => rfl
  | cons x rest ih =>
      obtain ⟨v, hv⟩ := exists_getElem?_of_mem (h x (by simp))
      rw [resultsOf_cons_some hv, List.length_cons, List.length_cons,
        ih fun y hy => h y (by simp [hy])]

/-- Storing over a held key replaces its result where it stands. -/
theorem resultsOf_insert_of_mem (hk : k ∈ m) :
    resultsOf (m.insert k r) keys =
      (resultsOf m keys).map fun e => if e.1 == k then (k, r) else e := by
  induction keys with
  | nil => rfl
  | cons x rest ih =>
      by_cases hx : x = k
      · subst hx
        obtain ⟨v, hv⟩ := exists_getElem?_of_mem hk
        rw [resultsOf_cons_some Std.HashMap.getElem?_insert_self, resultsOf_cons_some hv,
          List.map_cons, ih]
        simp
      · have hsame : (m.insert k r)[x]? = m[x]? := by
          simp [Std.HashMap.getElem?_insert, Ne.symm hx]
        cases hv : m[x]? with
        | none => rw [resultsOf_cons_none (hsame.trans hv), resultsOf_cons_none hv, ih]
        | some v =>
            rw [resultsOf_cons_some (hsame.trans hv), resultsOf_cons_some hv, List.map_cons, ih]
            simp [hx]

/-- Storing a key not listed yet, and listing it last, puts its result last. -/
theorem resultsOf_insert_append (hk : k ∉ keys) :
    resultsOf (m.insert k r) (keys ++ [k]) = resultsOf m keys ++ [(k, r)] := by
  have hsame : ∀ y ∈ keys, (m.insert k r)[y]? = m[y]? := by
    intro y hy
    have hne : k ≠ y := fun h => hk (h ▸ hy)
    simp [Std.HashMap.getElem?_insert, hne]
  rw [resultsOf, List.filterMap_append, ← resultsOf, resultsOf_congr hsame]
  simp [resultsOf]

end ResultsOf

/-! ## Map and order in lock step -/

namespace Lockstep

variable {m : Std.HashMap String SearchResult} {keys : List String} {k : String}
  {r : SearchResult}

/-- In lock step, the map holds as many results as the order has keys. -/
theorem size_eq (h : Lockstep m keys) : m.size = keys.length := by
  have hperm : m.keys.Perm keys :=
    (List.perm_ext_iff_of_nodup Std.HashMap.nodup_keys h.1).2 fun x => by
      rw [Std.HashMap.mem_keys, h.2]
  rw [← Std.HashMap.length_keys, hperm.length_eq]

theorem mem_of_mem (h : Lockstep m keys) : ∀ x ∈ keys, x ∈ m := fun x hx => (h.2 x).2 hx

/-- Popping the oldest key and dropping its result keeps the lock step. -/
theorem erase_head (h : Lockstep m (k :: keys)) : Lockstep (m.erase k) keys := by
  obtain ⟨hnodup, hmem⟩ := h
  rw [List.nodup_cons] at hnodup
  refine ⟨hnodup.2, fun x => ?_⟩
  rw [Std.HashMap.mem_erase, hmem, List.mem_cons, beq_eq_false_iff_ne]
  constructor
  · rintro ⟨hne, rfl | hx⟩
    · exact absurd rfl hne
    · exact hx
  · intro hx
    exact ⟨fun heq => hnodup.1 (heq ▸ hx), Or.inr hx⟩

/-- Dropping the oldest result leaves the results of the other keys as they were. -/
theorem resultsOf_erase_head (h : Lockstep m (k :: keys)) :
    resultsOf (m.erase k) keys = resultsOf m keys := by
  apply resultsOf_congr
  intro x hx
  -- the keys are distinct, so no later key is the one dropped
  have hne : k ≠ x := fun heq => (List.nodup_cons.1 h.1).1 (heq ▸ hx)
  simp [Std.HashMap.getElem?_erase, hne]

/-- Storing a new key and listing it last keeps the lock step. -/
theorem insert_new (h : Lockstep m keys) (hk : k ∉ m) : Lockstep (m.insert k r) (keys ++ [k]) := by
  obtain ⟨hnodup, hmem⟩ := h
  have hkeys : k ∉ keys := fun hx => hk ((hmem k).2 hx)
  refine ⟨List.nodup_append.2 ⟨hnodup, by simp, ?_⟩, fun x => ?_⟩
  · intro a ha b hb
    rw [List.mem_singleton] at hb
    subst hb
    exact fun heq => hkeys (heq ▸ ha)
  · rw [Std.HashMap.mem_insert, hmem, List.mem_append, List.mem_singleton, beq_iff_eq]
    constructor
    · rintro (rfl | hx)
      · exact Or.inr rfl
      · exact Or.inl hx
    · rintro (hx | rfl)
      · exact Or.inr hx
      · exact Or.inl rfl

/-- Replacing the result of a held key keeps the lock step. -/
theorem insert_mem (h : Lockstep m keys) (hk : k ∈ m) : Lockstep (m.insert k r) keys := by
  refine ⟨h.1, fun x => ?_⟩
  rw [Std.HashMap.mem_insert, beq_iff_eq, ← h.2]
  constructor
  · rintro (rfl | hx)
    · exact hk
    · exact hx
  · exact Or.inr

end Lockstep

/-! ## Eviction -/

/-- The eviction loop, started with map and order in lock step, stays in lock step, drops
exactly the oldest results beyond the capacity, and ends within the capacity. In particular it
never stops early for want of keys while the map is over capacity. -/
theorem evict_spec (capacity : Nat) :
    ∀ (keys : List String) (m : Std.HashMap String SearchResult), Lockstep m keys →
      Lockstep (ResultCache.evict capacity m keys).1 (ResultCache.evict capacity m keys).2 ∧
      resultsOf (ResultCache.evict capacity m keys).1 (ResultCache.evict capacity m keys).2 =
        (resultsOf m keys).drop (keys.length - capacity) ∧
      (ResultCache.evict capacity m keys).2.length ≤ capacity
  | [], m, h => by
      simp only [ResultCache.evict]
      exact ⟨h, by simp [resultsOf], Nat.zero_le _⟩
  | k :: keys, m, h => by
      have hsize := h.size_eq
      simp only [List.length_cons] at hsize
      by_cases hover : capacity < m.size
      · -- over capacity: the oldest key goes, and the loop goes on with the rest
        obtain ⟨hstep, hres, hlen⟩ := evict_spec capacity keys (m.erase k) h.erase_head
        obtain ⟨v, hv⟩ := exists_getElem?_of_mem (h.mem_of_mem k (by simp))
        have hdrop : (k :: keys).length - capacity = (keys.length - capacity) + 1 := by
          simp only [List.length_cons]
          omega
        simp only [ResultCache.evict, hover, if_true]
        refine ⟨hstep, ?_, hlen⟩
        rw [hres, h.resultsOf_erase_head, hdrop, resultsOf_cons_some hv, List.drop_succ_cons]
      · -- within capacity: nothing is dropped
        have hdrop : (k :: keys).length - capacity = 0 := by
          simp only [List.length_cons]
          omega
        simp only [ResultCache.evict, hover, if_false]
        refine ⟨h, by rw [hdrop, List.drop_zero], ?_⟩
        simp only [List.length_cons]
        omega

/-! ## One square per operation -/

namespace ResultCache

/-- A cache refines a queue when it is coherent and stands for that queue. -/
def Refines (c : ResultCache) (q : ResultQueue) : Prop := c.Coherent ∧ c.toQueue = q

variable {c : ResultCache}

/-- Reading a coherent cache reads the queue it stands for. -/
theorem Coherent.lookup_toQueue (h : c.Coherent) (key : String) :
    c.toQueue.lookup key = c.find? key := by
  simp only [ResultQueue.lookup, toQueue, lookup_resultsOf, find?]
  split
  · rfl
  · rename_i hk
    exact (Std.HashMap.getElem?_eq_none fun hm => hk ((h.mem_iff key).1 hm)).symm

/-- A coherent cache holds a key exactly when its queue has it. -/
theorem Coherent.any_toQueue (h : c.Coherent) (key : String) :
    c.toQueue.items.any (·.1 == key) = c.entries.contains key := by
  have hsome : (c.toQueue.items.find? (·.1 == key)).isSome = (c.find? key).isSome := by
    rw [← h.lookup_toQueue key, ResultQueue.lookup, Option.isSome_map]
  rw [Std.HashMap.contains_eq_isSome_getElem?, ← find?, ← hsome, Bool.eq_iff_iff,
    List.any_eq_true, List.find?_isSome]

theorem empty_refines (capacity : Nat) :
    Refines (ResultCache.empty capacity) (ResultQueue.empty capacity) := by
  refine ⟨⟨List.nodup_nil, fun k => ?_, ?_⟩, rfl⟩
  · simp [ResultCache.empty, Std.HashMap.not_mem_emptyWithCapacity]
  · simp [ResultCache.empty]

theorem clear_refines (c : ResultCache) : Refines c.clear c.toQueue.clear := by
  refine ⟨⟨List.nodup_nil, fun k => ?_, ?_⟩, rfl⟩
  · simp [clear, Std.HashMap.not_mem_empty]
  · simp [clear]

/-- A read answers what the queue answers, and changes the queue in no way but its counters. -/
theorem get_refines (h : c.Coherent) (key : String) :
    (c.get key).1 = (c.toQueue.get key).1 ∧ Refines (c.get key).2 (c.toQueue.get key).2 := by
  unfold get ResultQueue.get
  rw [h.lookup_toQueue key]
  cases c.find? key with
  | none => exact ⟨rfl, ⟨h.nodup, h.mem_iff, h.size_le⟩, rfl⟩
  | some v => exact ⟨rfl, ⟨h.nodup, h.mem_iff, h.size_le⟩, rfl⟩

/-- Storing in a coherent cache stores in the queue it stands for, and keeps it coherent. -/
theorem insert_refines (h : c.Coherent) (key : String) (r : SearchResult) :
    Refines (c.insert key r) (c.toQueue.insert key r) := by
  unfold insert ResultQueue.insert
  rw [h.any_toQueue key]
  by_cases hk : c.entries.contains key
  · -- a held key: its result is replaced where it stands
    have hmem : key ∈ c.entries := Std.HashMap.contains_iff_mem.1 hk
    simp only [hk, if_true]
    refine ⟨⟨h.nodup, (h.lockstep.insert_mem hmem).2, ?_⟩, ?_⟩
    · simp only [Std.HashMap.size_insert, hmem, if_true]
      exact h.size_le
    · simp only [toQueue, resultsOf_insert_of_mem hmem]
  · -- a new key: appended, then the oldest results beyond the capacity are evicted
    have hmem : key ∉ c.entries := fun hm => hk (Std.HashMap.contains_iff_mem.2 hm)
    have hstep := h.lockstep.insert_new hmem (r := r)
    have hkeys : key ∉ c.order := fun ho => hmem ((h.mem_iff key).2 ho)
    have hlength : (c.order ++ [key]).length = (c.toQueue.items ++ [(key, r)]).length := by
      simp [toQueue, length_resultsOf h.lockstep.mem_of_mem]
    obtain ⟨hlock, hres, hlen⟩ := evict_spec c.capacity _ _ hstep
    simp only [Bool.not_eq_true] at hk
    simp only [hk, Bool.false_eq_true, if_false]
    refine ⟨⟨hlock.1, hlock.2, ?_⟩, ?_⟩
    · rw [hlock.size_eq]
      exact hlen
    · simp only [toQueue, ResultQueue.mk.injEq, and_true]
      rw [hres, resultsOf_insert_append hkeys, hlength]
      rfl

/-- A membership test answers what the queue answers. -/
theorem Coherent.contains_eq (h : c.Coherent) (key : String) :
    c.contains key = (c.toQueue.lookup key).isSome := by
  rw [h.lookup_toQueue key, contains, Std.HashMap.contains_eq_isSome_getElem?, find?]

/-- One call on a coherent cache answers as the queue answers and keeps refining it. -/
theorem call_refines (h : c.Coherent) (x : CacheCall) :
    (c.call x).1 = (c.toQueue.call x).1 ∧ Refines (c.call x).2 (c.toQueue.call x).2 := by
  cases x with
  | insert key r => exact ⟨rfl, insert_refines h key r⟩
  | get key =>
      obtain ⟨hread, hnext⟩ := get_refines h key
      exact ⟨congrArg CacheReply.read hread, hnext⟩
  | contains key => exact ⟨congrArg CacheReply.held (h.contains_eq key), h, rfl⟩
  | clear => exact ⟨rfl, clear_refines c⟩

/-- A run of calls on a cache refining a queue answers as the queue answers, call by call, and
ends refining where the queue ends. -/
theorem run_refines {q : ResultQueue} (h : Refines c q) (xs : List CacheCall) :
    (c.run xs).1 = (q.run xs).1 ∧ Refines (c.run xs).2 (q.run xs).2 := by
  induction xs generalizing c q with
  | nil => exact ⟨rfl, h⟩
  | cons x xs ih =>
      obtain ⟨hcoh, rfl⟩ := h
      obtain ⟨hreply, hnext⟩ := call_refines hcoh x
      obtain ⟨hrest, hend⟩ := ih hnext
      exact ⟨by simp only [run, ResultQueue.run, hreply, hrest], hend⟩

/-- The result cache refines a bounded first-in-first-out queue. From an empty cache of any
capacity, after any run of inserts, reads, membership tests and clears, the cache is coherent
(its order lists each key of its map once and no other, and it holds no more than its capacity),
it stands for the queue that the same run builds, and every call answered as the queue
answers. -/
theorem run_refines_queue (capacity : Nat) (calls : List CacheCall) :
    ((ResultCache.empty capacity).run calls).2.Coherent ∧
    ((ResultCache.empty capacity).run calls).2.toQueue =
      ((ResultQueue.empty capacity).run calls).2 ∧
    ((ResultCache.empty capacity).run calls).1 = ((ResultQueue.empty capacity).run calls).1 := by
  obtain ⟨hreplies, hcoh, hqueue⟩ := run_refines (empty_refines capacity) calls
  exact ⟨hcoh, hqueue, hreplies⟩

end ResultCache

end Sift
