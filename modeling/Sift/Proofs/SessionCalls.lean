import Sift.Session.Interleaving
import Sift.Proofs.CacheQueue

/-!
# What each call on a session does

The lemmas here say, once for each operation, everything it does to a session, so that the
theorems about failures, paging and bookkeeping read them and never unfold an operation.

* A search sent to a connection answers what the connection's backend answers
  (`Registry.answer`: the normalized response to the search's body), and logs one request when
  the connection is registered and none otherwise (`Session.send_eq`).
* `Session.execute` is a cache lookup, then on a miss a send, a store and a record
  (`Session.execute_eq`); each of these changes only its own part of the session (`lookup_hit`,
  `lookup_miss`, `recordSearch_frame`).
* A page of the most recent search is a search of its window, and fails before any lookup when
  there is no recent search or the window starts beyond `2^64 - 1` (`Session.goToPage_eq`). A
  preload fetches the page `LastSearch.next?` gives unless the cache holds it
  (`Session.nextPage?_eq`).
* Streams, aggregations and field lookups change nothing but the request log, and fail without a
  request for an unknown connection (`Session.withBackend_frame`).
-/

namespace Sift

open Json Time

variable {β : Type} [SearchBackend β]

/-! ## One search against a backend -/

/-- A search sends exactly its request, and answers the normalized response. -/
theorem execute_run (b : β) (q : SearchQuery) :
    (Sift.execute b q).run =
      ((SearchBackend.search b q.index q.requestBody).map normalize,
        [⟨.search, q.index, q.requestBody⟩]) := by
  unfold Sift.execute sendSearch Exchange.run Exchange.answer
  cases SearchBackend.search b q.index q.requestBody <;> rfl

/-- The request a search sends. -/
def SearchQuery.request (q : SearchQuery) : Request := ⟨.search, q.index, q.requestBody⟩

namespace Registry

/-- What the backend of a connection answers a search: its normalized response. -/
def answer (reg : Registry β) (c : String) (q : SearchQuery) : Except EngineError SearchResult := do
  let b ← reg.get c
  let response ← SearchBackend.search b q.index q.requestBody
  return normalize response

/-- The requests a search on a connection sends: its own, if the connection is registered. -/
def searchRequests (reg : Registry β) (c : String) (q : SearchQuery) : List (String × Request) :=
  match reg.get c with
  | .ok _ => [(c, q.request)]
  | .error _ => []

/-- Searches with the same index and body get the same answer. -/
theorem answer_congr (reg : Registry β) (c : String) {q q' : SearchQuery}
    (hindex : q.index = q'.index) (hbody : q.requestBody = q'.requestBody) :
    reg.answer c q = reg.answer c q' := by
  simp only [answer, hindex, hbody]

/-- What the backend of an unknown connection answers: the connection is unknown. -/
theorem answer_of_get_error {reg : Registry β} {c : String} {e : EngineError}
    (h : reg.get c = .error e) (q : SearchQuery) : reg.answer c q = .error e := by
  simp only [answer, h, bind, Except.bind]

omit [SearchBackend β] in
/-- A search on an unknown connection sends nothing. -/
theorem searchRequests_of_get_error {reg : Registry β} {c : String} {e : EngineError}
    (h : reg.get c = .error e) (q : SearchQuery) : reg.searchRequests c q = [] := by
  simp only [searchRequests, h]

end Registry

/-! ## The cache's counters and entries -/

namespace ResultCache

variable {c : ResultCache} {key : String} {r : SearchResult}

theorem get_of_find?_some (h : c.find? key = some r) :
    c.get key = (some r, { c with hits := c.hits + 1 }) := by
  simp only [get, h]

theorem get_of_find?_none (h : c.find? key = none) :
    c.get key = (none, { c with misses := c.misses + 1 }) := by
  simp only [get, h]

theorem contains_eq_isSome_find? (c : ResultCache) (key : String) :
    c.contains key = (c.find? key).isSome :=
  Std.HashMap.contains_eq_isSome_getElem?

/-- Storing changes the entries and their order, and nothing else. -/
theorem insert_frame (c : ResultCache) (key : String) (r : SearchResult) :
    c.insert key r =
      { c with entries := (c.insert key r).entries, order := (c.insert key r).order } := by
  unfold insert
  split <;> rfl

/-- Eviction only drops results. -/
theorem find?_evict {capacity : Nat} :
    ∀ {m : Std.HashMap String SearchResult} {keys : List String} {k : String} {v : SearchResult},
      (evict capacity m keys).1[k]? = some v → m[k]? = some v
  | m, [], k, v, h => by simpa [evict] using h
  | m, oldest :: rest, k, v, h => by
      unfold evict at h
      split at h
      · have hprev := find?_evict h
        rw [Std.HashMap.getElem?_erase] at hprev
        split at hprev
        · cases hprev
        · exact hprev
      · exact h

/-- A result found after storing is the one stored, or one found before. -/
theorem find?_insert {k : String} {v : SearchResult} (h : (c.insert key r).find? k = some v) :
    (k = key ∧ v = r) ∨ c.find? k = some v := by
  unfold insert find? at h
  -- in both branches the map is the old one with `key` stored, less what eviction drops
  have hstored : (c.entries.insert key r)[k]? = some v := by
    split at h
    · exact h
    · exact find?_evict h
  rw [Std.HashMap.getElem?_insert] at hstored
  split at hstored
  · rename_i hk
    exact .inl ⟨(beq_iff_eq.1 hk).symm, (Option.some.inj hstored).symm⟩
  · exact .inr hstored

end ResultCache

/-! ## The steps of a search -/

namespace Session

variable {s s' : Session β} {c : String} {q : SearchQuery} {u : Bool} {key : String}
  {r : SearchResult}

/-- A search is a lookup, and on a miss a send, a store and a record. -/
theorem execute_eq (s : Session β) (c : String) (q : SearchQuery) (u : Bool) (now : Instant)
    (elapsed : Nat) :
    s.execute c q u now elapsed =
      match s.lookup (q.cacheKey c) u with
      | (hit, s) =>
        match hit with
        | some r => .ok (.ok r, s.remember c q r.total)
        | none =>
          match s.send c q with
          | (.error e, s) => .ok (.error e, s)
          | (.ok r, s) =>
            ((s.store (q.cacheKey c) u r).recordSearch c q r now elapsed).map
              fun s => (.ok r, s) := by
  unfold execute
  rfl

omit [SearchBackend β] in
/-- A lookup that finds its key counts a hit. -/
theorem lookup_hit (hu : u = true) (h : s.cache.find? key = some r) :
    s.lookup key u = (some r, { s with cache := { s.cache with hits := s.cache.hits + 1 } }) := by
  subst hu
  simp only [lookup, if_true, ResultCache.get_of_find?_some h]

omit [SearchBackend β] in
/-- A lookup that skips the cache changes nothing; one that misses counts a miss. -/
theorem lookup_miss (h : u = true → s.cache.find? key = none) :
    s.lookup key u =
      (none, { s with cache := { s.cache with misses := s.cache.misses + u.toNat } }) := by
  cases u with
  | false => rfl
  | true => simp only [lookup, if_true, ResultCache.get_of_find?_none (h rfl), Bool.toNat_true]

/-- A send answers what the backend answers, and logs the search's request when the connection
is registered. -/
theorem send_eq (s : Session β) (c : String) (q : SearchQuery) :
    s.send c q = (s.registry.answer c q,
      { s with sent := s.sent ++ s.registry.searchRequests c q }) := by
  unfold send withBackend Registry.answer Registry.searchRequests
  cases hget : s.registry.get c with
  | error e => simp [bind, Except.bind]
  | ok b =>
      simp only [exchange, execute_run, SearchQuery.request, List.map_cons, List.map_nil, bind,
        Except.bind]
      cases SearchBackend.search b q.index q.requestBody <;> rfl

omit [SearchBackend β] in
@[simp] theorem store_false : s.store key false r = s := rfl

omit [SearchBackend β] in
@[simp] theorem store_true : s.store key true r = { s with cache := s.cache.insert key r } := rfl

omit [SearchBackend β] in
/-- Storing a result changes only the cache. -/
theorem store_frame : s.store key u r = { s with cache := (s.store key u r).cache } := by
  cases u <;> rfl

omit [SearchBackend β] in
/-- Storing a result keeps the counters. -/
theorem store_counters (s : Session β) (key : String) (u : Bool) (r : SearchResult) :
    (s.store key u r).cache.hits = s.cache.hits ∧
      (s.store key u r).cache.misses = s.cache.misses := by
  cases u with
  | false => exact ⟨rfl, rfl⟩
  | true =>
      rw [store_true, ResultCache.insert_frame]
      exact ⟨rfl, rfl⟩

omit [SearchBackend β] in
@[simp] theorem remember_cache : (s.remember c q n).cache = s.cache := rfl

omit [SearchBackend β] in
@[simp] theorem remember_sent : (s.remember c q n).sent = s.sent := rfl

omit [SearchBackend β] in
@[simp] theorem remember_last : (s.remember c q n).last = some ⟨c, q, n⟩ := rfl

omit [SearchBackend β] in
/-- Recording a search changes the analyzer, the history, the count of records and the most
recent search, and nothing else. -/
theorem recordSearch_frame {now : Instant} {elapsed : Nat}
    (h : s.recordSearch c q r now elapsed = .ok s') :
    s' = { s with analyzer := s'.analyzer, history := s'.history, recorded := s.recorded + 1,
                  last := some ⟨c, q, r.total⟩ } := by
  unfold recordSearch at h
  simp only [bind, Except.bind] at h
  split at h
  · cases h
  · simp only [pure, Except.pure, Except.ok.injEq] at h
    subst h
    rfl

omit [SearchBackend β] in
/-- Recording a search hands the analyzer a record of it and adds the search to the history. -/
theorem recordSearch_books {now : Instant} {elapsed : Nat}
    (h : s.recordSearch c q r now elapsed = .ok s') :
    (∃ (record : PerformanceRecord) (analysis : Option QueryAnalysis),
      record.connectionId = c ∧ record.index = q.index ∧ record.query = q.query ∧
      record.executionTime = elapsed ∧ record.resultCount = r.total ∧
      s.analyzer.recordEntry record now = .ok (analysis, s'.analyzer)) ∧
    s'.history = (s.history.add ("h-" ++ toString (s.recorded + 1)) q c (some elapsed)
      (some r.total) now).2 := by
  unfold recordSearch at h
  simp only [bind, Except.bind] at h
  split at h
  · cases h
  · rename_i a hrec
    simp only [pure, Except.pure, Except.ok.injEq] at h
    subst h
    exact ⟨⟨_, a.1, rfl, rfl, rfl, rfl, rfl, hrec⟩, rfl⟩

/-! ## Pages and preloads -/

/-- A page fails at once without a recent search or with an invalid window, and is otherwise a
search of its window through the cache. -/
theorem goToPage_eq (s : Session β) (c : String) (n : Nat) (pageSize : Option Nat)
    (now : Instant) (elapsed : Nat) :
    s.goToPage c n pageSize now elapsed =
      match s.last with
      | none => .ok (.error .noPreviousQuery, s)
      | some last =>
        match last.pageWindow n pageSize with
        | .error e => .ok (.error e, s)
        | .ok q => s.execute c q true now elapsed := by
  unfold goToPage LastSearch.pageWindow
  cases s.last with
  | none => rfl
  | some last =>
      dsimp only
      split <;> rfl

omit [SearchBackend β] in
/-- The page a preload fetches: the next page of the recent search, unless the cache holds it. -/
theorem nextPage?_eq (s : Session β) (c : String) :
    s.nextPage? c = (s.last.bind LastSearch.next?).bind fun q =>
      if s.cache.contains (q.cacheKey c) then none else some q := by
  unfold nextPage? LastSearch.next?
  cases s.last with
  | none => rfl
  | some last =>
      dsimp only [Option.bind]
      split <;> rfl

/-- A preload sends its page and stores the result when the backend answers. -/
theorem preload_eq (s : Session β) (c : String) :
    s.preload c =
      match s.nextPage? c with
      | none => (false, s)
      | some q =>
        match s.send c q with
        | (.ok r, s) => (true, { s with cache := s.cache.insert (q.cacheKey c) r })
        | (.error _, s) => (true, s) := rfl

/-! ## Calls that only talk to the backend -/

omit [SearchBackend β] in
/-- Talking to a backend changes nothing but the request log. -/
theorem withBackend_frame (s : Session β) (c : String) (x : β → Exchange α) :
    ∃ requests, (s.withBackend c x).2 = { s with sent := s.sent ++ requests } := by
  unfold withBackend
  cases s.registry.get c with
  | error e => exact ⟨[], by simp⟩
  | ok b => exact ⟨_, rfl⟩

omit [SearchBackend β] in
/-- An unknown connection fails at once, with nothing sent. -/
theorem withBackend_of_get_error {e : EngineError} {x : β → Exchange α}
    (h : s.registry.get c = .error e) : s.withBackend c x = (.error e, s) := by
  simp only [withBackend, h]

/-- Aggregations that do not compile fail before anything is sent. -/
theorem aggregate_of_compile_error {index : String} {query : Option Json}
    {specs : List AggregationSpec} {size : Option Nat} {e : CompileError} {b : β}
    (hget : s.registry.get c = .ok b) (h : compileAggregations specs = .error e) :
    s.aggregate c index query specs size = (.error (.compile e), s) := by
  have hrun : (executeAggregation b index query specs size).run = (.error (.compile e), []) := by
    unfold executeAggregation Exchange.run
    simp only [h]
    rfl
  simp only [aggregate, withBackend, hget, exchange, hrun, List.map_nil, List.append_nil]

end Session

end Sift
