import Sift.Proofs.FailedCalls

/-!
# What a session sends and records

A session keeps books: the requests it sends, the cache's hit and miss counters, the records of
the analyzer, the history, and the most recent search. This module says what every call does to
them.

* A search on a registered connection sends one request exactly when it does not find its key in
  the cache (it skips the cache, or the key is absent), and nothing otherwise; a lookup counts a
  hit or a miss. Only a search that reached the backend and succeeded hands a record to the
  analyzer and an item to the history; every successful search, served from the cache or not,
  becomes the most recent one (`Session.execute_books`).
* Preloads, streams, aggregations and field lookups leave the counters, the analyzer, the history
  and the most recent search alone (`Session.SameBooks`); a reset empties the cache and forgets
  the most recent search, and keeps the rest.
* Over a run of calls, the counters count exactly the lookups the calls made, found and not
  found (`Session.run_counters`), where a call's lookup is read off the session it starts from
  (`SessionCall.lookupFound?`).

The main statement is `Session.session_books`.
-/

namespace Sift

open Json Time

variable {β : Type} [SearchBackend β]

/-! ## The lookup a call makes -/

namespace SessionCall

/-- The search a call makes through the session's front door, from a session: its connection,
the search, and whether it may use the cache. A page has one when there is a recent search and
its window is valid. -/
def search? (s : Session β) : SessionCall → Option (String × SearchQuery × Bool)
  | .execute c q useCache => some (c, q, useCache)
  | .executeBuilder c b useCache => some (c, b.toQuery, useCache)
  | .goToPage c n pageSize =>
    match s.last with
    | none => none
    | some last =>
      match last.pageWindow n pageSize with
      | .ok q => some (c, q, true)
      | .error _ => none
  | _ => none

/-- The cache lookup a call makes from a session, if it makes one: whether it finds its key. -/
def lookupFound? (s : Session β) (x : SessionCall) : Option Bool :=
  match x.search? s with
  | some (c, q, true) => some (s.cache.contains (q.cacheKey c))
  | _ => none

end SessionCall

namespace Session

/-- The cache lookups a run of calls makes, in order, with whether each found its key. -/
def lookups (s : Session β) : List TimedCall → List Bool
  | [] => []
  | x :: xs => (x.call.lookupFound? s).toList ++
      match s.call x.now x.elapsed x.call with
      | .ok (_, s') => s'.lookups xs
      | .error _ => []

/-- Two sessions with the same counters, analyzer, history, records and most recent search. -/
structure SameBooks (s s' : Session β) : Prop where
  hits : s'.cache.hits = s.cache.hits
  misses : s'.cache.misses = s.cache.misses
  analyzer : s'.analyzer = s.analyzer
  history : s'.history = s.history
  recorded : s'.recorded = s.recorded
  last : s'.last = s.last

variable {s s' : Session β} {c : String} {q : SearchQuery} {u : Bool} {r : SearchResult}
  {now : Instant} {elapsed : Nat}

omit [SearchBackend β] in
theorem SameBooks.of_sent (requests : List (String × Request)) :
    SameBooks s { s with sent := s.sent ++ requests } :=
  ⟨rfl, rfl, rfl, rfl, rfl, rfl⟩

omit [SearchBackend β] in
theorem SameBooks.of_insert (key : String) (r : SearchResult) :
    SameBooks s { s with cache := s.cache.insert key r } := by
  rw [ResultCache.insert_frame]
  exact ⟨rfl, rfl, rfl, rfl, rfl, rfl⟩

omit [SearchBackend β] in
theorem SameBooks.trans {s₁ s₂ s₃ : Session β} (h₁ : SameBooks s₁ s₂) (h₂ : SameBooks s₂ s₃) :
    SameBooks s₁ s₃ :=
  ⟨h₂.hits.trans h₁.hits, h₂.misses.trans h₁.misses, h₂.analyzer.trans h₁.analyzer,
    h₂.history.trans h₁.history, h₂.recorded.trans h₁.recorded, h₂.last.trans h₁.last⟩

/-! ## One search -/

/-- A search whose key the cache holds is served from it, counting a hit. -/
theorem execute_of_find?_some (hu : u = true) (hr : s.cache.find? (q.cacheKey c) = some r) :
    s.execute c q u now elapsed =
      .ok (.ok r, ({ s with cache := { s.cache with hits := s.cache.hits + 1 } } :
        Session β).remember c q r.total) := by
  rw [execute_eq, lookup_hit hu hr]

/-- A search sent to a backend that answers: the result, the request logged, a miss counted if
the cache was looked in, and the search recorded and remembered. -/
theorem execute_answered (hmiss : u = true → s.cache.find? (q.cacheKey c) = none)
    (hans : s.registry.answer c q = .ok r) (h : s.execute c q u now elapsed = .ok (res, s')) :
    res = .ok r ∧ s'.sent = s.sent ++ s.registry.searchRequests c q ∧
      s'.cache.hits = s.cache.hits ∧ s'.cache.misses = s.cache.misses + u.toNat ∧
      s'.last = some ⟨c, q, r.total⟩ ∧ s'.recorded = s.recorded + 1 ∧
      (∃ (record : PerformanceRecord) (analysis : Option QueryAnalysis),
        record.connectionId = c ∧ record.index = q.index ∧ record.query = q.query ∧
        record.executionTime = elapsed ∧ record.resultCount = r.total ∧
        s.analyzer.recordEntry record now = .ok (analysis, s'.analyzer)) ∧
      s'.history = (s.history.add ("h-" ++ toString (s.recorded + 1)) q c (some elapsed)
        (some r.total) now).2 := by
  rw [execute_eq, lookup_miss hmiss] at h
  dsimp only at h
  rw [send_eq, hans] at h
  dsimp only at h
  -- the store touches only the cache; the record either faults or gives `s'`
  rw [store_frame] at h
  simp only [Except.map] at h
  split at h
  · cases h
  · rename_i s₂ hrec
    obtain ⟨rfl, rfl⟩ := Prod.mk.inj (Except.ok.inj h)
    obtain ⟨hanalyzer, hhistory⟩ := recordSearch_books hrec
    obtain ⟨hhits, hmisses⟩ := store_counters
      ({ s with cache := { s.cache with misses := s.cache.misses + u.toNat },
                sent := s.sent ++ s.registry.searchRequests c q } : Session β) (q.cacheKey c) u r
    rw [recordSearch_frame hrec]
    exact ⟨rfl, rfl, hhits, hmisses, rfl, rfl, hanalyzer, hhistory⟩

/-- A search that does not find its key keeps the hits, and counts a miss if it looked. -/
theorem execute_miss_counters (hmiss : u = true → s.cache.find? (q.cacheKey c) = none)
    (h : s.execute c q u now elapsed = .ok (res, s')) :
    s'.cache.hits = s.cache.hits ∧ s'.cache.misses = s.cache.misses + u.toNat := by
  cases hans : s.registry.answer c q with
  | error e =>
      rw [execute_of_answer_error hmiss hans] at h
      obtain ⟨-, rfl⟩ := Prod.mk.inj (Except.ok.inj h)
      exact ⟨rfl, rfl⟩
  | ok r =>
      obtain ⟨-, -, hhits, hmisses, -⟩ := execute_answered hmiss hans h
      exact ⟨hhits, hmisses⟩

omit [SearchBackend β] in
/-- A lookup that does not find its key: the cache does not hold it, or the search skips it. -/
theorem find?_none_of_not_found (hfound : (u && s.cache.contains (q.cacheKey c)) = false) :
    u = true → s.cache.find? (q.cacheKey c) = none := by
  intro hu
  rw [hu, Bool.true_and, ResultCache.contains_eq_isSome_find?] at hfound
  exact Option.not_isSome_iff_eq_none.1 (by simp [hfound])

omit [SearchBackend β] in
/-- A lookup that finds its key finds its result. -/
theorem exists_find?_of_found (hfound : (u && s.cache.contains (q.cacheKey c)) = true) :
    u = true ∧ ∃ r, s.cache.find? (q.cacheKey c) = some r := by
  obtain ⟨hu, hheld⟩ := Bool.and_eq_true_iff.1 hfound
  rw [ResultCache.contains_eq_isSome_find?] at hheld
  exact ⟨hu, Option.isSome_iff_exists.1 hheld⟩

/-- The counters after a search: a hit when it finds its key, a miss when it looks and does
not. -/
theorem execute_counters (h : s.execute c q u now elapsed = .ok (res, s')) :
    s'.cache.hits = s.cache.hits + (u && s.cache.contains (q.cacheKey c)).toNat ∧
    s'.cache.misses = s.cache.misses + (u && !s.cache.contains (q.cacheKey c)).toNat := by
  cases hfound : (u && s.cache.contains (q.cacheKey c)) with
  | true =>
      obtain ⟨rfl, r, hr⟩ := exists_find?_of_found hfound
      rw [execute_of_find?_some rfl hr] at h
      obtain ⟨-, rfl⟩ := Prod.mk.inj (Except.ok.inj h)
      have hheld : s.cache.contains (q.cacheKey c) = true := by
        rw [ResultCache.contains_eq_isSome_find?, hr]
        rfl
      rw [hheld]
      exact ⟨rfl, rfl⟩
  | false =>
      obtain ⟨hhits, hmisses⟩ := execute_miss_counters (find?_none_of_not_found hfound) h
      refine ⟨hhits, ?_⟩
      rw [hmisses]
      -- a search that looked and did not find its key found it absent
      cases u with
      | false => rfl
      | true =>
          simp only [Bool.true_and] at hfound
          rw [hfound]
          rfl

/-- What a search on a registered connection does to the books. It sends its request exactly
when it does not find its key; it counts a hit or a miss when it looks in the cache; a success
becomes the most recent search, and is recorded in the analyzer and the history exactly when it
was sent; a failure records nothing and keeps the most recent search. -/
theorem execute_books {b : β} (hget : s.registry.get c = .ok b)
    (h : s.execute c q u now elapsed = .ok (res, s')) :
    s'.sent = s.sent ++ (if u && s.cache.contains (q.cacheKey c) then [] else [(c, q.request)]) ∧
    s'.cache.hits = s.cache.hits + (u && s.cache.contains (q.cacheKey c)).toNat ∧
    s'.cache.misses = s.cache.misses + (u && !s.cache.contains (q.cacheKey c)).toNat ∧
    (∀ r, res = .ok r → s'.last = some ⟨c, q, r.total⟩ ∧
      if u && s.cache.contains (q.cacheKey c) then
        s'.analyzer = s.analyzer ∧ s'.history = s.history ∧ s'.recorded = s.recorded
      else
        s'.recorded = s.recorded + 1 ∧
        (∃ (record : PerformanceRecord) (analysis : Option QueryAnalysis),
          record.connectionId = c ∧ record.index = q.index ∧ record.query = q.query ∧
          record.executionTime = elapsed ∧ record.resultCount = r.total ∧
          s.analyzer.recordEntry record now = .ok (analysis, s'.analyzer)) ∧
        s'.history = (s.history.add ("h-" ++ toString (s.recorded + 1)) q c (some elapsed)
          (some r.total) now).2) ∧
    (∀ e, res = .error e → s'.analyzer = s.analyzer ∧ s'.history = s.history ∧
      s'.recorded = s.recorded ∧ s'.last = s.last) := by
  obtain ⟨hhits, hmisses⟩ := execute_counters h
  have hreq : s.registry.searchRequests c q = [(c, q.request)] := by
    simp only [Registry.searchRequests, hget]
  cases hfound : (u && s.cache.contains (q.cacheKey c)) with
  | true =>
      -- served from the cache: nothing sent, nothing recorded
      rw [hfound] at hhits
      obtain ⟨rfl, r, hr⟩ := exists_find?_of_found hfound
      rw [execute_of_find?_some rfl hr] at h
      obtain ⟨rfl, rfl⟩ := Prod.mk.inj (Except.ok.inj h)
      rw [if_pos rfl, List.append_nil]
      refine ⟨rfl, hhits, hmisses, fun r' hr' => ?_, fun e he => by cases he⟩
      cases hr'
      rw [if_pos rfl]
      exact ⟨rfl, rfl, rfl, rfl⟩
  | false =>
      -- sent to the backend
      rw [hfound] at hhits
      have hmiss := find?_none_of_not_found hfound
      rw [if_neg Bool.false_ne_true]
      cases hans : s.registry.answer c q with
      | error e =>
          rw [execute_of_answer_error hmiss hans] at h
          obtain ⟨rfl, rfl⟩ := Prod.mk.inj (Except.ok.inj h)
          rw [← hreq]
          exact ⟨rfl, hhits, hmisses, fun r hr => (by cases hr), fun _ _ => ⟨rfl, rfl, rfl, rfl⟩⟩
      | ok r =>
          obtain ⟨rfl, hsent, -, -, hlast, hrecorded, hanalyzer, hhistory⟩ :=
            execute_answered hmiss hans h
          rw [hsent, hreq]
          refine ⟨rfl, hhits, hmisses, fun r' hr' => ?_, fun e he => by cases he⟩
          cases hr'
          rw [if_neg Bool.false_ne_true]
          exact ⟨hlast, hrecorded, hanalyzer, hhistory⟩

/-! ## Every call -/

omit [SearchBackend β] in
/-- The lookup of a search: whether it finds its key, if it looks. -/
theorem count_lookupFound?_execute :
    ((SessionCall.execute c q u).lookupFound? s).toList.count true =
        (u && s.cache.contains (q.cacheKey c)).toNat ∧
      ((SessionCall.execute c q u).lookupFound? s).toList.count false =
        (u && !s.cache.contains (q.cacheKey c)).toNat := by
  cases u with
  | false => exact ⟨rfl, rfl⟩
  | true =>
      show [s.cache.contains (q.cacheKey c)].count true = _ ∧
        [s.cache.contains (q.cacheKey c)].count false = _
      cases s.cache.contains (q.cacheKey c) <;> exact ⟨rfl, rfl⟩

/-- A page with a search is the cached search of its window, on its own connection. -/
theorem goToPage_of_search?_some (now : Instant) (elapsed : Nat) {n : Nat}
    {pageSize : Option Nat} {c' : String}
    (hx : (SessionCall.goToPage c n pageSize).search? s = some (c', q, u)) :
    c' = c ∧ u = true ∧ s.goToPage c n pageSize now elapsed = s.execute c q true now elapsed := by
  simp only [SessionCall.search?] at hx
  rw [goToPage_eq]
  cases hlast : s.last with
  | none =>
      rw [hlast] at hx
      cases hx
  | some last =>
      rw [hlast] at hx
      dsimp only at hx ⊢
      cases hwin : last.pageWindow n pageSize with
      | error e =>
          rw [hwin] at hx
          cases hx
      | ok w =>
          rw [hwin] at hx
          cases hx
          exact ⟨rfl, rfl, rfl⟩

/-- A call that makes a search through the front door is that search. -/
theorem call_of_search?_some {x : SessionCall} (hx : x.search? s = some (c, q, u)) :
    s.call now elapsed x = (s.execute c q u now elapsed).map fun (r, s) => (.searched r, s) := by
  cases x with
  | execute c' q' u' =>
      cases hx
      rfl
  | executeBuilder c' b u' =>
      cases hx
      rfl
  | goToPage c' n pageSize =>
      obtain ⟨rfl, rfl, hpage⟩ := goToPage_of_search?_some now elapsed hx
      simp only [call, hpage]
  | preload => cases hx
  | stream => cases hx
  | aggregate => cases hx
  | fields => cases hx
  | reset => cases hx

/-- A page without a search fails at once and changes nothing. -/
theorem goToPage_of_search?_none {n : Nat} {pageSize : Option Nat}
    (hx : (SessionCall.goToPage c n pageSize).search? s = none) :
    ∃ e, s.goToPage c n pageSize now elapsed = .ok (.error e, s) := by
  simp only [SessionCall.search?] at hx
  rw [goToPage_eq]
  cases hlast : s.last with
  | none => exact ⟨_, rfl⟩
  | some last =>
      rw [hlast] at hx
      dsimp only at hx ⊢
      cases hwin : last.pageWindow n pageSize with
      | error e => exact ⟨e, rfl⟩
      | ok w =>
          rw [hwin] at hx
          cases hx

/-- A preload keeps the books: it only logs a request and stores a page. -/
theorem preload_sameBooks (s : Session β) (c : String) : SameBooks s (s.preload c).2 := by
  rw [preload_eq]
  cases s.nextPage? c with
  | none => exact ⟨rfl, rfl, rfl, rfl, rfl, rfl⟩
  | some q =>
      simp only [send_eq]
      cases s.registry.answer c q with
      | ok r => exact (SameBooks.of_sent _).trans (SameBooks.of_insert _ _)
      | error e => exact SameBooks.of_sent _

omit [SearchBackend β] in
/-- Talking to a backend directly keeps the books. -/
theorem withBackend_sameBooks (s : Session β) (c : String) (x : β → Exchange α) :
    SameBooks s (s.withBackend c x).2 := by
  obtain ⟨requests, h⟩ := withBackend_frame s c x
  rw [h]
  exact SameBooks.of_sent requests

/-- The counters after any call move by the lookup the call made, if it made one. -/
theorem call_counters {x : SessionCall} {reply : SessionReply}
    (h : s.call now elapsed x = .ok (reply, s')) :
    s'.cache.hits = s.cache.hits + (x.lookupFound? s).toList.count true ∧
    s'.cache.misses = s.cache.misses + (x.lookupFound? s).toList.count false := by
  cases hx : x.search? s with
  | some search =>
      -- a search through the front door
      obtain ⟨c, q, u⟩ := search
      have hlook : x.lookupFound? s = (SessionCall.execute c q u).lookupFound? s := by
        unfold SessionCall.lookupFound?
        rw [hx]
        rfl
      rw [call_of_search?_some hx] at h
      cases hexec : s.execute c q u now elapsed with
      | error f =>
          rw [hexec] at h
          cases h
      | ok result =>
          rw [hexec] at h
          obtain ⟨-, rfl⟩ := Prod.mk.inj (Except.ok.inj h)
          obtain ⟨hhits, hmisses⟩ := execute_counters hexec
          obtain ⟨ctrue, cfalse⟩ := count_lookupFound?_execute (s := s) (c := c) (q := q) (u := u)
          rw [hlook, ctrue, cfalse]
          exact ⟨hhits, hmisses⟩
  | none =>
      -- no lookup: the counters stay
      have hlook : x.lookupFound? s = none := by
        simp only [SessionCall.lookupFound?, hx]
      rw [hlook]
      have hsame : s'.cache.hits = s.cache.hits ∧ s'.cache.misses = s.cache.misses := by
        cases x with
        | execute => cases hx
        | executeBuilder => cases hx
        | goToPage c n pageSize =>
            obtain ⟨e, hpage⟩ : ∃ e, s.goToPage c n pageSize now elapsed = .ok (.error e, s) :=
              goToPage_of_search?_none hx
            simp only [call, hpage] at h
            obtain ⟨-, rfl⟩ := Prod.mk.inj (Except.ok.inj h)
            exact ⟨rfl, rfl⟩
        | preload c =>
            obtain ⟨-, rfl⟩ := Prod.mk.inj (Except.ok.inj h)
            exact ⟨(preload_sameBooks s c).hits, (preload_sameBooks s c).misses⟩
        | stream c q pageSize maxResults =>
            obtain ⟨-, rfl⟩ := Prod.mk.inj (Except.ok.inj h)
            exact ⟨(withBackend_sameBooks s c _).hits, (withBackend_sameBooks s c _).misses⟩
        | aggregate c index query specs size =>
            obtain ⟨-, rfl⟩ := Prod.mk.inj (Except.ok.inj h)
            exact ⟨(withBackend_sameBooks s c _).hits, (withBackend_sameBooks s c _).misses⟩
        | fields c index =>
            obtain ⟨-, rfl⟩ := Prod.mk.inj (Except.ok.inj h)
            exact ⟨(withBackend_sameBooks s c _).hits, (withBackend_sameBooks s c _).misses⟩
        | reset =>
            obtain ⟨-, rfl⟩ := Prod.mk.inj (Except.ok.inj h)
            exact ⟨rfl, rfl⟩
      exact hsame

/-! ## Runs of calls -/

/-- Over a run of calls, the counters count exactly the lookups the calls made: hits those that
found their key, misses those that did not. -/
theorem run_counters {xs : List TimedCall} {replies : List SessionReply}
    (h : s.run xs = .ok (replies, s')) :
    s'.cache.hits = s.cache.hits + (s.lookups xs).count true ∧
    s'.cache.misses = s.cache.misses + (s.lookups xs).count false := by
  induction xs generalizing s replies with
  | nil =>
      obtain ⟨-, rfl⟩ := Prod.mk.inj (Except.ok.inj h)
      exact ⟨rfl, rfl⟩
  | cons x xs ih =>
      -- the first call, then the rest of the run from where it left the session
      cases hx : s.call x.now x.elapsed x.call with
      | error f =>
          simp only [run, hx, bind, Except.bind] at h
          cases h
      | ok first =>
          obtain ⟨reply, s₁⟩ := first
          cases hrest : s₁.run xs with
          | error f =>
              simp only [run, hx, hrest, bind, Except.bind] at h
              cases h
          | ok rest =>
              obtain ⟨replies', s₂⟩ := rest
              simp only [run, hx, hrest, bind, Except.bind, pure, Except.pure] at h
              obtain ⟨-, rfl⟩ := Prod.mk.inj (Except.ok.inj h)
              obtain ⟨hhits₁, hmisses₁⟩ := call_counters hx
              obtain ⟨hhits₂, hmisses₂⟩ := ih hrest
              simp only [lookups, hx, List.count_append]
              omega

/-- The books of a session. A search on a registered connection, given, built or as a page,
sends one request exactly when it does not find its key in the cache and none otherwise; its
lookup counts a hit or a miss; a success becomes the most recent search, and is recorded in the
analyzer and the history exactly when it reached the backend. A page is such a search or fails
with nothing changed. Preloads, streams, aggregations and field lookups keep the counters, the
analyzer, the history and the most recent search. A reset empties the cache and forgets the most
recent search, and keeps the counters, the analyzer and the history. Over every run of calls the
counters count exactly the lookups made, found and not found. -/
theorem session_books (s : Session β) (now : Instant) (elapsed : Nat) :
    (∀ c q u (b : β) res s', s.registry.get c = .ok b →
      s.execute c q u now elapsed = .ok (res, s') →
      s'.sent = s.sent ++ (if u && s.cache.contains (q.cacheKey c) then [] else [(c, q.request)]) ∧
      s'.cache.hits = s.cache.hits + (u && s.cache.contains (q.cacheKey c)).toNat ∧
      s'.cache.misses = s.cache.misses + (u && !s.cache.contains (q.cacheKey c)).toNat ∧
      (∀ r, res = .ok r → s'.last = some ⟨c, q, r.total⟩ ∧
        if u && s.cache.contains (q.cacheKey c) then
          s'.analyzer = s.analyzer ∧ s'.history = s.history ∧ s'.recorded = s.recorded
        else
          s'.recorded = s.recorded + 1 ∧
          (∃ (record : PerformanceRecord) (analysis : Option QueryAnalysis),
            record.connectionId = c ∧ record.index = q.index ∧ record.query = q.query ∧
            record.executionTime = elapsed ∧ record.resultCount = r.total ∧
            s.analyzer.recordEntry record now = .ok (analysis, s'.analyzer)) ∧
          s'.history = (s.history.add ("h-" ++ toString (s.recorded + 1)) q c (some elapsed)
            (some r.total) now).2) ∧
      (∀ e, res = .error e → s'.analyzer = s.analyzer ∧ s'.history = s.history ∧
        s'.recorded = s.recorded ∧ s'.last = s.last)) ∧
    (∀ c n pageSize,
      (∃ w, (SessionCall.goToPage c n pageSize).search? s = some (c, w, true) ∧
        s.goToPage c n pageSize now elapsed = s.execute c w true now elapsed) ∨
      (SessionCall.goToPage c n pageSize).search? s = none ∧
        ∃ e, s.goToPage c n pageSize now elapsed = .ok (.error e, s)) ∧
    (∀ c, SameBooks s (s.preload c).2) ∧
    (∀ c q pageSize maxResults, SameBooks s (s.stream c q pageSize maxResults).2) ∧
    (∀ c index query specs size, SameBooks s (s.aggregate c index query specs size).2) ∧
    (∀ c index, SameBooks s (s.fields c index).2) ∧
    (s.reset.cache.entries = ∅ ∧ s.reset.cache.order = [] ∧ s.reset.last = none ∧
      s.reset.cache.hits = s.cache.hits ∧ s.reset.cache.misses = s.cache.misses ∧
      s.reset.analyzer = s.analyzer ∧ s.reset.history = s.history) ∧
    (∀ xs replies s', s.run xs = .ok (replies, s') →
      s'.cache.hits = s.cache.hits + (s.lookups xs).count true ∧
      s'.cache.misses = s.cache.misses + (s.lookups xs).count false) := by
  refine ⟨?search, ?page, preload_sameBooks s, ?stream, ?aggregate, ?fields,
    ⟨rfl, rfl, rfl, rfl, rfl, rfl, rfl⟩, fun xs replies s' h => run_counters h⟩
  case search =>
    intro c q u b res s' hget h
    exact execute_books hget h
  case page =>
    intro c n pageSize
    cases hx : (SessionCall.goToPage c n pageSize).search? s with
    | none => exact .inr ⟨rfl, goToPage_of_search?_none hx⟩
    | some search =>
        obtain ⟨c', w, u⟩ := search
        obtain ⟨rfl, rfl, hpage⟩ := goToPage_of_search?_some now elapsed hx
        exact .inl ⟨w, rfl, hpage⟩
  case stream =>
    intro c q pageSize maxResults
    exact withBackend_sameBooks s c _
  case aggregate =>
    intro c index query specs size
    exact withBackend_sameBooks s c _
  case fields =>
    intro c index
    exact withBackend_sameBooks s c _

end Session

end Sift
