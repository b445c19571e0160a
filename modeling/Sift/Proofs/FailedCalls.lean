import Sift.Proofs.SessionCalls
import Sift.Backend.Memory

/-!
# Failed calls leave the session as it was

A call that fails changes the session in two ways at most: the requests it sent are logged, and a
search that looked in the cache and missed counts the miss (`Session.afterFailure`). The cache's
entries and their order, the most recent search, the analyzer and the history are all as they
were, because every operation fails before its first write.

* A search fails only after its lookup: on a cached search the key was absent and the miss is
  counted, whether the backend failed or the connection is unknown; an unknown connection is
  found before anything is sent (`Session.execute_error`, `Session.execute_of_get_error`).
* A page fails at once, with nothing changed, when there is no recent search or its window starts
  beyond `2^64 - 1`; otherwise it fails as the search of its window does (`Session.goToPage_error`).
* Streams, aggregations and field lookups change nothing but the request log, and fail with
  nothing sent for an unknown connection or for aggregations that do not compile.
* A preload whose fetch fails leaves the cache as it was (`Session.preload_of_answer_error`).

The main statement is `Session.failed_calls_keep_state`. It counts the miss of a cached search on
an unknown connection, which happens since the lookup comes first
(`Session.execute_unregistered_counts_miss`).
-/

namespace Sift

open Json Time

namespace Session

variable {β : Type} [SearchBackend β] {s s' : Session β} {c : String} {q : SearchQuery}
  {u : Bool} {e : EngineError} {now : Instant} {elapsed : Nat}

/-- A session as a failed call leaves it: as it was, but for the requests the call sent and, when
its cache lookup missed, one more miss. -/
def afterFailure (s : Session β) (missed : Bool) (requests : List (String × Request)) :
    Session β :=
  { s with cache := { s.cache with misses := s.cache.misses + missed.toNat },
           sent := s.sent ++ requests }

/-- A failed search missed the cache if it looked there, its error is what the backend of its
connection answered, and the session is as it was but for the miss and the request sent. -/
theorem execute_error (h : s.execute c q u now elapsed = .ok (.error e, s')) :
    (u = true → s.cache.find? (q.cacheKey c) = none) ∧ s.registry.answer c q = .error e ∧
      s' = s.afterFailure u (s.registry.searchRequests c q) := by
  rw [execute_eq] at h
  -- a hit would have served the search
  have hmiss : u = true → s.cache.find? (q.cacheKey c) = none := by
    intro hu
    cases hfind : s.cache.find? (q.cacheKey c) with
    | none => rfl
    | some r =>
        rw [lookup_hit hu hfind] at h
        cases h
  rw [lookup_miss hmiss] at h
  dsimp only at h
  rw [send_eq] at h
  dsimp only at h
  cases hans : s.registry.answer c q with
  | error e' =>
      rw [hans] at h
      obtain ⟨he, rfl⟩ := Prod.mk.inj (Except.ok.inj h)
      exact ⟨hmiss, he, rfl⟩
  | ok r =>
      -- the backend answered, so the search succeeds or the recording faults
      rw [hans] at h
      simp only [Except.map] at h
      split at h <;> simp at h

/-- A search that the cache does not serve and the backend refuses fails with the backend's
error, counting only its lookup. -/
theorem execute_of_answer_error (hmiss : u = true → s.cache.find? (q.cacheKey c) = none)
    (hans : s.registry.answer c q = .error e) :
    s.execute c q u now elapsed =
      .ok (.error e, s.afterFailure u (s.registry.searchRequests c q)) := by
  rw [execute_eq, lookup_miss hmiss]
  dsimp only
  rw [send_eq]
  dsimp only
  rw [hans]
  rfl

/-- A search on an unknown connection that the cache does not serve fails with nothing sent,
counting only its lookup. -/
theorem execute_of_get_error (hget : s.registry.get c = .error e)
    (hmiss : u = true → s.cache.find? (q.cacheKey c) = none) :
    s.execute c q u now elapsed = .ok (.error e, s.afterFailure u []) := by
  rw [execute_of_answer_error hmiss (Registry.answer_of_get_error hget q),
    Registry.searchRequests_of_get_error hget]

/-- A page window fails only by starting too far. -/
theorem pageWindow_error {last : LastSearch} {n : Nat} {pageSize : Option Nat}
    (h : last.pageWindow n pageSize = .error e) : e = .invalidPage n := by
  unfold LastSearch.pageWindow at h
  dsimp only at h
  split at h
  · exact (Except.error.inj h).symm
  · cases h

/-- A failed page had no recent search or an invalid window, and then changed nothing, or it
failed as the search of its window. -/
theorem goToPage_error {n : Nat} {pageSize : Option Nat}
    (h : s.goToPage c n pageSize now elapsed = .ok (.error e, s')) :
    (s.last = none ∧ e = .noPreviousQuery ∧ s' = s) ∨ (e = .invalidPage n ∧ s' = s) ∨
      ∃ last w, s.last = some last ∧ last.pageWindow n pageSize = .ok w ∧
        s.cache.find? (w.cacheKey c) = none ∧ s.registry.answer c w = .error e ∧
        s' = s.afterFailure true (s.registry.searchRequests c w) := by
  rw [goToPage_eq] at h
  cases hlast : s.last with
  | none =>
      rw [hlast] at h
      obtain ⟨he, rfl⟩ := Prod.mk.inj (Except.ok.inj h)
      exact .inl ⟨rfl, (Except.error.inj he).symm, rfl⟩
  | some last =>
      rw [hlast] at h
      dsimp only at h
      cases hwin : last.pageWindow n pageSize with
      | error e' =>
          rw [hwin] at h
          obtain ⟨he, rfl⟩ := Prod.mk.inj (Except.ok.inj h)
          rw [← Except.error.inj he]
          exact .inr (.inl ⟨pageWindow_error hwin, rfl⟩)
      | ok w =>
          rw [hwin] at h
          obtain ⟨hmiss, hans, rfl⟩ := execute_error h
          exact .inr (.inr ⟨last, w, rfl, hwin, hmiss rfl, hans, rfl⟩)

/-- A preload whose fetch fails logs the request and leaves the cache as it was. -/
theorem preload_of_answer_error (hnext : s.nextPage? c = some q)
    (hans : s.registry.answer c q = .error e) :
    s.preload c = (true, { s with sent := s.sent ++ s.registry.searchRequests c q }) := by
  simp only [preload_eq, hnext, send_eq, hans]

/-- Failed calls keep the session's state. A search, built or given, or a page that fails leaves
the cache's entries and order, the most recent search, the analyzer and the history as they
were; the only change besides the requests sent is one cache miss, counted when a search looked
in the cache and its key was absent. A page without a recent search or with an invalid window,
an unknown connection, and aggregations that do not compile send nothing; of these only the
unknown connection of a cached search counts anything, its miss. A stream, aggregation or field
lookup changes nothing but the request log, and a preload whose fetch fails leaves the cache as
it was. -/
theorem failed_calls_keep_state (s : Session β) (c : String) (now : Instant) (elapsed : Nat) :
    (∀ q u e s', s.execute c q u now elapsed = .ok (.error e, s') →
      (u = true → s.cache.find? (q.cacheKey c) = none) ∧
      s' = s.afterFailure u (s.registry.searchRequests c q) ∧
      ∀ e₀, s.registry.get c = .error e₀ → e = e₀ ∧ s' = s.afterFailure u []) ∧
    (∀ n pageSize e s', s.goToPage c n pageSize now elapsed = .ok (.error e, s') →
      (s.last = none ∧ e = .noPreviousQuery ∧ s' = s) ∨ (e = .invalidPage n ∧ s' = s) ∨
      ∃ w, s.cache.find? (w.cacheKey c) = none ∧
        s' = s.afterFailure true (s.registry.searchRequests c w)) ∧
    (∀ q pageSize maxResults e, (s.stream c q pageSize maxResults).1 = .error e →
      ∃ requests, (s.stream c q pageSize maxResults).2 = s.afterFailure false requests) ∧
    (∀ index query specs size e, (s.aggregate c index query specs size).1 = .error e →
      ∃ requests, (s.aggregate c index query specs size).2 = s.afterFailure false requests) ∧
    (∀ index e, (s.fields c index).1 = .error e →
      ∃ requests, (s.fields c index).2 = s.afterFailure false requests) ∧
    (∀ e₀, s.registry.get c = .error e₀ →
      (∀ q pageSize maxResults, s.stream c q pageSize maxResults = (.error e₀, s)) ∧
      (∀ index query specs size, s.aggregate c index query specs size = (.error e₀, s)) ∧
      ∀ index, s.fields c index = (.error e₀, s)) ∧
    (∀ index query specs size e, compileAggregations specs = .error e →
      ∃ e', s.aggregate c index query specs size = (.error e', s)) ∧
    (∀ q e, s.nextPage? c = some q → s.registry.answer c q = .error e →
      (s.preload c).2 = { s with sent := s.sent ++ s.registry.searchRequests c q }) := by
  refine ⟨?search, ?page, ?stream, ?aggregate, ?fields, ?unknown, ?compile, ?preload⟩
  case search =>
    intro q u e s' h
    obtain ⟨hmiss, hans, rfl⟩ := execute_error h
    refine ⟨hmiss, rfl, fun e₀ hget => ⟨?_, ?_⟩⟩
    · rw [Registry.answer_of_get_error hget] at hans
      exact (Except.error.inj hans).symm
    · rw [Registry.searchRequests_of_get_error hget]
  case page =>
    intro n pageSize e s' h
    rcases goToPage_error h with hnone | hinvalid | ⟨_, w, _, _, hmiss, _, rfl⟩
    · exact .inl hnone
    · exact .inr (.inl hinvalid)
    · exact .inr (.inr ⟨w, hmiss, rfl⟩)
  case stream =>
    intro q pageSize maxResults e _
    exact withBackend_frame s c _
  case aggregate =>
    intro index query specs size e _
    exact withBackend_frame s c _
  case fields =>
    intro index e _
    exact withBackend_frame s c _
  case unknown =>
    intro e₀ hget
    exact ⟨fun _ _ _ => withBackend_of_get_error hget, fun _ _ _ _ => withBackend_of_get_error hget,
      fun _ => withBackend_of_get_error hget⟩
  case compile =>
    intro index query specs size e hcompile
    cases hget : s.registry.get c with
    | error e₀ => exact ⟨e₀, withBackend_of_get_error hget⟩
    | ok b => exact ⟨.compile e, aggregate_of_compile_error hget hcompile⟩
  case preload =>
    intro q e hnext hans
    rw [preload_of_answer_error hnext hans]

/-- A cached search on an unregistered connection counts a miss before it fails: a failure found
before the network can still move a counter. -/
theorem execute_unregistered_counts_miss :
    ∃ s' : Session MemoryBackend,
      ({ registry := {}, cache := ResultCache.empty 50, analyzer := default,
         history := QueryHistory.empty 100, streamBatch := 1000 } : Session MemoryBackend).execute
          "nope" { index := "logs" } true ⟨0, 0⟩ 0 =
        .ok (.error (.unknownConnection "nope"), s') ∧
      s'.cache.misses = 1 := by
  refine ⟨_, execute_of_get_error rfl fun _ => ?_, rfl⟩
  simp [ResultCache.find?, ResultCache.empty]

end Session

end Sift
