import Mathlib
import Sift.Proofs.SessionCalls
import Sift.Proofs.CacheKey
import Sift.Proofs.ObjectFields
import Sift.Backend.Memory

/-!
# Streaming pages

`executeStream` pages through a backend's results: each request asks for the window after the
hits returned so far, of the page size (capped at `maxResultWindow`) or of what is left below the
limit, and the stream stops at an empty page, at a page shorter than asked, once the limit is
reached, or at the first failure.

A run is read off the backend's answers. Every request the stream sends is `streamRequest` of
the hits returned before it, sent while the page size is positive and the limit is not reached,
and it is followed by another exactly when its page lets the stream go on (`StreamLog`,
`StreamContinues`). The outcome is the pages' hits cut at the limit, or the last request's failure
(`streamOutcome`). A page that lets the stream go on brings at least one hit, so the loop ends
before its fuel does, and at most one request more than the hits gathered before the last page is
sent (`executeStream_bounds`).

Over a backend that serves a fixed corpus by windows (`MemoryBackend`), the stream answers a
prefix of the corpus from the query's start and never more than the limit; when each page can be
served in full, it answers exactly the corpus from the start, cut at the limit
(`executeStream_corpus_slice`).

The start advances by the hits returned modulo `2^64`, as a machine word does: past `2^64 - 1` it
wraps around.
-/

namespace Sift

open Json

variable {β : Type} [SearchBackend β]

/-! ## Requests and answers -/

/-- Runs an exchange after the requests of `log`. -/
def Exchange.runFrom {α : Type} (x : Exchange α) (log : List Request) :
    Except EngineError α × List Request :=
  (ExceptT.run x).run log

/-- The answer a backend gives a request, normalized. -/
def Request.answer (b : β) (r : Request) : Except EngineError SearchResult :=
  (SearchBackend.search b r.index r.body).map normalize

/-- The hits a backend answers a request with; none when it fails. -/
def Request.pageHits (b : β) (r : Request) : List Json :=
  match r.answer b with
  | .ok page => page.hits
  | .error _ => []

/-- The `hits.total` a backend answers a request with; zero when it fails. -/
def Request.pageTotal (b : β) (r : Request) : Nat :=
  match r.answer b with
  | .ok page => page.total
  | .error _ => 0

/-- A search followed by more of an exchange: the search's request is logged, and its failure
ends the exchange. -/
theorem execute_bind_runFrom {α : Type} (b : β) (w : SearchQuery) (f : SearchResult → Exchange α)
    (l : List Request) :
    (execute b w >>= f).runFrom l =
      match w.request.answer b with
      | .error e => (.error e, l ++ [w.request])
      | .ok page => (f page).runFrom (l ++ [w.request]) := by
  unfold execute sendSearch Request.answer SearchQuery.request
  cases SearchBackend.search b w.index w.requestBody <;> rfl

/-! ## One page of a stream -/

/-- One turn of the paging loop: stop when the page size is zero or the limit is reached;
otherwise send the window, and stop at a failure, an empty page or a short page, or go on from
the start moved by the hits returned. -/
theorem streamPages_succ (b : β) (q : SearchQuery) (p limit fuel start : Nat)
    (acc : StreamOutcome) (l : List Request) :
    (streamPages b q p limit (fuel + 1) start acc).runFrom l =
      if p = 0 ∨ limit ≤ acc.hits.length then (.ok acc, l)
      else
        let r := (q.withWindow start (min p (limit - acc.hits.length))).request
        match r.answer b with
        | .error e => (.error e, l ++ [r])
        | .ok page =>
          let acc' : StreamOutcome :=
            { acc with total := if acc.pages = 0 then page.total else acc.total,
                       pages := acc.pages + 1 }
          if page.hits.length = 0 then (.ok acc', l ++ [r])
          else
            let acc'' := { acc' with hits := acc.hits ++ page.hits.take (limit - acc.hits.length) }
            if page.hits.length < min p (limit - acc.hits.length) then (.ok acc'', l ++ [r])
            else (streamPages b q p limit fuel ((start + page.hits.length) % 2 ^ 64) acc'').runFrom
              (l ++ [r]) := by
  rw [streamPages]
  by_cases hg : p = 0 ∨ limit ≤ acc.hits.length
  · simp only [ge_iff_le, hg, if_true]
    rfl
  · simp only [ge_iff_le, hg, if_false]
    rw [execute_bind_runFrom]
    cases (q.withWindow start (min p (limit - acc.hits.length))).request.answer b with
    | error e => rfl
    | ok page =>
      simp only
      split_ifs <;> rfl

/-- Once the limit is reached the loop sends nothing more, whatever fuel is left. -/
theorem streamPages_of_limit (b : β) (q : SearchQuery) (p limit fuel start : Nat)
    {acc : StreamOutcome} (h : limit ≤ acc.hits.length) (l : List Request) :
    (streamPages b q p limit fuel start acc).runFrom l = (.ok acc, l) := by
  cases fuel with
  | zero => rfl
  | succ fuel => simp [streamPages_succ, h]

/-! ## The requests of a run -/

/-- The request for the page of a stream after `before` hits: the query's window moved that far
from its start (modulo `2^64`), asking for the page size or what is left below the limit. -/
def streamRequest (q : SearchQuery) (pageSize limit before : Nat) : Request :=
  (q.withWindow ((q.from + before) % 2 ^ 64) (min pageSize (limit - before))).request

/-- Whether a stream goes on after the page a request brings, `before` hits having been
gathered: the backend answered, with at least the hits asked for, and the limit is not reached. -/
def StreamContinues (b : β) (pageSize limit before : Nat) (r : Request) : Prop :=
  ∃ page, r.answer b = .ok page ∧ min pageSize (limit - before) ≤ page.hits.length ∧
    before + page.hits.length < limit

/-- The requests a stream sends once `before` hits are gathered: each is the request for the
window after those hits, sent while the page size is positive and the limit not reached, and it is
followed by another exactly when its page lets the stream go on. -/
def StreamLog (b : β) (q : SearchQuery) (pageSize limit : Nat) : Nat → List Request → Prop
  | _, [] => True
  | before, r :: rest =>
    0 < pageSize ∧ before < limit ∧ r = streamRequest q pageSize limit before ∧
      (rest ≠ [] ↔ StreamContinues b pageSize limit before r) ∧
      StreamLog b q pageSize limit (before + (r.pageHits b).length) rest

/-- What a stream that had gathered `acc` answers after sending `reqs`: the last request's
failure, or the hits of all their pages after those of `acc`, cut at the limit, with the total of
the stream's first page. -/
def streamOutcome (b : β) (limit : Nat) (acc : StreamOutcome) (reqs : List Request) :
    Except EngineError StreamOutcome :=
  match reqs.getLast? with
  | none => .ok acc
  | some last =>
    match last.answer b with
    | .error e => .error e
    | .ok _ =>
      .ok { hits := acc.hits ++ (reqs.flatMap (·.pageHits b)).take (limit - acc.hits.length),
            total := if acc.pages = 0 then (reqs.head?.map (·.pageTotal b)).getD acc.total
              else acc.total,
            pages := acc.pages + reqs.length }

variable {b : β} {q : SearchQuery} {p limit : Nat}

/-- The hits of a page the backend answered. -/
theorem pageHits_of_answer {r : Request} {page : SearchResult} (h : r.answer b = .ok page) :
    r.pageHits b = page.hits := by
  simp [Request.pageHits, h]

/-- The total of a page the backend answered. -/
theorem pageTotal_of_answer {r : Request} {page : SearchResult} (h : r.answer b = .ok page) :
    r.pageTotal b = page.total := by
  simp [Request.pageTotal, h]

/-- A run of one request that the backend answered gathers that page's hits, cut at the limit. -/
theorem streamOutcome_singleton {acc : StreamOutcome} {r : Request} {page : SearchResult}
    (h : r.answer b = .ok page) :
    streamOutcome b limit acc [r] =
      .ok { hits := acc.hits ++ page.hits.take (limit - acc.hits.length),
            total := if acc.pages = 0 then page.total else acc.total,
            pages := acc.pages + 1 } := by
  simp [streamOutcome, h, pageHits_of_answer h, pageTotal_of_answer h]

/-- After a page the backend answered, the stream goes on exactly when the page is as long as
asked and stays below the limit. -/
theorem streamContinues_iff_of_answer {before : Nat} {r : Request} {page : SearchResult}
    (h : r.answer b = .ok page) :
    StreamContinues b p limit before r ↔
      min p (limit - before) ≤ page.hits.length ∧ before + page.hits.length < limit := by
  simp [StreamContinues, h]

/-- A page that lets the stream go on is taken whole into what the stream gathers, and the rest
of the run answers from there. -/
theorem streamOutcome_cons {acc : StreamOutcome} {r : Request} {page : SearchResult}
    {rest : List Request} (hans : r.answer b = .ok page)
    (hroom : page.hits.length ≤ limit - acc.hits.length) (hrest : rest ≠ []) :
    streamOutcome b limit acc (r :: rest) =
      streamOutcome b limit
        { hits := acc.hits ++ page.hits.take (limit - acc.hits.length),
          total := if acc.pages = 0 then page.total else acc.total,
          pages := acc.pages + 1 } rest := by
  obtain ⟨x, xs, rfl⟩ := List.exists_cons_of_ne_nil hrest
  have hhits := pageHits_of_answer hans
  have htotal := pageTotal_of_answer hans
  have htake : page.hits.take (limit - acc.hits.length) = page.hits :=
    List.take_of_length_le hroom
  unfold streamOutcome
  rw [List.getLast?_cons_cons]
  cases hlast : (x :: xs).getLast? with
  | none => simp at hlast
  | some last =>
    dsimp only
    cases last.answer b with
    | error e => rfl
    | ok _ =>
      have hsub : limit - acc.hits.length - page.hits.length =
          limit - (acc.hits.length + page.hits.length) := by omega
      simp only [List.flatMap_cons, hhits, List.take_append, htake, List.head?_cons,
        Option.map_some, Option.getD_some, htotal, List.length_append, List.length_cons,
        Except.ok.injEq, hsub, List.append_assoc, Nat.add_eq_zero_iff, one_ne_zero, and_false,
        if_false, StreamOutcome.mk.injEq, true_and]
      omega

/-- The run of the paging loop from a state where the start lies `acc.hits.length` hits after the
query's and the fuel exceeds what is left below the limit: it sends the requests `StreamLog`
describes, none exactly when the loop stops at once, and answers `streamOutcome`. -/
theorem streamPages_run (b : β) (q : SearchQuery) (p limit : Nat) :
    ∀ (fuel start : Nat) (acc : StreamOutcome) (l : List Request),
      start = (q.from + acc.hits.length) % 2 ^ 64 → limit - acc.hits.length < fuel →
      ∃ reqs, (streamPages b q p limit fuel start acc).runFrom l =
          (streamOutcome b limit acc reqs, l ++ reqs) ∧
        (reqs = [] ↔ p = 0 ∨ limit ≤ acc.hits.length) ∧
        StreamLog b q p limit acc.hits.length reqs
  | 0, _, _, _, _, hfuel => absurd hfuel (Nat.not_lt_zero _)
  | fuel + 1, start, acc, l, hstart, hfuel => by
    rw [streamPages_succ]
    by_cases hg : p = 0 ∨ limit ≤ acc.hits.length
    · exact ⟨[], by simp [hg, streamOutcome], by simpa using hg, trivial⟩
    · have hp : 0 < p := by omega
      have hlim : acc.hits.length < limit := by omega
      have hreq : (q.withWindow start (min p (limit - acc.hits.length))).request =
          streamRequest q p limit acc.hits.length := by
        rw [hstart]
        rfl
      simp only [hg, if_false, hreq]
      cases hans : (streamRequest q p limit acc.hits.length).answer b with
      | error e =>
        -- the failure ends the run with the one request
        refine ⟨[streamRequest q p limit acc.hits.length], by simp [streamOutcome, hans],
          by simp, hp, hlim, rfl, ?_, trivial⟩
        simp [StreamContinues, hans]
      | ok page =>
        simp only
        by_cases hgo : StreamContinues b p limit acc.hits.length (streamRequest q p limit acc.hits.length)
        · -- a full page below the limit: the run goes on after it
          rw [streamContinues_iff_of_answer hans] at hgo
          have hroom : page.hits.length ≤ limit - acc.hits.length := by omega
          have htake : page.hits.take (limit - acc.hits.length) = page.hits :=
            List.take_of_length_le hroom
          obtain ⟨rest, hrun, hrest, hlog⟩ := streamPages_run b q p limit fuel
            ((start + page.hits.length) % 2 ^ 64)
            { hits := acc.hits ++ page.hits.take (limit - acc.hits.length),
              total := if acc.pages = 0 then page.total else acc.total,
              pages := acc.pages + 1 }
            (l ++ [streamRequest q p limit acc.hits.length])
            (by simp [htake, hstart, Nat.add_assoc])
            (by simp only [htake, List.length_append]; omega)
          have hne : rest ≠ [] := by
            intro h
            simp only [htake, List.length_append] at hrest
            have := hrest.1 h
            omega
          refine ⟨streamRequest q p limit acc.hits.length :: rest, ?_, by simp, hp, hlim,
            rfl, ⟨fun _ => ⟨page, hans, hgo⟩, fun _ => hne⟩, ?_⟩
          · rw [if_neg (by omega), if_neg (by omega), hrun, streamOutcome_cons hans hroom hne]
            simp
          · simpa [pageHits_of_answer hans, htake] using hlog
        · -- an empty page, a short page, or a full one that reaches the limit: the run ends
          refine ⟨[streamRequest q p limit acc.hits.length], ?_, by simp, hp, hlim, rfl,
            by simpa using hgo, trivial⟩
          rw [streamContinues_iff_of_answer hans] at hgo
          rw [streamOutcome_singleton hans]
          by_cases h0 : page.hits.length = 0
          · rw [if_pos h0]
            simp [List.eq_nil_of_length_eq_zero h0]
          · by_cases hshort : page.hits.length < min p (limit - acc.hits.length)
            · rw [if_neg h0, if_pos hshort]
            · rw [if_neg h0, if_neg hshort, streamPages_of_limit _ _ _ _ _ _ (by simp; omega)]

/-! ## What every run does -/

/-- The backend's answers decide the requests: two logs from the same point that are empty
together are the same. -/
theorem StreamLog.unique : ∀ {before : Nat} {reqs₁ reqs₂ : List Request},
    StreamLog b q p limit before reqs₁ → StreamLog b q p limit before reqs₂ →
      (reqs₁ = [] ↔ reqs₂ = []) → reqs₁ = reqs₂
  | _, [], [], _, _, _ => rfl
  | _, [], _ :: _, _, _, h => by simp at h
  | _, _ :: _, [], _, _, h => by simp at h
  | before, r₁ :: rest₁, r₂ :: rest₂, h₁, h₂, _ => by
    obtain ⟨-, -, rfl, hc₁, hl₁⟩ := h₁
    obtain ⟨-, -, rfl, hc₂, hl₂⟩ := h₂
    -- the same request, so the same page, so the same decision to go on
    have hrest : rest₁ = [] ↔ rest₂ = [] := by
      rw [← not_iff_not, ← ne_eq, ← ne_eq, hc₁, hc₂]
    rw [StreamLog.unique hl₁ hl₂ hrest]

/-- Every request but the last lets the stream go on, so it brings at least one hit, and the last
one is sent below the limit. -/
theorem StreamLog.dropLast_hits : ∀ {before : Nat} {reqs : List Request},
    StreamLog b q p limit before reqs → reqs ≠ [] →
      reqs.length ≤ (reqs.dropLast.flatMap (·.pageHits b)).length + 1 ∧
        before + (reqs.dropLast.flatMap (·.pageHits b)).length < limit
  | _, [], _, h => absurd rfl h
  | before, r :: rest, hlog, _ => by
    obtain ⟨hp, hlim, -, hcont, hl⟩ := hlog
    by_cases hrest : rest = []
    · subst hrest
      simpa using hlim
    · obtain ⟨page, hans, hfull, hbelow⟩ := hcont.1 hrest
      have hhits := pageHits_of_answer hans
      obtain ⟨hlen, hbound⟩ := StreamLog.dropLast_hits hl hrest
      rw [hhits] at hbound
      -- a page that lets the stream go on holds at least one hit
      have hone : 1 ≤ page.hits.length := by omega
      rw [List.dropLast_cons_of_ne_nil hrest, List.flatMap_cons, hhits, List.length_append]
      constructor
      · simp only [List.length_cons]
        omega
      · omega

/-- A run that fails ends with the failure of its last request. -/
theorem streamOutcome_eq_error_iff {acc : StreamOutcome} {reqs : List Request}
    {e : EngineError} :
    streamOutcome b limit acc reqs = .error e ↔
      ∃ r, reqs.getLast? = some r ∧ r.answer b = .error e := by
  unfold streamOutcome
  cases reqs.getLast? with
  | none => simp
  | some r => cases h : r.answer b <;> simp [h]

/-- A run that does not fail answers the hits gathered before it and those of its pages, cut at
the limit. -/
theorem streamOutcome_of_ok {acc o : StreamOutcome} {reqs : List Request}
    (h : streamOutcome b limit acc reqs = .ok o) :
    o.hits = acc.hits ++ (reqs.flatMap (·.pageHits b)).take (limit - acc.hits.length) ∧
      o.pages = acc.pages + reqs.length ∧
      o.total = if acc.pages = 0 then (reqs.head?.map (·.pageTotal b)).getD acc.total
        else acc.total := by
  unfold streamOutcome at h
  cases hlast : reqs.getLast? with
  | none =>
    rw [hlast] at h
    cases h
    simp [List.getLast?_eq_none_iff.1 hlast]
  | some r =>
    rw [hlast] at h
    cases hr : r.answer b with
    | error e => simp [hr] at h
    | ok _ =>
      simp only [hr, Except.ok.injEq] at h
      subst h
      exact ⟨rfl, rfl, rfl⟩

/-- `executeStream` is the paging loop from the query's start, with one turn of fuel more than the
limit. -/
theorem executeStream_eq (b : β) (q : SearchQuery) (pageSize : Nat) (maxResults : Option Nat) :
    executeStream b q pageSize maxResults =
      streamPages b q (min pageSize maxResultWindow) (maxResults.getD (2 ^ 64 - 1))
        (maxResults.getD (2 ^ 64 - 1) + 1) q.from {} := rfl

/-- A stream from the query's start, given more fuel than the limit: its requests are those
`StreamLog` describes from no hits, none exactly when the page size or the limit is zero. -/
theorem streamPages_start (b : β) {q : SearchQuery} (hq : q.from < 2 ^ 64) (p limit fuel : Nat)
    (hfuel : limit < fuel) :
    ∃ reqs, (streamPages b q p limit fuel q.from {}).run = (streamOutcome b limit {} reqs, reqs) ∧
      (reqs = [] ↔ p = 0 ∨ limit = 0) ∧ StreamLog b q p limit 0 reqs := by
  obtain ⟨reqs, hrun, hnil, hlog⟩ :=
    streamPages_run b q p limit fuel q.from {} [] (Nat.mod_eq_of_lt hq).symm (by simpa)
  exact ⟨reqs, hrun, by simpa using hnil, by simpa using hlog⟩

/-- A stream from a start that fits in 64 bits: its requests are those `StreamLog` describes from
no hits, with the capped page size and the limit, none exactly when either is zero, and its outcome
is read off them. -/
theorem executeStream_log (b : β) {q : SearchQuery} (hq : q.from < 2 ^ 64) (pageSize : Nat)
    (maxResults : Option Nat) :
    ∃ reqs, (executeStream b q pageSize maxResults).run =
        (streamOutcome b (maxResults.getD (2 ^ 64 - 1)) {} reqs, reqs) ∧
      (reqs = [] ↔ min pageSize maxResultWindow = 0 ∨ maxResults.getD (2 ^ 64 - 1) = 0) ∧
      StreamLog b q (min pageSize maxResultWindow) (maxResults.getD (2 ^ 64 - 1)) 0 reqs := by
  rw [executeStream_eq]
  exact streamPages_start b hq _ _ _ (Nat.lt_succ_self _)

/-- What a run of a stream does, whatever the backend answers, with `size` the capped page size
and `limit` the most hits wanted. -/
structure StreamBounds (b : β) (q : SearchQuery) (size limit : Nat)
    (run : Except EngineError StreamOutcome × List Request) : Prop where
  /-- The loop ends before its fuel does: any fuel beyond the limit gives the same run. -/
  fuel : ∀ fuel, limit < fuel → (streamPages b q size limit fuel q.from {}).run = run
  /-- Nothing is sent exactly when the page size or the limit is zero. -/
  silent : run.2 = [] ↔ size = 0 ∨ limit = 0
  /-- Each request asks for the window after the hits returned before it, for the page size or
  what is left below the limit, and at least one hit. -/
  log : StreamLog b q size limit 0 run.2
  /-- At most one request more than the hits returned before the last page. -/
  requests : run.2.length ≤ (run.2.dropLast.flatMap (·.pageHits b)).length + 1
  /-- The outcome: the last request's failure, or the pages' hits cut at the limit. -/
  outcome : run.1 = streamOutcome b limit {} run.2
  /-- A failure is the backend's answer to the last request, every earlier one having let the
  stream go on. -/
  failure : ∀ e, run.1 = .error e ↔ ∃ r, run.2.getLast? = some r ∧ r.answer b = .error e
  /-- A success holds at most `limit` hits, and at most one request more than it holds was sent. -/
  gathered : ∀ o, run.1 = .ok o → o.hits.length ≤ limit ∧ run.2.length ≤ o.hits.length + 1

/-- A stream through any backend, from a start that fits in 64 bits, does what `StreamBounds`
says: it ends, sends nothing when the page size or the limit is zero, asks each time for the
window after the hits returned so far and for the capped page size or what is left below the
limit, at least one hit, sends at most one request more than the hits it gathers, never holds
more than the limit, and answers the first failure. -/
theorem executeStream_bounds (b : β) (q : SearchQuery) (hq : q.from < 2 ^ 64) (pageSize : Nat)
    (maxResults : Option Nat) :
    StreamBounds b q (min pageSize maxResultWindow) (maxResults.getD (2 ^ 64 - 1))
      (executeStream b q pageSize maxResults).run := by
  obtain ⟨reqs, hexec, hnil, hlog⟩ := executeStream_log b hq pageSize maxResults
  set limit := maxResults.getD (2 ^ 64 - 1)
  set size := min pageSize maxResultWindow
  rw [hexec]
  -- the hits before the last page stay below the limit and within what the stream gathers
  have hcount : reqs ≠ [] → reqs.length ≤ (reqs.dropLast.flatMap (·.pageHits b)).length + 1 ∧
      (reqs.dropLast.flatMap (·.pageHits b)).length < limit := by
    intro hne
    simpa using StreamLog.dropLast_hits hlog hne
  refine ⟨fun fuel hfuel => ?_, hnil, hlog, ?_, rfl, fun e => streamOutcome_eq_error_iff,
    fun o ho => ?_⟩
  · obtain ⟨reqs', hrun', hnil', hlog'⟩ := streamPages_start b hq size limit fuel hfuel
    rw [hrun', StreamLog.unique hlog' hlog (by rw [hnil', hnil])]
  · by_cases hne : reqs = []
    · simp [hne]
    · exact (hcount hne).1
  · obtain ⟨hhits, -, -⟩ := streamOutcome_of_ok ho
    simp only [List.nil_append, List.length_nil, Nat.sub_zero] at hhits
    refine ⟨by simp [hhits], ?_⟩
    by_cases hne : reqs = []
    · simp [hne]
    · obtain ⟨hlen, hbelow⟩ := hcount hne
      -- the pages before the last are among all pages
      have hsub : (reqs.dropLast.flatMap (·.pageHits b)).length ≤
          (reqs.flatMap (·.pageHits b)).length := by
        conv_rhs => rw [← List.dropLast_append_getLast hne]
        simp
      simp only [hhits, List.length_take]
      omega

/-- Pages of two under a bound of five, through a backend that answers every request with the
same three hits, more than any page asks for. -/
theorem executeStream_bounds_overdelivered :
    let b : MemoryBackend :=
      { overrides := [("hits", .obj [("hits", .arr [.null, .null, .null])])] }
    let q : SearchQuery := { index := "logs" }
    q.from < 2 ^ 64 ∧
      StreamBounds b q (min 2 maxResultWindow) ((some 5).getD (2 ^ 64 - 1))
        (executeStream b q 2 (some 5)).run := by
  intro b q
  exact ⟨by decide, executeStream_bounds b q (by decide) 2 (some 5)⟩

/-- The start of a window is a machine word: from the last start below `2^64`, pages of two
through a backend that answers two hits each time ask for the second window from `1`, the start
`2^64 - 1` moved by two and wrapped around, not from `2^64 + 1`. -/
theorem executeStream_second_start_wraps :
    let b : MemoryBackend :=
      { overrides := [("hits", .obj [("hits",
          .arr [.obj [("a", Json.nat 1)], .obj [("a", Json.nat 2)]])])] }
    let q : SearchQuery := { index := "logs", «from» := 2 ^ 64 - 1 }
    (executeStream b q 2 (some 4)).run.2 =
      [(q.withWindow (2 ^ 64 - 1) 2).request, (q.withWindow 1 2).request] := by
  intro b q
  -- every page holds the two hits that replace the response's own
  have hans : ∀ r : Request, ∃ page, r.answer b = .ok page ∧ page.hits.length = 2 := by
    intro r
    refine ⟨_, rfl, ?_⟩
    simp [b, normalize, MemoryBackend.respond, Json.set, Json.object, Json.getPath?, get?_obj,
      lookup_insertSorted, lookup_cons_ite, Json.asArray?]
  obtain ⟨reqs, hrun, hnil, hlog⟩ := streamPages_start b (q := q) (by decide) 2 4 5 (by decide)
  have hexec : (executeStream b q 2 (some 4)).run = (streamPages b q 2 4 5 q.from {}).run := rfl
  rw [hexec, hrun]
  -- the first page is full and below the limit, so a second follows; it reaches the limit
  rcases reqs with _ | ⟨r₁, _ | ⟨r₂, rest⟩⟩
  · simp at hnil
  · obtain ⟨-, -, rfl, hc₁, -⟩ := hlog
    obtain ⟨page, h₁, hl₁⟩ := hans (streamRequest q 2 4 0)
    rw [streamContinues_iff_of_answer h₁, hl₁] at hc₁
    simp at hc₁
  · obtain ⟨page₁, h₁, hl₁⟩ := hans (streamRequest q 2 4 0)
    obtain ⟨-, -, rfl, -, hlog⟩ := hlog
    rw [pageHits_of_answer h₁, hl₁] at hlog
    obtain ⟨-, -, rfl, hc₂, -⟩ := hlog
    obtain ⟨page₂, h₂, hl₂⟩ := hans (streamRequest q 2 4 (0 + 2))
    rw [streamContinues_iff_of_answer h₂, hl₂] at hc₂
    have hrest : rest = [] := by simpa using hc₂
    subst hrest
    have hfirst : (q.from + 0) % 2 ^ 64 = 2 ^ 64 - 1 := by norm_num [q]
    have hsecond : (q.from + (0 + 2)) % 2 ^ 64 = 1 := by norm_num [q]
    rw [streamRequest, streamRequest, hfirst, hsecond]
    rfl

/-! ## A backend over a fixed corpus -/

namespace MemoryBackend

/-- The most hits a backend over a corpus serves for a window of `size`: the size, capped by the
page cap when there is one. -/
def served (m : MemoryBackend) (size : Nat) : Nat :=
  match m.pageCap with
  | some cap => min size cap
  | none => size

/-- A window no larger than the page cap is served in full. -/
theorem served_of_le (m : MemoryBackend) {size : Nat} (h : ∀ cap, m.pageCap = some cap → size ≤ cap) :
    m.served size = size := by
  unfold served
  cases hc : m.pageCap with
  | none => rfl
  | some cap => exact Nat.min_eq_left (h cap hc)

/-- A number below `2^64` reads back as itself. -/
theorem asU64?_nat {n : Nat} (h : n < 2 ^ 64) : (Json.nat n).asU64? = some n := by
  have hlt : (n : Int) < Json.Number.intBound := by
    rw [show Json.Number.intBound = 2 ^ 64 from rfl]
    exact_mod_cast h
  simp [Json.nat_of_lt h, Json.asU64?, Json.Number.toU64?, hlt]

/-- The start a window's request body carries. -/
theorem requestBody_from (q : SearchQuery) (start size : Nat) :
    (q.withWindow start size).requestBody.get? "from" = some (Json.nat start) := by
  simp [SearchQuery.requestBody, SearchQuery.withWindow, Json.get?]

/-- The size a window's request body carries: the window's, capped. -/
theorem requestBody_size (q : SearchQuery) (start size : Nat) :
    (q.withWindow start size).requestBody.get? "size" =
      some (Json.nat (min size maxResultWindow)) := by
  simp [SearchQuery.requestBody, SearchQuery.withWindow, SearchQuery.effectiveSize, Json.get?]

/-- What a backend over a corpus answers when nothing replaces the keys of its response. -/
theorem respond_of_overrides_nil (m : MemoryBackend) (hover : m.overrides = []) (body : Json) :
    m.respond body = Json.object [("took", Json.nat 3), ("timed_out", .bool false),
      ("_shards", Json.object [("total", Json.nat 1), ("successful", Json.nat 1),
        ("skipped", Json.nat 0), ("failed", Json.nat 0)]),
      ("hits", Json.object [("total", m.totalJson),
        ("hits", .arr ((m.corpus.drop (((body.get? "from").bind Json.asU64?).getD 0)).take
          (m.served (((body.get? "size").bind Json.asU64?).getD 10))))])] := by
  simp only [respond, hover, List.foldl_nil]
  rfl

/-- The hits of the response of a backend over a corpus: the window it serves. -/
theorem normalize_respond (m : MemoryBackend) (hover : m.overrides = []) (body : Json) :
    (normalize (m.respond body)).hits = (m.corpus.drop (((body.get? "from").bind Json.asU64?).getD 0)).take
          (m.served (((body.get? "size").bind Json.asU64?).getD 10)) := by
  rw [respond_of_overrides_nil m hover]
  simp [normalize, Json.getPath?, get?_object, lookup_cons_ite, Json.asArray?]

/-- The total a backend over a corpus with no total of its own reports: an object holding the
corpus size under `value`. -/
theorem totalJson_eq (m : MemoryBackend) (htotal : m.total = none) :
    m.totalJson = .obj (sortFields [("value", Json.nat m.corpus.length), ("relation", .str "eq")]) := by
  simp [totalJson, htotal, Json.object]

/-- The count under `value` of that total is the corpus size. -/
theorem countAt_totalJson (m : MemoryBackend) (htotal : m.total = none)
    (hlen : m.corpus.length < 2 ^ 64) : m.totalJson.countAt "value" = m.corpus.length := by
  have hne : ("value" = "relation") = False := by simp
  have hvalue : (sortFields [("value", Json.nat m.corpus.length), ("relation", .str "eq")]).lookup
      "value" = some (Json.nat m.corpus.length) := by
    rw [lookup_sortFields]
    simp only [List.reverse_cons, List.reverse_nil, List.nil_append, List.cons_append,
      lookup_cons_ite, hne, if_false, if_true]
  rw [totalJson_eq m htotal, Json.countAt, get?_obj, hvalue, Option.bind_some, asU64?_nat hlen,
    Option.getD_some]

/-- The total of a response whose `hits.total` is an object: its count under `value`. -/
theorem normalize_total_of_obj {response : Json} {fields : List (String × Json)}
    (h : response.getPath? ["hits", "total"] = some (.obj fields)) :
    (normalize response).total = (Json.obj fields).countAt "value" := by
  simp [normalize, h]

/-- The total in the response of a backend over a corpus with no total of its own: the corpus
size. -/
theorem normalize_respond_total (m : MemoryBackend) (hover : m.overrides = [])
    (htotal : m.total = none) (hlen : m.corpus.length < 2 ^ 64) (body : Json) :
    (normalize (m.respond body)).total = m.corpus.length := by
  have hpath : (m.respond body).getPath? ["hits", "total"] = some m.totalJson := by
    rw [respond_of_overrides_nil m hover]
    simp [Json.getPath?, get?_object, lookup_cons_ite]
  rw [totalJson_eq m htotal] at hpath
  rw [normalize_total_of_obj hpath, ← totalJson_eq m htotal, countAt_totalJson m htotal hlen]

/-- What the theorems below ask of a backend over a corpus: it does not fail, reports the corpus
size as the total, replaces no key of its responses, and its corpus has fewer than `2^64` hits. -/
structure Windowed (m : MemoryBackend) : Prop where
  failing : m.failing = false
  total : m.total = none
  overrides : m.overrides = []
  length_lt : m.corpus.length < 2 ^ 64

variable {m : MemoryBackend}

/-- Such a backend answers every request with its response, normalized. -/
theorem Windowed.answer (hm : m.Windowed) (r : Request) :
    r.answer m = .ok (normalize (m.respond r.body)) := by
  simp [Request.answer, SearchBackend.search, hm.failing, Except.map]

/-- Every page it answers reports the corpus size as the total. -/
theorem Windowed.pageTotal (hm : m.Windowed) (r : Request) : r.pageTotal m = m.corpus.length := by
  rw [Request.pageTotal, hm.answer]
  exact normalize_respond_total m hm.overrides hm.total hm.length_lt r.body

/-- The page of a stream after `before` hits: the corpus's hits from the window's start, as many
as the request asks for and the cap allows. -/
theorem Windowed.pageHits_streamRequest (hm : m.Windowed) (q : SearchQuery) {p : Nat}
    (hp : p ≤ maxResultWindow) (limit before : Nat) :
    (streamRequest q p limit before).pageHits m =
      (m.corpus.drop ((q.from + before) % 2 ^ 64)).take (m.served (min p (limit - before))) := by
  have hstart : (q.from + before) % 2 ^ 64 < 2 ^ 64 := Nat.mod_lt _ (by norm_num)
  have hsize : min p (limit - before) ≤ maxResultWindow := le_trans (Nat.min_le_left _ _) hp
  have hsize' : min (min p (limit - before)) maxResultWindow < 2 ^ 64 := by
    unfold maxResultWindow at hsize ⊢
    omega
  rw [Request.pageHits, hm.answer]
  dsimp only
  rw [streamRequest, SearchQuery.request, normalize_respond m hm.overrides, requestBody_from,
    requestBody_size, Option.bind_some, Option.bind_some, asU64?_nat hstart, asU64?_nat hsize',
    Option.getD_some, Option.getD_some, Nat.min_eq_left hsize]

/-- A page read from the corpus holds no more than the corpus has left, so the point after it
still fits in 64 bits. -/
theorem Windowed.next_fits (hm : m.Windowed) {q : SearchQuery} {before : Nat}
    (hfit : q.from + before < 2 ^ 64) (n : Nat) :
    q.from + (before + ((m.corpus.drop (q.from + before)).take n).length) < 2 ^ 64 := by
  have hlen : ((m.corpus.drop (q.from + before)).take n).length ≤
      m.corpus.length - (q.from + before) := by
    simp
  have := hm.length_lt
  omega

/-- Such a backend always answers, so a stream goes on after a page exactly when the page is as
long as asked and stays below the limit. -/
theorem Windowed.streamContinues_iff (hm : m.Windowed) {p limit before : Nat} (r : Request) :
    StreamContinues m p limit before r ↔
      min p (limit - before) ≤ (r.pageHits m).length ∧ before + (r.pageHits m).length < limit := by
  rw [streamContinues_iff_of_answer (hm.answer r), pageHits_of_answer (hm.answer r)]

/-- The pages of a stream over such a backend, from a point that fits in 64 bits, read the corpus
on from there: together they are a prefix of the corpus after that point. -/
theorem Windowed.log_prefix (hm : m.Windowed) (hp : p ≤ maxResultWindow) :
    ∀ {before : Nat} {reqs : List Request}, StreamLog m q p limit before reqs →
      q.from + before < 2 ^ 64 → reqs.flatMap (·.pageHits m) <+: m.corpus.drop (q.from + before)
  | _, [], _, _ => List.nil_prefix
  | before, r :: rest, hlog, hfit => by
    obtain ⟨-, -, rfl, -, hl⟩ := hlog
    rw [List.flatMap_cons, hm.pageHits_streamRequest q hp, Nat.mod_eq_of_lt hfit]
    rw [hm.pageHits_streamRequest q hp, Nat.mod_eq_of_lt hfit] at hl
    set page := (m.corpus.drop (q.from + before)).take (m.served (min p (limit - before)))
    have ih := Windowed.log_prefix hm hp hl (hm.next_fits hfit _)
    rw [← Nat.add_assoc, ← List.drop_drop] at ih
    calc page ++ rest.flatMap (·.pageHits m)
        <+: page ++ (m.corpus.drop (q.from + before)).drop page.length :=
          (List.prefix_append_right_inj page).2 ih
      _ = m.corpus.drop (q.from + before) := by
          have hpre : page <+: m.corpus.drop (q.from + before) := List.take_prefix _ _
          nth_rewrite 1 [List.prefix_iff_eq_take.1 hpre]
          exact List.take_append_drop _ _

/-- When the page cap never cuts a window of the page size, the pages of a stream leave nothing
out: up to the limit they are the corpus from the stream's point on. -/
theorem Windowed.log_take (hm : m.Windowed) (hp : p ≤ maxResultWindow)
    (hcap : ∀ cap, m.pageCap = some cap → p ≤ cap) :
    ∀ {before : Nat} {reqs : List Request}, StreamLog m q p limit before reqs → reqs ≠ [] →
      q.from + before < 2 ^ 64 →
      (reqs.flatMap (·.pageHits m)).take (limit - before) =
        (m.corpus.drop (q.from + before)).take (limit - before)
  | _, [], _, h, _ => absurd rfl h
  | before, r :: rest, hlog, _, hfit => by
    obtain ⟨-, -, rfl, hcont, hl⟩ := hlog
    rw [hm.streamContinues_iff] at hcont
    have hserved : m.served (min p (limit - before)) = min p (limit - before) :=
      m.served_of_le fun cap hc => le_trans (Nat.min_le_left _ _) (hcap cap hc)
    have hnext := hm.next_fits hfit (min p (limit - before))
    rw [hm.pageHits_streamRequest q hp, Nat.mod_eq_of_lt hfit, hserved] at hl hcont
    rw [List.flatMap_cons, hm.pageHits_streamRequest q hp, Nat.mod_eq_of_lt hfit, hserved]
    set s := min p (limit - before)
    set page := (m.corpus.drop (q.from + before)).take s
    have hpl : page.length = min s (m.corpus.drop (q.from + before)).length := List.length_take
    by_cases hrest : rest = []
    · -- the last page: short, or reaching the limit
      subst hrest
      simp only [ne_eq, not_true_eq_false, false_iff, not_and, not_lt] at hcont
      rw [List.flatMap_nil, List.append_nil, List.take_take, List.take_eq_take_iff]
      omega
    · -- a full page below the limit: the rest of the run reads on after it
      have hfull : page.length = s := by
        have := hcont.1 hrest
        omega
      have ih := Windowed.log_take hm hp hcap hl hrest hnext
      rw [← Nat.add_assoc, ← List.drop_drop, hfull] at ih
      have hsplit : limit - before = s + (limit - (before + s)) := by omega
      rw [List.take_append, List.take_of_length_le (by omega), hfull, Nat.sub_sub, ih]
      conv_rhs => rw [hsplit, List.take_add]

end MemoryBackend

open MemoryBackend in
/-- A stream over a backend that serves a corpus by windows, from a start that fits in 64 bits,
always answers, and what it answers is a slice of the corpus: a prefix of the corpus from the
start, never more hits than `maxResults`, and, when the page size is positive and the page cap
never cuts it, exactly the corpus from the start up to `maxResults` hits (all of it when there is
no bound). Each page is asked for where the one before it ended, and the stream stops at an empty
page, a short page or the limit (`StreamLog`, through `Windowed.streamContinues_iff`); once a page
has been read the total is the corpus size the first page reports. -/
theorem executeStream_corpus_slice (m : MemoryBackend) (hm : m.Windowed) (q : SearchQuery)
    (hq : q.from < 2 ^ 64) (pageSize : Nat) (maxResults : Option Nat) :
    ∃ o, (executeStream m q pageSize maxResults).run.1 = .ok o ∧
      o.hits <+: m.corpus.drop q.from ∧
      (∀ k, maxResults = some k → o.hits.length ≤ k) ∧
      (0 < min pageSize maxResultWindow →
        (∀ cap, m.pageCap = some cap → min pageSize maxResultWindow ≤ cap) →
        o.hits = (m.corpus.drop q.from).take
          (min (maxResults.getD m.corpus.length) (m.corpus.length - q.from))) ∧
      StreamLog m q (min pageSize maxResultWindow) (maxResults.getD (2 ^ 64 - 1)) 0
        (executeStream m q pageSize maxResults).run.2 ∧
      o.pages = (executeStream m q pageSize maxResults).run.2.length ∧
      o.total = if o.pages = 0 then 0 else m.corpus.length := by
  obtain ⟨reqs, hexec, hnil, hlog⟩ := executeStream_log m hq pageSize maxResults
  set limit := maxResults.getD (2 ^ 64 - 1)
  set size := min pageSize maxResultWindow
  rw [hexec]
  have hsize : size ≤ maxResultWindow := Nat.min_le_right _ _
  have hfit : q.from + 0 < 2 ^ 64 := hq
  -- the backend answers every request, so the run does not fail
  obtain ⟨o, ho⟩ : ∃ o, streamOutcome m limit {} reqs = .ok o := by
    cases h : streamOutcome m limit {} reqs with
    | ok o => exact ⟨o, rfl⟩
    | error e =>
      obtain ⟨r, -, hr⟩ := streamOutcome_eq_error_iff.1 h
      simp [hm.answer] at hr
  obtain ⟨hhits, hpages, htotal⟩ := streamOutcome_of_ok ho
  simp only [List.nil_append, List.length_nil, Nat.sub_zero] at hhits
  have hpages' : o.pages = reqs.length := by simpa using hpages
  refine ⟨o, ho, ?_, ?_, ?_, hlog, hpages', ?_⟩
  · -- a prefix of the pages, which read the corpus on from the start
    rw [hhits]
    simpa using (List.take_prefix _ _).trans (hm.log_prefix hsize hlog hfit)
  · intro k hk
    have hlim : limit = k := by simp [limit, hk]
    rw [hhits, List.length_take]
    omega
  · intro hpos hcap
    have hdrop : (m.corpus.drop q.from).length = m.corpus.length - q.from := List.length_drop
    have hlen := hm.length_lt
    by_cases hne : reqs = []
    · -- nothing was sent, so the limit is zero
      have hlim : limit = 0 := by
        rcases hnil.1 hne with h | h
        · omega
        · exact h
      cases maxResults with
      | none => simp [limit] at hlim
      | some k =>
        have hk : k = 0 := hlim
        simp [hhits, hne, hk]
    · have hexact := hm.log_take hsize hcap hlog hne hfit
      simp only [Nat.add_zero, Nat.sub_zero] at hexact
      rw [hhits, hexact, List.take_eq_take_iff, hdrop]
      cases maxResults with
      | none =>
        have hlim : limit = 2 ^ 64 - 1 := rfl
        simp only [Option.getD_none]
        omega
      | some k =>
        have hlim : limit = k := rfl
        simp only [Option.getD_some]
        omega
  · -- the total is the first page's, and every page reports the corpus size
    rw [htotal, hpages']
    cases reqs with
    | nil => rfl
    | cons r rest => simp [hm.pageTotal]


/-- Pages of twenty from hit 40 of 95, under a page cap of 30 and a bound of 50. -/
theorem executeStream_corpus_slice_from_forty :
    let m : MemoryBackend := { corpus := MemoryBackend.numbered 95, pageCap := some 30 }
    let q : SearchQuery := { index := "logs", «from» := 40 }
    m.Windowed ∧ q.from < 2 ^ 64 ∧
    ∃ o, (executeStream m q 20 (some 50)).run.1 = .ok o ∧
      o.hits <+: m.corpus.drop q.from ∧
      (∀ k, some 50 = some k → o.hits.length ≤ k) ∧
      (0 < min 20 maxResultWindow →
        (∀ cap, m.pageCap = some cap → min 20 maxResultWindow ≤ cap) →
        o.hits = (m.corpus.drop q.from).take
          (min ((some 50).getD m.corpus.length) (m.corpus.length - q.from))) ∧
      StreamLog m q (min 20 maxResultWindow) ((some 50).getD (2 ^ 64 - 1)) 0
        (executeStream m q 20 (some 50)).run.2 ∧
      o.pages = (executeStream m q 20 (some 50)).run.2.length ∧
      o.total = if o.pages = 0 then 0 else m.corpus.length := by
  intro m q
  have hm : m.Windowed := ⟨rfl, rfl, rfl, by simp [m, MemoryBackend.numbered]⟩
  exact ⟨hm, by decide, executeStream_corpus_slice m hm q (by decide) 20 (some 50)⟩

end Sift
