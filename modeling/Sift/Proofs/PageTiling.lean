import Mathlib
import Sift.Proofs.CacheCoherence
import Sift.Proofs.StreamPages
import Sift.Proofs.NextPage
import Sift.Proofs.AnalyzerLedger

/-!
# Consecutive pages over a fixed corpus

Page `p` of the most recent search, at a page size `s`, is its window of `s` hits from
`(p - 1) * s`. The page after it starts at `p * s`, and so does the window a preload fetches
after it (`Session.nextPage?_succ`). A request caps its size at `maxResultWindow`, so a backend
over a fixed corpus answers a page with `min s maxResultWindow` hits from its start, or with what
is left of the corpus.

Consecutive pages therefore tile the corpus, neither skipping nor repeating a hit, exactly when
the page size is within that window (`Session.consecutive_pages`). A larger page is cut to
`maxResultWindow` hits while the next page still starts `s` hits on, and the hits in between are
never shown (`Session.oversized_pages_skip_a_hit`).
-/

namespace Sift

open Json Time

/-- Page `p` at a given size `s`: the window of `s` hits from `(p - 1) * s`, unless that start
leaves 64 bits. -/
theorem LastSearch.pageWindow_some (last : LastSearch) (p s : Nat) :
    last.pageWindow p (some s) =
      if 2 ^ 64 ≤ (p - 1) * s then .error (.invalidPage p)
      else .ok (last.query.withWindow ((p - 1) * s) s) := rfl

/-! ## A backend over a corpus -/

namespace MemoryBackend

variable {m : MemoryBackend}

/-- A backend with no page cap serves every window in full. -/
theorem served_of_no_cap (hcap : m.pageCap = none) (size : Nat) : m.served size = size := by
  simp [served, hcap]

/-- A registered backend over a corpus answers a window that starts below `2^64` with the corpus's
hits from the window's start, as many as the capped size asks for, and the corpus size as the
total. -/
theorem Windowed.answer_window (hm : m.Windowed) {reg : Registry MemoryBackend} {c : String}
    (hreg : reg.get c = .ok m) (q : SearchQuery) {start : Nat} (hstart : start < 2 ^ 64)
    (size : Nat) :
    ∃ r, reg.answer c (q.withWindow start size) = .ok r ∧
      r.hits = (m.corpus.drop start).take (m.served (min size maxResultWindow)) ∧
      r.total = m.corpus.length := by
  have hsize : min size maxResultWindow < 2 ^ 64 := by
    unfold maxResultWindow
    omega
  refine ⟨normalize (m.respond (q.withWindow start size).requestBody), ?_, ?_, ?_⟩
  · simp [Registry.answer, hreg, SearchBackend.search, hm.failing, bind, Except.bind, pure,
      Except.pure]
  · rw [normalize_respond m hm.overrides, requestBody_from, requestBody_size, Option.bind_some,
      Option.bind_some, asU64?_nat hstart, asU64?_nat hsize, Option.getD_some, Option.getD_some]
  · exact normalize_respond_total m hm.overrides hm.total hm.length_lt _

/-- The numbered hits `0` to `n - 1`, fewer than `2^64`, are a corpus. -/
theorem numbered_windowed {n : Nat} (h : n < 2 ^ 64) :
    ({ corpus := numbered n } : MemoryBackend).Windowed :=
  ⟨rfl, rfl, rfl, by simpa [numbered] using h⟩

end MemoryBackend

/-- A fresh cache holds nothing. -/
@[simp] theorem ResultCache.find?_empty (capacity : Nat) (key : String) :
    (ResultCache.empty capacity).find? key = none := by
  simp [ResultCache.find?, ResultCache.empty]

/-! ## Running a page -/

namespace Session

variable {β : Type} [SearchBackend β] {s : Session β} {c : String} {q : SearchQuery} {u : Bool}
  {r : SearchResult} {now : Instant} {elapsed : Nat}

omit [SearchBackend β] in
/-- Recording a search that was not slow cannot fault. -/
theorem recordSearch_ok_of_not_slow (hfast : ¬ s.analyzer.threshold < elapsed) :
    ∃ s', s.recordSearch c q r now elapsed = .ok s' := by
  unfold recordSearch
  dsimp only
  rw [Analyzer.recordEntry_of_not_slow now]
  · exact ⟨_, rfl⟩
  · exact hfast

omit [SearchBackend β] in
/-- The same, for a view of the recorded session. -/
theorem recordSearch_map_ok_of_not_slow {α : Type} (f : Session β → α)
    (hfast : ¬ s.analyzer.threshold < elapsed) :
    ∃ s', (s.recordSearch c q r now elapsed).map f = .ok (f s') := by
  obtain ⟨s', hs'⟩ := recordSearch_ok_of_not_slow (c := c) (q := q) (r := r) hfast
  exact ⟨s', by rw [hs']; rfl⟩

omit [SearchBackend β] in
@[simp] theorem store_analyzer {key : String} : (s.store key u r).analyzer = s.analyzer := by
  unfold store
  split <;> rfl

/-- A search that the cache does not serve, and that the backend answers, succeeds when
recording it cannot fault. -/
theorem execute_of_answer_ok (hmiss : u = true → s.cache.find? (q.cacheKey c) = none)
    (hans : s.registry.answer c q = .ok r) (hfast : ¬ s.analyzer.threshold < elapsed) :
    ∃ s', s.execute c q u now elapsed = .ok (.ok r, s') := by
  rw [execute_eq, lookup_miss hmiss]
  dsimp only
  rw [send_eq, hans]
  dsimp only
  -- storing and logging leave the analyzer as it was
  refine recordSearch_map_ok_of_not_slow (fun s => (Except.ok r, s)) ?_
  simpa using hfast

/-! ## Pages over a corpus -/

variable {σ σ₁ : Session MemoryBackend} {m : MemoryBackend} {last : LastSearch} {p n : Nat}

/-- A page of the most recent search that starts below `2^64`, on a session whose cache does not
hold it, over a registered backend on a corpus, succeeds when recording it cannot fault. -/
theorem goToPage_ok_of_windowed (hreg : σ.registry.get c = .ok m) (hm : m.Windowed)
    (hlast : σ.last = some last) (hfits : (p - 1) * n < 2 ^ 64)
    (hmiss : σ.cache.find? ((last.query.withWindow ((p - 1) * n) n).cacheKey c) = none)
    (hfast : ¬ σ.analyzer.threshold < elapsed) :
    ∃ r σ₁, σ.goToPage c p (some n) now elapsed = .ok (.ok r, σ₁) := by
  rw [goToPage_eq, hlast]
  dsimp only
  rw [LastSearch.pageWindow_some, if_neg (Nat.not_le_of_lt hfits)]
  dsimp only
  obtain ⟨r, hans, -⟩ := hm.answer_window hreg last.query hfits n
  obtain ⟨σ₁, hσ₁⟩ := execute_of_answer_ok (fun _ => hmiss) hans hfast
  exact ⟨r, σ₁, hσ₁⟩

/-- A page of the most recent search, on a sound session over a registered backend on a corpus,
is the corpus's window from the page's start, as many hits as the capped size asks for; it
becomes the most recent search, with the corpus size as its total. -/
theorem goToPage_windowed (hsound : σ.Sound) (hreg : σ.registry.get c = .ok m)
    (hm : m.Windowed) (hlast : σ.last = some last)
    (hpage : σ.goToPage c p (some n) now elapsed = .ok (.ok r, σ₁)) :
    (p - 1) * n < 2 ^ 64 ∧
      r.hits = (m.corpus.drop ((p - 1) * n)).take (m.served (min n maxResultWindow)) ∧
      σ₁.last = some ⟨c, last.query.withWindow ((p - 1) * n) n, m.corpus.length⟩ := by
  rw [goToPage_eq, hlast] at hpage
  dsimp only at hpage
  rw [LastSearch.pageWindow_some] at hpage
  by_cases hover : 2 ^ 64 ≤ (p - 1) * n
  · rw [if_pos hover] at hpage
    cases hpage
  · rw [if_neg hover] at hpage
    dsimp only at hpage
    have hfits : (p - 1) * n < 2 ^ 64 := Nat.lt_of_not_le hover
    -- the page is well formed, so from the cache or not it gets what the backend answers
    have hwf : (last.query.withWindow ((p - 1) * n) n).Wellformed :=
      (hsound.last last hlast).withWindow n hfits
    obtain ⟨r', hans', hhits, htotal⟩ := hm.answer_window hreg last.query hfits n
    have hans := hsound.execute_answer hwf hpage
    rw [hans', Except.ok.injEq] at hans
    subst hans
    obtain ⟨-, -, -, hbooks, -⟩ := execute_books hreg hpage
    refine ⟨hfits, hhits, ?_⟩
    rw [(hbooks r' rfl).1, htotal]

/-- After a page, the next page at the same size is the window from `p * n`, unless that start
leaves 64 bits. -/
theorem goToPage_after {c₀ : String} {q : SearchQuery} {total : Nat}
    (hlast : σ₁.last = some ⟨c₀, q, total⟩) (c : String) (p n : Nat) (now : Instant)
    (elapsed : Nat) :
    σ₁.goToPage c (p + 1) (some n) now elapsed =
      if 2 ^ 64 ≤ p * n then .ok (.error (.invalidPage (p + 1)), σ₁)
      else σ₁.execute c (q.withWindow (p * n) n) true now elapsed := by
  rw [goToPage_eq, hlast]
  dsimp only
  rw [LastSearch.pageWindow_some, Nat.add_sub_cancel]
  by_cases hover : 2 ^ 64 ≤ p * n
  · simp only [if_pos hover]
  · simp only [if_neg hover]

/-- A page that stops short of the end of the corpus holds `min n maxResultWindow` hits, so the
next page, `n` hits on, starts right after it exactly when `n` is within that window. -/
theorem next_start_eq_iff {corpus : List Json} (hp : 1 ≤ p)
    (hshort : (p - 1) * n + ((corpus.drop ((p - 1) * n)).take (min n maxResultWindow)).length <
      corpus.length) :
    p * n = (p - 1) * n + ((corpus.drop ((p - 1) * n)).take (min n maxResultWindow)).length ↔
      n ≤ maxResultWindow := by
  have hnext : p * n = (p - 1) * n + n := by
    obtain ⟨k, rfl⟩ := Nat.exists_eq_add_of_le hp
    rw [Nat.add_sub_cancel_left, Nat.add_comm 1 k, Nat.add_mul, Nat.one_mul]
  rw [List.length_take, List.length_drop] at hshort ⊢
  rw [hnext]
  unfold maxResultWindow at hshort ⊢
  omega

/-- Pages over a corpus. On a sound session over a registered backend on a corpus with no page
cap, page `p ≥ 1` at size `n ≥ 1` gets the corpus's hits from `(p - 1) * n`, at most
`maxResultWindow` of them, and becomes the most recent search. The next page at the same size,
and the window a preload fetches after it, both start at `p * n`. When the page stops short of
the end of the corpus, that is right after its last hit exactly when `n ≤ maxResultWindow`:
consecutive pages then tile the corpus, and a larger size skips the hits past the window. -/
theorem consecutive_pages (σ σ₁ : Session MemoryBackend) (c : String) (m : MemoryBackend)
    (last : LastSearch) (p n : Nat) (r : SearchResult) (now : Instant) (elapsed : Nat)
    (hsound : σ.Sound) (hreg : σ.registry.get c = .ok m) (hm : m.Windowed)
    (hcap : m.pageCap = none) (hlast : σ.last = some last) (hp : 1 ≤ p) (hn : 1 ≤ n)
    (hpage : σ.goToPage c p (some n) now elapsed = .ok (.ok r, σ₁)) :
    r.hits = (m.corpus.drop ((p - 1) * n)).take (min n maxResultWindow) ∧
    σ₁.last = some ⟨c, last.query.withWindow ((p - 1) * n) n, m.corpus.length⟩ ∧
    (∀ now' elapsed', σ₁.goToPage c (p + 1) (some n) now' elapsed' =
      if 2 ^ 64 ≤ p * n then .ok (.error (.invalidPage (p + 1)), σ₁)
      else σ₁.execute c (last.query.withWindow (p * n) n) true now' elapsed') ∧
    (∀ c', σ₁.nextPage? c' =
      if p * n < 2 ^ 64 ∧ p * n < m.corpus.length ∧
          σ₁.cache.contains ((last.query.withWindow (p * n) n).cacheKey c') = false then
        some (last.query.withWindow (p * n) n) else none) ∧
    ((p - 1) * n + r.hits.length < m.corpus.length →
      (p * n = (p - 1) * n + r.hits.length ↔ n ≤ maxResultWindow)) := by
  obtain ⟨-, hhits, hlast₁⟩ := goToPage_windowed hsound hreg hm hlast hpage
  rw [MemoryBackend.served_of_no_cap hcap] at hhits
  refine ⟨hhits, hlast₁, goToPage_after hlast₁ c p n, fun c' => ?_, fun hshort => ?_⟩
  · exact nextPage?_succ hlast₁ hn hp rfl c'
  · rw [hhits] at hshort ⊢
    exact next_start_eq_iff hp hshort

/-! ## Pages over fixed corpora -/

/-- A session with nothing cached is sound when its most recent search is well formed. -/
theorem Sound.of_empty_cache (hempty : ∀ key, s.cache.find? key = none)
    (hlast : ∀ l, s.last = some l → l.query.Wellformed) : s.Sound :=
  ⟨fun _ _ _ _ hr => (by rw [hempty] at hr; cases hr), hlast⟩

/-- Over 25 hits, the second page of ten holds ten hits and stops short of the end, and the third
page starts right after it. -/
theorem consecutive_pages_of_ten :
    let m : MemoryBackend := { corpus := MemoryBackend.numbered 25 }
    let σ : Session MemoryBackend :=
      { registry := { entries := [(⟨"c1", "c1", "mock://", false⟩, m)] },
        cache := ResultCache.empty 50, last := some ⟨"c1", { index := "logs" }, 25⟩,
        analyzer := default, history := QueryHistory.empty 100, streamBatch := 1000 }
    ∃ r σ₁, σ.Sound ∧ σ.registry.get "c1" = .ok m ∧ m.Windowed ∧ m.pageCap = none ∧
      σ.last = some ⟨"c1", { index := "logs" }, 25⟩ ∧ 1 ≤ 2 ∧ 1 ≤ 10 ∧
      σ.goToPage "c1" 2 (some 10) ⟨0, 0⟩ 0 = .ok (.ok r, σ₁) ∧
      ((2 - 1) * 10 + r.hits.length < m.corpus.length →
        (2 * 10 = (2 - 1) * 10 + r.hits.length ↔ 10 ≤ maxResultWindow)) := by
  intro m σ
  have hreg : σ.registry.get "c1" = .ok m := rfl
  have hm : m.Windowed := MemoryBackend.numbered_windowed (by norm_num)
  have hempty : ∀ key, σ.cache.find? key = none := ResultCache.find?_empty 50
  have hsound : σ.Sound := Sound.of_empty_cache hempty fun l hl => by
    cases hl
    exact ⟨Nat.two_pow_pos 64, rfl, fun s hs => by cases hs⟩
  obtain ⟨r, σ₁, hpage⟩ : ∃ r σ₁, σ.goToPage "c1" 2 (some 10) ⟨0, 0⟩ 0 = .ok (.ok r, σ₁) :=
    goToPage_ok_of_windowed hreg hm rfl (by norm_num) (hempty _) (Nat.not_lt_zero _)
  exact ⟨r, σ₁, hsound, hreg, hm, rfl, rfl, by decide, by decide, hpage,
    (consecutive_pages σ σ₁ "c1" m _ 2 10 r ⟨0, 0⟩ 0 hsound hreg hm rfl rfl (by decide)
      (by decide) hpage).2.2.2.2⟩

/-- Over 10002 hits, at pages of 10001: the first page asks from 0 and gets the 10000 hits a
request may carry, short of the end of the corpus, but the second page asks from 10001, so the
hit at 10000 is never shown. -/
theorem oversized_pages_skip_a_hit :
    let m : MemoryBackend := { corpus := MemoryBackend.numbered 10002 }
    let q : SearchQuery := { index := "logs", size := 0 }
    let σ : Session MemoryBackend :=
      { registry := { entries := [(⟨"c1", "c1", "mock://", false⟩, m)] },
        cache := ResultCache.empty 50, last := some ⟨"c1", q, 10002⟩,
        analyzer := default, history := QueryHistory.empty 100, streamBatch := 1000 }
    ∃ r σ₁, σ.goToPage "c1" 1 (some 10001) ⟨0, 0⟩ 0 = .ok (.ok r, σ₁) ∧
      r.hits.length = 10000 ∧ 0 + r.hits.length < m.corpus.length ∧
      σ₁.goToPage "c1" 2 (some 10001) ⟨0, 0⟩ 0 =
        σ₁.execute "c1" (q.withWindow 10001 10001) true ⟨0, 0⟩ 0 ∧
      10001 ≠ 0 + r.hits.length := by
  intro m q σ
  have hreg : σ.registry.get "c1" = .ok m := rfl
  have hm : m.Windowed := MemoryBackend.numbered_windowed (by norm_num)
  have hempty : ∀ key, σ.cache.find? key = none := ResultCache.find?_empty 50
  have hsound : σ.Sound := Sound.of_empty_cache hempty fun l hl => by
    cases hl
    exact ⟨Nat.two_pow_pos 64, rfl, fun s hs => by cases hs⟩
  obtain ⟨r, σ₁, hpage⟩ : ∃ r σ₁, σ.goToPage "c1" 1 (some 10001) ⟨0, 0⟩ 0 = .ok (.ok r, σ₁) :=
    goToPage_ok_of_windowed hreg hm rfl (by norm_num) (hempty _) (Nat.not_lt_zero _)
  obtain ⟨-, hhits, hlast₁⟩ := goToPage_windowed hsound hreg hm rfl hpage
  have hlen : r.hits.length = 10000 := by
    rw [hhits, MemoryBackend.served_of_no_cap rfl]
    simp [m, MemoryBackend.numbered, maxResultWindow]
  have hnext := goToPage_after hlast₁ "c1" 1 10001 ⟨0, 0⟩ 0
  rw [if_neg (by norm_num)] at hnext
  refine ⟨r, σ₁, hpage, hlen, ?_, hnext, ?_⟩
  · rw [hlen]
    simp [m, MemoryBackend.numbered]
  · rw [hlen]
    decide

end Session

end Sift
