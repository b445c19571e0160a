import Mathlib
import Sift.Proofs.SessionCalls
import Sift.Backend.Memory

/-!
# A preload fetches the page that the next page request runs

After a search of page `p` (its start `(p - 1) * s` for a page size `s > 0`), a preload and a
request for page `p + 1` reach the same window by different roads: the preload adds the size to
the recent start, the page request multiplies the page number less one by the size. They agree
on the window, and on when it is out of range (`nextWindow_eq`, `pageWindow_succ`).

So a preload fetches exactly when the next page fits, starts before the total and is not
cached; it stores the window that the page request looks up; and once it has stored it, the page
request is served from the cache with nothing sent (`Session.preload_serves_next_page`). The
page stays stored unless the cache has no room at all (`ResultCache.find?_insert_self`).
-/

namespace Sift

open Json Time

/-! ## Storing keeps what it stores -/

namespace ResultQueue

/-- Replacing the results of a key keeps where the key is first found, with the new result. -/
theorem find?_map_replace (items : List (String × SearchResult)) (key : String)
    (r : SearchResult) :
    (items.map fun e => if e.1 == key then (key, r) else e).find? (·.1 == key) =
      (items.find? (·.1 == key)).map fun _ => (key, r) := by
  induction items with
  | nil => rfl
  | cons x xs ih =>
    rw [List.map_cons, List.find?_cons, List.find?_cons]
    by_cases hx : (x.1 == key) = true
    · rw [if_pos hx, hx]
      simp
    · rw [if_neg hx]
      simp only [Bool.not_eq_true] at hx
      simp only [hx, ih]

/-- A queue with room for one result keeps the result just stored. -/
theorem lookup_insert_self (q : ResultQueue) (key : String) (r : SearchResult)
    (hroom : 0 < q.capacity) : (q.insert key r).lookup key = some r := by
  unfold insert lookup
  split
  · -- a queued key: its result is replaced where it stands
    rename_i hany
    obtain ⟨e, hfind⟩ := Option.isSome_iff_exists.1 (List.find?_isSome.2 (List.any_eq_true.1 hany))
    rw [find?_map_replace, hfind]
    rfl
  · -- a new key: the oldest results go, but never the newest one
    rename_i hany
    have hle : (q.items ++ [(key, r)]).length - q.capacity ≤ q.items.length := by
      simp only [List.length_append, List.length_singleton]
      omega
    have hnone : (q.items.drop ((q.items ++ [(key, r)]).length - q.capacity)).find?
        (·.1 == key) = none :=
      List.find?_eq_none.2 fun x hx hxkey =>
        hany (List.any_eq_true.2 ⟨x, List.mem_of_mem_drop hx, hxkey⟩)
    dsimp only
    rw [List.drop_append_of_le_length hle, List.find?_append, hnone]
    simp

end ResultQueue

namespace ResultCache

/-- A coherent cache with room for one result keeps the result just stored. -/
theorem find?_insert_self {c : ResultCache} (hc : c.Coherent) (hroom : 0 < c.capacity)
    (key : String) (r : SearchResult) : (c.insert key r).find? key = some r := by
  obtain ⟨hcoh, hqueue⟩ := insert_refines hc key r
  rw [← hcoh.lookup_toQueue key, hqueue]
  exact ResultQueue.lookup_insert_self _ key r hroom

/-- A key that was not held before storing, and is held after, holds the stored result. -/
theorem find?_insert_new {c : ResultCache} {key : String} {r : SearchResult}
    (hnew : c.contains key = false) (hheld : (c.insert key r).contains key = true) :
    (c.insert key r).find? key = some r := by
  obtain ⟨v, hv⟩ := Option.isSome_iff_exists.1 ((contains_eq_isSome_find? _ _).symm.trans hheld)
  rcases find?_insert hv with ⟨-, rfl⟩ | hold
  · exact hv
  · rw [contains_eq_isSome_find?, hold] at hnew
    cases hnew

end ResultCache

/-! ## Two roads to the next window -/

/-- The start after page `p` is `p` times the size. -/
theorem SearchQuery.from_add_size {q : SearchQuery} {p : Nat} (hp : 1 ≤ p)
    (hfrom : q.from = (p - 1) * q.size) : q.from + q.size = p * q.size := by
  rw [hfrom]
  obtain ⟨k, rfl⟩ := Nat.exists_eq_add_of_le hp
  simp only [Nat.add_sub_cancel_left, Nat.add_mul, Nat.one_mul]
  omega

namespace LastSearch

variable {last : LastSearch} {p : Nat}

/-- The next page a preload computes: the window after the recent one, when it fits, the page is
not empty, and it starts before the total. -/
theorem nextWindow_eq (hsize : 0 < last.query.size) (hp : 1 ≤ p)
    (hfrom : last.query.from = (p - 1) * last.query.size) :
    last.next? =
      if p * last.query.size < 2 ^ 64 ∧ p * last.query.size < last.total then
        some (last.query.withWindow (p * last.query.size) last.query.size)
      else none := by
  have hnext := SearchQuery.from_add_size hp hfrom
  unfold next?
  dsimp only
  rw [hnext]
  have hpow : Nat.pow 2 64 = 2 ^ 64 := rfl
  by_cases hfit : p * last.query.size < 2 ^ 64 ∧ p * last.query.size < last.total
  · rw [if_neg (by omega), if_pos hfit]
  · rw [if_pos (by omega), if_neg hfit]

/-- The page after page `p`, at the recent size: its window starts at `p` times the size. -/
theorem pageWindow_succ (p : Nat) :
    last.pageWindow (p + 1) none =
      if 2 ^ 64 ≤ p * last.query.size then .error (.invalidPage (p + 1))
      else .ok (last.query.withWindow (p * last.query.size) last.query.size) := by
  unfold pageWindow
  rfl

end LastSearch

/-! ## The preload and the page request -/

namespace Session

variable {β : Type} [SearchBackend β]

/-- A preload reports a fetch exactly when it has a page to fetch. -/
theorem preload_fst (s : Session β) (c : String) :
    (s.preload c).1 = (s.nextPage? c).isSome := by
  rw [preload_eq]
  cases s.nextPage? c with
  | none => rfl
  | some q =>
      dsimp only
      split <;> rfl

/-- A preload leaves the most recent search alone. -/
theorem preload_last (s : Session β) (c : String) : (s.preload c).2.last = s.last := by
  rw [preload_eq]
  cases s.nextPage? c with
  | none => rfl
  | some q =>
      simp only [send_eq]
      cases s.registry.answer c q <;> rfl

/-- A preload that fetched a page stores the backend's answer under the page's key. -/
theorem preload_of_answer_ok {q : SearchQuery} {r : SearchResult} (s : Session β) (c : String)
    (hnext : s.nextPage? c = some q) (hans : s.registry.answer c q = .ok r) :
    (s.preload c).2 = { s with sent := s.sent ++ s.registry.searchRequests c q,
                               cache := s.cache.insert (q.cacheKey c) r } := by
  simp only [preload_eq, hnext, send_eq, hans]

variable {s : Session β} {c₀ : String} {q : SearchQuery} {total : Nat}

/-- The request for the page after page `p` of the most recent search, at its size: an invalid
page when its start leaves 64 bits, and otherwise the cached search of its window. -/
theorem goToPage_succ (hlast : s.last = some ⟨c₀, q, total⟩) (c : String) (p : Nat)
    (now : Instant) (elapsed : Nat) :
    s.goToPage c (p + 1) none now elapsed =
      if 2 ^ 64 ≤ p * q.size then .ok (.error (.invalidPage (p + 1)), s)
      else s.execute c (q.withWindow (p * q.size) q.size) true now elapsed := by
  rw [goToPage_eq, hlast]
  dsimp only
  rw [LastSearch.pageWindow_succ]
  by_cases hover : 2 ^ 64 ≤ p * q.size
  · simp only [if_pos hover]
  · simp only [if_neg hover]

omit [SearchBackend β] in
/-- After page `p` of the most recent search at a positive size, the page a preload would fetch:
the window at `p` times the size, when it fits in 64 bits, starts before the total and is not
cached. -/
theorem nextPage?_succ {p : Nat} (hlast : s.last = some ⟨c₀, q, total⟩) (hsize : 0 < q.size)
    (hp : 1 ≤ p) (hfrom : q.from = (p - 1) * q.size) (c : String) :
    s.nextPage? c =
      if p * q.size < 2 ^ 64 ∧ p * q.size < total ∧
          s.cache.contains ((q.withWindow (p * q.size) q.size).cacheKey c) = false then
        some (q.withWindow (p * q.size) q.size) else none := by
  have hnext : (s.last.bind LastSearch.next?) =
      if p * q.size < 2 ^ 64 ∧ p * q.size < total then
        some (q.withWindow (p * q.size) q.size) else none := by
    rw [hlast]
    exact @LastSearch.nextWindow_eq ⟨c₀, q, total⟩ p hsize hp hfrom
  rw [nextPage?_eq, hnext]
  by_cases hfit : p * q.size < 2 ^ 64 ∧ p * q.size < total
  · rw [if_pos hfit, Option.bind_some]
    by_cases hheld : s.cache.contains ((q.withWindow (p * q.size) q.size).cacheKey c) = true
    · rw [if_pos hheld, if_neg fun h => by rw [hheld] at h; exact Bool.noConfusion h.2.2]
    · rw [if_neg hheld, if_pos ⟨hfit.1, hfit.2, Bool.eq_false_iff.2 hheld⟩]
  · rw [if_neg hfit, if_neg fun h => hfit ⟨h.1, h.2.1⟩]
    rfl

omit [SearchBackend β] in
/-- The same, as the condition for one page. -/
theorem nextPage?_succ_eq_some {p : Nat} (hlast : s.last = some ⟨c₀, q, total⟩)
    (hsize : 0 < q.size) (hp : 1 ≤ p) (hfrom : q.from = (p - 1) * q.size) {c : String}
    {w : SearchQuery} :
    s.nextPage? c = some w ↔ w = q.withWindow (p * q.size) q.size ∧ p * q.size < 2 ^ 64 ∧
      p * q.size < total ∧
        s.cache.contains ((q.withWindow (p * q.size) q.size).cacheKey c) = false := by
  rw [nextPage?_succ hlast hsize hp hfrom]
  split
  · rename_i hfetch
    rw [Option.some.injEq]
    exact ⟨fun hw => ⟨hw.symm, hfetch⟩, fun hw => hw.1.symm⟩
  · rename_i hfetch
    exact ⟨fun hw => (by cases hw), fun hw => absurd hw.2 hfetch⟩

/-- After a search of page `p` at a page size `s > 0`, a preload and a request for page `p + 1`
agree. The preload fetches exactly when `p * s` fits in 64 bits, is below the total, and the
cache does not hold the window at `p * s`; that window is what it fetches and what the page
request runs. Once the preload has stored the page, and while the cache still holds it, the page
request serves the stored result with nothing sent and makes that page the most recent search;
the cache holds it when it is coherent and has room. Adding the size to the recent start leaves
64 bits exactly when `p * s` does, and then the page request fails as an invalid page with
nothing changed. -/
theorem preload_serves_next_page (s : Session β) (c c₀ : String) (q : SearchQuery)
    (total p : Nat) (now : Instant) (elapsed : Nat) (hlast : s.last = some ⟨c₀, q, total⟩)
    (hsize : 0 < q.size) (hp : 1 ≤ p) (hfrom : q.from = (p - 1) * q.size) :
    ((s.preload c).1 = true ↔ p * q.size < 2 ^ 64 ∧ p * q.size < total ∧
        s.cache.contains ((q.withWindow (p * q.size) q.size).cacheKey c) = false) ∧
    (∀ w, s.nextPage? c = some w → w = q.withWindow (p * q.size) q.size ∧
        s.goToPage c (p + 1) none now elapsed = s.execute c w true now elapsed) ∧
    (∀ r, (s.preload c).1 = true →
      s.registry.answer c (q.withWindow (p * q.size) q.size) = .ok r →
      ((s.preload c).2.cache.contains ((q.withWindow (p * q.size) q.size).cacheKey c) = true →
        (s.preload c).2.goToPage c (p + 1) none now elapsed =
          .ok (.ok r, ({ (s.preload c).2 with
            cache := { (s.preload c).2.cache with hits := (s.preload c).2.cache.hits + 1 } } :
              Session β).remember c (q.withWindow (p * q.size) q.size) r.total)) ∧
      (s.cache.Coherent → 0 < s.cache.capacity →
        (s.preload c).2.cache.contains ((q.withWindow (p * q.size) q.size).cacheKey c) = true)) ∧
    (2 ^ 64 ≤ q.from + q.size ↔ 2 ^ 64 ≤ p * q.size) ∧
    (2 ^ 64 ≤ p * q.size →
      s.goToPage c (p + 1) none now elapsed = .ok (.error (.invalidPage (p + 1)), s)) := by
  have hpage := goToPage_succ hlast c p now elapsed
  have hwindow := @nextPage?_succ_eq_some β s c₀ q total p hlast hsize hp hfrom c
  refine ⟨?fetches, ?window, ?served, ?overflow, ?invalid⟩
  case fetches =>
    rw [preload_fst, Option.isSome_iff_exists]
    constructor
    · rintro ⟨w, hw⟩
      exact (hwindow.1 hw).2
    · intro hfetch
      exact ⟨_, hwindow.2 ⟨rfl, hfetch⟩⟩
  case window =>
    intro w hw
    obtain ⟨rfl, hfit, -⟩ := hwindow.1 hw
    refine ⟨rfl, ?_⟩
    rw [hpage, if_neg (by omega)]
  case served =>
    intro r hfetched hans
    obtain ⟨w, hw⟩ := Option.isSome_iff_exists.1 ((preload_fst s c).symm.trans hfetched)
    obtain ⟨rfl, hfit, -, hwas⟩ := hwindow.1 hw
    have hstored := preload_of_answer_ok s c hw hans
    refine ⟨fun hheld => ?_, fun hcoh hroom => ?_⟩
    · rw [goToPage_succ ((preload_last s c).trans hlast) c p now elapsed, if_neg (by omega),
        execute_eq]
      -- the page was new, so what the cache holds under its key is what the preload stored
      rw [hstored] at hheld ⊢
      rw [lookup_hit rfl (ResultCache.find?_insert_new hwas hheld)]
    · rw [hstored, ResultCache.contains_eq_isSome_find?, ResultCache.find?_insert_self hcoh hroom]
      rfl
  case overflow =>
    rw [SearchQuery.from_add_size hp hfrom]
  case invalid =>
    intro hover
    rw [hpage, if_pos hover]

/-- After a first page of ten of twenty-five hits, a preload fetches the second page exactly
when the cache does not hold it. -/
theorem preload_serves_second_page :
    let s : Session MemoryBackend :=
      { registry := {}, cache := ResultCache.empty 50,
        last := some ⟨"c1", { index := "logs", size := 10 }, 25⟩, analyzer := default,
        history := QueryHistory.empty 100, streamBatch := 1000 }
    s.last = some ⟨"c1", { index := "logs", size := 10 }, 25⟩ ∧ 0 < 10 ∧ 1 ≤ 1 ∧
      (0 : Nat) = (1 - 1) * 10 ∧
      ((s.preload "c1").1 = true ↔ 1 * 10 < 2 ^ 64 ∧ 1 * 10 < 25 ∧
        s.cache.contains (({ index := "logs", size := 10 } : SearchQuery).withWindow (1 * 10)
          10 |>.cacheKey "c1") = false) := by
  intro s
  exact ⟨rfl, by decide, le_rfl, rfl,
    (preload_serves_next_page s "c1" "c1" { index := "logs", size := 10 } 25 1 ⟨0, 0⟩ 0 rfl
      (by decide) le_rfl rfl).1⟩

end Session

end Sift
