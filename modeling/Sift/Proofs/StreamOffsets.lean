import Mathlib
import Sift.Proofs.StreamPages

/-!
# Where each page of a stream starts

A stream asks for each page from the query's start moved by the hits returned before it. The
start is a machine word, so the move is taken modulo `2^64` (`streamRequest`). Every request is
sent below the limit, so the hits returned before it stay below the limit too. Hence when the
query's start plus the limit is at most `2^64` (an absent `max_results` counts as `2^64 - 1`),
no start ever passes `2^64 - 1`. Each request then asks from exactly the query's start plus the
hits returned before it (`executeStream_offsets_exact`).

Nothing else stops the sum. Suppose a backend answers every request with a full page. Then the
stream goes on until the limit, page after page, whatever the start (`StreamLog.of_fullPages`).
From two below `2^64`, the second page asks from `0` (`executeStream_goes_on_past_wrap`).
-/

namespace Sift

open Json

variable {β : Type} [SearchBackend β]

/-- The hits that the requests before the `i`-th of a run brought. -/
def hitsBefore (b : β) (reqs : List Request) (i : Nat) : Nat :=
  ((reqs.take i).flatMap (·.pageHits b)).length

theorem hitsBefore_zero (b : β) (reqs : List Request) : hitsBefore b reqs 0 = 0 := by
  simp [hitsBefore]

theorem hitsBefore_cons_succ (b : β) (r : Request) (rest : List Request) (i : Nat) :
    hitsBefore b (r :: rest) (i + 1) = (r.pageHits b).length + hitsBefore b rest i := by
  simp [hitsBefore]

variable {b : β} {q : SearchQuery} {p limit : Nat}

/-- The `i`-th request of a run asks for the window after the hits the earlier ones returned,
and it is sent below the limit. -/
theorem StreamLog.request_eq : ∀ {before : Nat} {reqs : List Request},
    StreamLog b q p limit before reqs → ∀ i (hi : i < reqs.length),
      reqs[i] = streamRequest q p limit (before + hitsBefore b reqs i) ∧
        before + hitsBefore b reqs i < limit
  | _, [], _, i, hi => absurd hi (Nat.not_lt_zero i)
  | before, r :: rest, hlog, i, hi => by
    obtain ⟨-, hlim, rfl, -, hl⟩ := hlog
    cases i with
    | zero => simpa [hitsBefore_zero] using hlim
    | succ i =>
      -- the rest of the run starts after the first page's hits
      obtain ⟨hreq, hbelow⟩ := StreamLog.request_eq hl i (by simpa using hi)
      rw [hitsBefore_cons_succ, ← Nat.add_assoc]
      exact ⟨by simpa using hreq, hbelow⟩

/-- Streams whose start fits the limit never wrap: when the query's start plus the limit is at
most `2^64`, the `i`-th request asks from exactly the query's start plus the hits returned before
it, which is at most `2^64 - 1`. It asks for the capped page size or what is left below the
limit, whatever the backend answers. -/
theorem executeStream_offsets_exact (b : β) (q : SearchQuery) (hq : q.from < 2 ^ 64)
    (pageSize : Nat) (maxResults : Option Nat)
    (hfit : q.from + maxResults.getD (2 ^ 64 - 1) ≤ 2 ^ 64) :
    let reqs := (executeStream b q pageSize maxResults).run.2
    ∀ i (hi : i < reqs.length), q.from + hitsBefore b reqs i < 2 ^ 64 ∧
      reqs[i] = (q.withWindow (q.from + hitsBefore b reqs i)
        (min (min pageSize maxResultWindow)
          (maxResults.getD (2 ^ 64 - 1) - hitsBefore b reqs i))).request := by
  obtain ⟨reqs, hexec, -, hlog⟩ := executeStream_log b hq pageSize maxResults
  dsimp only
  rw [hexec]
  intro i hi
  obtain ⟨hreq, hbelow⟩ := hlog.request_eq i hi
  rw [Nat.zero_add] at hreq hbelow
  -- the hits before a request stay below the limit, so the sum stays below `2^64`
  have hlt : q.from + hitsBefore b reqs i < 2 ^ 64 := by omega
  refine ⟨hlt, ?_⟩
  rw [hreq, streamRequest, Nat.mod_eq_of_lt hlt]

/-- From `2^64 - 4`, pages of two under a bound of four, through a backend that answers two hits
each time: the bound fits below `2^64`, so every page asks from the start plus the hits before
it. -/
theorem executeStream_offsets_exact_near_top :
    let b : MemoryBackend :=
      { overrides := [("hits", .obj [("hits",
          .arr [.obj [("a", Json.nat 1)], .obj [("a", Json.nat 2)]])])] }
    let q : SearchQuery := { index := "logs", «from» := 2 ^ 64 - 4 }
    q.from < 2 ^ 64 ∧ q.from + (some 4).getD (2 ^ 64 - 1) ≤ 2 ^ 64 ∧
      let reqs := (executeStream b q 2 (some 4)).run.2
      ∀ i (hi : i < reqs.length), q.from + hitsBefore b reqs i < 2 ^ 64 ∧
        reqs[i] = (q.withWindow (q.from + hitsBefore b reqs i)
          (min (min 2 maxResultWindow)
            ((some 4).getD (2 ^ 64 - 1) - hitsBefore b reqs i))).request :=
  ⟨by decide, by decide, executeStream_offsets_exact _ _ (by decide) 2 (some 4) (by decide)⟩

/-- A backend that answers every search with a page of `n` hits. -/
def AnswersFullPages (b : β) (n : Nat) : Prop :=
  ∀ r : Request, ∃ page, r.answer b = .ok page ∧ page.hits.length = n

/-- Over a backend whose every page holds `n` hits, a run that asks for pages of `n` goes on
until the limit: `m` pages below a limit `m * n` hits away, the `i`-th asking for the window
`i * n` hits on. -/
theorem StreamLog.of_fullPages {n : Nat} (hb : AnswersFullPages b n) (hn : 0 < n) :
    ∀ (m before : Nat) {reqs : List Request}, before + m * n = limit →
      StreamLog b q n limit before reqs → (reqs = [] ↔ m = 0) →
      reqs = (List.range m).map fun i => streamRequest q n limit (before + i * n)
  | 0, _, reqs, _, _, hnil => by simpa using hnil
  | m + 1, before, [], _, _, hnil => by simp at hnil
  | m + 1, before, r :: rest, hlimit, hlog, _ => by
    obtain ⟨-, -, rfl, hcont, hl⟩ := hlog
    obtain ⟨page, hans, hlen⟩ := hb (streamRequest q n limit before)
    rw [pageHits_of_answer hans, hlen] at hl
    -- a full page goes on exactly when it leaves room below the limit
    have hrest : rest = [] ↔ m = 0 := by
      rw [← not_iff_not, ← ne_eq, hcont, streamContinues_iff_of_answer hans, hlen]
      constructor
      · rintro ⟨-, hbelow⟩ rfl
        omega
      · intro hm
        have : 0 < m * n := Nat.mul_pos (Nat.pos_of_ne_zero hm) hn
        refine ⟨Nat.min_le_left _ _, ?_⟩
        rw [← hlimit, Nat.succ_mul]
        omega
    have hnext : before + n + m * n = limit := by rw [← hlimit, Nat.succ_mul]; omega
    rw [StreamLog.of_fullPages hb hn m (before + n) hnext hl hrest, List.range_succ_eq_map,
      List.map_cons, List.map_map]
    refine List.cons_eq_cons.mpr ⟨by rw [Nat.zero_mul, Nat.add_zero], ?_⟩
    refine List.map_congr_left fun i _ => ?_
    rw [Function.comp_apply, Nat.succ_mul, Nat.add_assoc, Nat.add_comm n]

/-- Past the last start below `2^64` a stream goes on. From `2^64 - 2`, pages of two through a
backend that answers two hits each time: the first page brings the sum to `2^64`, and the stream
neither stops nor fails. It asks again from `0`, then from `2`, the start wrapped around, until
six hits are gathered. -/
theorem executeStream_goes_on_past_wrap :
    let b : MemoryBackend :=
      { overrides := [("hits", .obj [("hits",
          .arr [.obj [("a", Json.nat 1)], .obj [("a", Json.nat 2)]])])] }
    let q : SearchQuery := { index := "logs", «from» := 2 ^ 64 - 2 }
    q.from + 2 > 2 ^ 64 - 1 ∧
      (executeStream b q 2 (some 6)).run.2 =
        [(q.withWindow (2 ^ 64 - 2) 2).request, (q.withWindow 0 2).request,
          (q.withWindow 2 2).request] := by
  intro b q
  -- every page holds the two hits that replace the response's own
  have hfull : AnswersFullPages b 2 := by
    intro r
    refine ⟨_, rfl, ?_⟩
    simp [b, normalize, MemoryBackend.respond, Json.set, Json.object, Json.getPath?, get?_obj,
      lookup_insertSorted, lookup_cons_ite, Json.asArray?]
  obtain ⟨reqs, hrun, hnil, hlog⟩ := streamPages_start b (q := q) (by decide) 2 6 7 (by decide)
  have hexec : (executeStream b q 2 (some 6)).run = (streamPages b q 2 6 7 q.from {}).run := rfl
  refine ⟨by norm_num [q], ?_⟩
  rw [hexec, hrun]
  -- three full pages reach the limit of six
  have hreqs := StreamLog.of_fullPages hfull (by decide) 3 0 (by decide) hlog (by simpa using hnil)
  rw [hreqs]
  have h₀ : (q.from + (0 + 0 * 2)) % 2 ^ 64 = 2 ^ 64 - 2 := by norm_num [q]
  have h₁ : (q.from + (0 + 1 * 2)) % 2 ^ 64 = 0 := by norm_num [q]
  have h₂ : (q.from + (0 + 2 * 2)) % 2 ^ 64 = 2 := by norm_num [q]
  simp only [List.range_succ, List.range_zero, List.nil_append, List.cons_append, List.map_cons,
    List.map_nil, streamRequest, h₀, h₁, h₂]
  rfl

end Sift
