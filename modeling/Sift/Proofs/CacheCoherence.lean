import Mathlib
import Sift.Proofs.SessionBooks
import Sift.Proofs.CacheKey
import Sift.Backend.Memory

/-!
# The cache agrees with the backends

A search served from the cache gets what its connection's backend answers it, in every
interleaving of the session's operations and of the prefetch tasks they spawn. Nothing writes
the registry, and a backend's answer depends only on the connection, the index and the body, so
this comes down to an invariant of the session, `Session.Sound`: the entry under the key of a
well-formed search is the answer to it, and the most recent search is well formed. A search on a
sound session gets the answer, from the cache or not (`Session.Sound.execute_answer`).

Every writer of the cache keeps it. A search stores what the backend has just answered it, and a
prefetch task what the backend answered its page; a page is well formed, as it is read off a
well-formed most recent search with a start below `2^64`. Keys of well-formed searches are equal
only for the same connection, index and body, so a stored entry answers every search that shares
its key. Lookups, eviction and resets only count or drop entries.

Each operation in flight carries what it holds (`Stage.Sound`): its search is well formed, and a
result it holds is the answer to it. One step keeps the invariant (`Stage.step_keeps`), so a run
does (`World.Run.sound`), and every search served in a run, from the cache or from the backend,
gets what a search that skips the cache gets (`World.served_searches_agree`).
-/

namespace Sift

open Json Time

variable {β : Type} [SearchBackend β]

/-! ## Well-formed searches and their pages -/

namespace SearchQuery

/-- Well-formed searches that share a key make the same request on the same connection. -/
theorem sameRequest_of_cacheKey_eq {c₁ c₂ : String} {q₁ q₂ : SearchQuery} (h₁ : q₁.Wellformed)
    (h₂ : q₂.Wellformed) (h : q₁.cacheKey c₁ = q₂.cacheKey c₂) :
    c₁ = c₂ ∧ q₁.index = q₂.index ∧ q₁.requestBody = q₂.requestBody := by
  obtain ⟨hc, hidx, hquery, hsort, hfrom, hsize⟩ :=
    keyItems_eq_iff.1 (Json.arr.inj (Json.compact_inj (h₁.finite_key c₁) (h₂.finite_key c₂) h))
  exact ⟨hc, hidx, requestBody_eq_iff.2 ⟨hfrom, hquery, hsize, hsort⟩⟩

/-- Another window of a well-formed search, starting below `2^64`, is well formed. -/
theorem Wellformed.withWindow {q : SearchQuery} (hq : q.Wellformed) {start : Nat} (size : Nat)
    (h : start < 2 ^ 64) : (q.withWindow start size).Wellformed :=
  ⟨h, hq.query_finite, hq.sort_finite⟩

end SearchQuery

namespace LastSearch

variable {last : LastSearch} {w : SearchQuery}

/-- A valid page of a well-formed search is well formed. -/
theorem pageWindow_wellformed (hl : last.query.Wellformed) {n : Nat} {pageSize : Option Nat}
    (h : last.pageWindow n pageSize = .ok w) : w.Wellformed := by
  unfold pageWindow at h
  dsimp only at h
  split at h
  · cases h
  · rename_i hfit
    cases h
    exact hl.withWindow _ (Nat.lt_of_not_le hfit)

/-- The page after a well-formed search is well formed. -/
theorem next?_wellformed (hl : last.query.Wellformed) (h : last.next? = some w) :
    w.Wellformed := by
  unfold next? at h
  dsimp only at h
  split at h
  · cases h
  · rename_i hfit
    cases h
    exact hl.withWindow _ (Nat.lt_of_not_le (not_or.1 hfit).1)

end LastSearch

/-! ## The invariant -/

/-- A well-formed search on a connection whose backend answers it with `r`. -/
structure Registry.Answers (reg : Registry β) (c : String) (q : SearchQuery) (r : SearchResult) :
    Prop where
  wellformed : q.Wellformed
  answer : reg.answer c q = .ok r

namespace Session

/-- A session whose cache holds only answers: the entry under the key of a well-formed search is
what the search's connection answers it. The most recent search is well formed, so the pages
read off it are too. -/
structure Sound (s : Session β) : Prop where
  cache : ∀ c q r, q.Wellformed → s.cache.find? (q.cacheKey c) = some r →
    s.registry.answer c q = .ok r
  last : ∀ l, s.last = some l → l.query.Wellformed

variable {s s' : Session β} {c : String} {q : SearchQuery} {r : SearchResult}

/-- A session with the same registry and entries is sound when its most recent search is well
formed. -/
theorem Sound.frame (hs : s.Sound) (hreg : s'.registry = s.registry)
    (hcache : s'.cache.entries = s.cache.entries)
    (hlast : ∀ l, s'.last = some l → l.query.Wellformed) : s'.Sound := by
  refine ⟨fun c q r hq hr => ?_, hlast⟩
  rw [hreg]
  apply hs.cache c q r hq
  unfold ResultCache.find? at hr ⊢
  rwa [hcache] at hr

/-- Storing an answer under its search's key keeps the session sound. -/
theorem Sound.insert (hs : s.Sound) (hans : s.registry.Answers c q r) :
    ({ s with cache := s.cache.insert (q.cacheKey c) r } : Session β).Sound := by
  refine ⟨fun c' q' r' hq' hr' => ?_, hs.last⟩
  rcases ResultCache.find?_insert hr' with ⟨hkey, rfl⟩ | hold
  · -- a well-formed search under the new key makes the stored search's request
    obtain ⟨rfl, hindex, hbody⟩ := SearchQuery.sameRequest_of_cacheKey_eq hq' hans.wellformed hkey
    rw [Registry.answer_congr _ _ hindex hbody]
    exact hans.answer
  · exact hs.cache c' q' r' hq' hold

theorem Sound.store (hs : s.Sound) (hans : s.registry.Answers c q r) (u : Bool) :
    (s.store (q.cacheKey c) u r).Sound := by
  cases u with
  | false => exact hs
  | true => exact hs.insert hans

theorem Sound.remember (hs : s.Sound) (hq : q.Wellformed) (total : Nat) :
    (s.remember c q total).Sound :=
  hs.frame rfl rfl fun l hl => by
    cases hl
    exact hq

theorem Sound.sent (hs : s.Sound) (requests : List (String × Request)) :
    ({ s with sent := s.sent ++ requests } : Session β).Sound :=
  hs.frame rfl rfl hs.last

/-- Talking to a backend directly keeps the registry and a sound session: it only logs
requests. -/
theorem Sound.withBackend {α : Type} (hs : s.Sound) (c : String) (x : β → Exchange α) :
    (s.withBackend c x).2.registry = s.registry ∧ (s.withBackend c x).2.Sound := by
  obtain ⟨requests, h⟩ := withBackend_frame s c x
  rw [h]
  exact ⟨rfl, hs.sent requests⟩

omit [SearchBackend β] in
/-- A lookup changes only the counters, and what it finds is in the cache. -/
theorem lookup_frame {key : String} {u : Bool} {hit : Option SearchResult}
    (h : s.lookup key u = (hit, s')) :
    s'.registry = s.registry ∧ s'.cache.entries = s.cache.entries ∧ s'.last = s.last ∧
      ∀ r, hit = some r → s.cache.find? key = some r := by
  cases hfind : s.cache.find? key with
  | none =>
      rw [lookup_miss fun _ => hfind] at h
      obtain ⟨rfl, rfl⟩ := Prod.mk.inj h
      exact ⟨rfl, rfl, rfl, fun r hr => by cases hr⟩
  | some found =>
      cases u with
      | false =>
          rw [lookup_miss fun hu => by cases hu] at h
          obtain ⟨rfl, rfl⟩ := Prod.mk.inj h
          exact ⟨rfl, rfl, rfl, fun r hr => by cases hr⟩
      | true =>
          rw [lookup_hit rfl hfind] at h
          obtain ⟨rfl, rfl⟩ := Prod.mk.inj h
          exact ⟨rfl, rfl, rfl, fun r hr => hr ▸ rfl⟩

end Session

theorem ResultCache.find?_clear (c : ResultCache) (key : String) : c.clear.find? key = none := by
  simp [clear, find?]

/-! ## One step -/

namespace Stage

/-- What an operation in flight holds: the search it makes is well formed, and a result it holds
is the answer to it. -/
def Sound (reg : Registry β) : Stage → Prop
  | .lookup _ q _ | .send _ q _ | .probe _ q | .prefetch _ q => q.Wellformed
  | .hit c q r | .store c q _ r | .record c q r | .prefill c q r => reg.Answers c q r
  | _ => True

/-- What a step from a sound session by a sound operation leaves: the same registry, a sound
session, operations that hold only answers, and a served search that is answered as served. -/
structure Keeps (s s' : Session β) (rest : List Stage) (out : Option Served) : Prop where
  registry : s'.registry = s.registry
  session : s'.Sound
  rest : ∀ st ∈ rest, st.Sound s.registry
  served : ∀ v, out = some v → s.registry.Answers v.connection v.query v.result

variable {s s' : Session β} {rest : List Stage} {out : Option Served} {now : Instant}
  {elapsed : Nat}

/-- A step that serves nothing, spawns nothing and keeps the registry and a sound session. -/
theorem Keeps.quiet (hreg : s'.registry = s.registry) (hs' : s'.Sound) : Keeps s s' [] none :=
  ⟨hreg, hs', fun _ h => (by cases h), fun _ h => (by cases h)⟩

/-- A step that hands one operation on and serves nothing. -/
theorem Keeps.next {st : Stage} (hreg : s'.registry = s.registry) (hs' : s'.Sound)
    (hst : st.Sound s.registry) : Keeps s s' [st] none :=
  ⟨hreg, hs', fun st' h => (by rw [List.mem_singleton.1 h]; exact hst), fun _ h => (by cases h)⟩

/-- A step that ends a search and serves it. -/
theorem Keeps.serve {c : String} {q : SearchQuery} {r : SearchResult}
    (hreg : s'.registry = s.registry) (hs' : s'.Sound) (hans : s.registry.Answers c q r) :
    Keeps s s' [] (some ⟨c, q, r⟩) :=
  ⟨hreg, hs', fun _ h => (by cases h), fun v h => (by cases h; exact hans)⟩

/-- What a step gives, read off the equation that it gives it. -/
theorem Keeps.of_ok {s₁ : Session β} {rest₁ : List Stage} {out₁ : Option Served}
    (h : (Except.ok (s₁, rest₁, out₁) : Except Fault (Session β × List Stage × Option Served)) =
      .ok (s', rest, out)) (hk : Keeps s s₁ rest₁ out₁) : Keeps s s' rest out := by
  simp only [Except.ok.injEq, Prod.mk.injEq] at h
  obtain ⟨rfl, rfl, rfl⟩ := h
  exact hk

/-- A search's send, and a prefetch task's fetch: the backend's answer is held next. -/
theorem keeps_send {c : String} {q : SearchQuery} (hs : s.Sound) (hq : q.Wellformed)
    (next : SearchResult → Stage)
    (hnext : ∀ r, s.registry.Answers c q r → (next r).Sound s.registry)
    (h : (match s.send c q with
      | (.ok r, s) => Except.ok (s, [next r], none)
      | (.error _, s) => .ok (s, [], none) :
        Except Fault (Session β × List Stage × Option Served)) = .ok (s', rest, out)) :
    Keeps s s' rest out := by
  rw [Session.send_eq] at h
  cases hans : s.registry.answer c q with
  | error e =>
      rw [hans] at h
      exact .of_ok h <| .quiet rfl (hs.sent _)
  | ok r =>
      rw [hans] at h
      exact .of_ok h <| .next rfl (hs.sent _) (hnext r ⟨hq, hans⟩)

/-- One step from a sound session by a sound operation keeps everything sound. -/
theorem step_keeps {st : Stage} (hs : s.Sound) (hst : st.Sound s.registry)
    (h : st.step s now elapsed = .ok (s', rest, out)) : Keeps s s' rest out := by
  cases st with
  | lookup c q u =>
      simp only [step] at h
      split at h
      · rename_i r s₁ hlook
        obtain ⟨hreg, hentries, hlast, hfound⟩ := Session.lookup_frame hlook
        -- a hit is an entry, so it is the answer
        have hans : s.registry.Answers c q r := ⟨hst, hs.cache c q r hst (hfound r rfl)⟩
        exact .of_ok h <| .next hreg (hs.frame hreg hentries (hlast ▸ hs.last)) hans
      · rename_i s₁ hlook
        obtain ⟨hreg, hentries, hlast, -⟩ := Session.lookup_frame hlook
        exact .of_ok h <| .next hreg (hs.frame hreg hentries (hlast ▸ hs.last)) hst
  | hit c q r =>
      simp only [step] at h
      exact .of_ok h <| .serve rfl (hs.remember hst.wellformed _) hst
  | send c q u =>
      exact keeps_send hs hst (fun r => .store c q u r) (fun _ hans => hans) h
  | store c q u r =>
      simp only [step] at h
      exact .of_ok h <| .next (by cases u <;> rfl) (hs.store hst u) (by cases u <;> exact hst)
  | record c q r =>
      simp only [step] at h
      cases hrec : s.recordSearch c q r now elapsed with
      | error f =>
          rw [hrec] at h
          cases h
      | ok s₁ =>
          rw [hrec] at h
          simp only [Except.map, Except.ok.injEq, Prod.mk.injEq] at h
          obtain ⟨rfl, rfl, rfl⟩ := h
          -- recording changes the books and the most recent search, never the cache
          have hframe := Session.recordSearch_frame hrec
          have hreg : s₁.registry = s.registry := by rw [hframe]
          refine .serve hreg (hs.frame hreg (by rw [hframe]) fun l hl => ?_) hst
          rw [hframe] at hl
          cases hl
          exact hst.wellformed
  | page c n pageSize =>
      simp only [step] at h
      cases hlast : s.last with
      | none =>
          simp only [hlast] at h
          exact .of_ok h <| .quiet rfl hs
      | some last =>
          simp only [hlast] at h
          cases hwin : last.pageWindow n pageSize with
          | error e =>
              simp only [hwin] at h
              exact .of_ok h <| .quiet rfl hs
          | ok w =>
              simp only [hwin] at h
              exact .of_ok h <|
                .next rfl hs (LastSearch.pageWindow_wellformed (hs.last last hlast) hwin)
  | preload c =>
      simp only [step] at h
      cases hnext : s.last.bind LastSearch.next? with
      | none =>
          simp only [hnext] at h
          exact .of_ok h <| .quiet rfl hs
      | some w =>
          simp only [hnext] at h
          obtain ⟨last, hlast, hw⟩ := Option.bind_eq_some_iff.1 hnext
          exact .of_ok h <| .next rfl hs (LastSearch.next?_wellformed (hs.last last hlast) hw)
  | probe c q =>
      simp only [step] at h
      split at h
      · exact .of_ok h <| .quiet rfl hs
      · exact .of_ok h <| .next rfl hs hst
  | prefetch c q =>
      exact keeps_send hs hst (fun r => .prefill c q r) (fun _ hans => hans) h
  | prefill c q r =>
      simp only [step] at h
      exact .of_ok h <| .quiet rfl (hs.insert hst)
  | stream c q pageSize maxResults =>
      simp only [step] at h
      exact .of_ok h <| .quiet (hs.withBackend c _).1 (hs.withBackend c _).2
  | aggregate c index query specs size =>
      simp only [step] at h
      exact .of_ok h <| .quiet (hs.withBackend c _).1 (hs.withBackend c _).2
  | fields c index =>
      simp only [step] at h
      exact .of_ok h <| .quiet (hs.withBackend c _).1 (hs.withBackend c _).2
  | clear =>
      simp only [step] at h
      refine .of_ok h <| .next rfl ⟨fun c q r _ hr => ?_, hs.last⟩ trivial
      rw [ResultCache.find?_clear] at hr
      cases hr
  | forget =>
      simp only [step] at h
      exact .of_ok h <| .quiet rfl (hs.frame rfl rfl fun l hl => by cases hl)

end Stage

/-- A call whose search, if it makes one, is well formed, as every search read from JSON is. -/
def SessionCall.Wellformed : SessionCall → Prop
  | .execute _ q _ => q.Wellformed
  | .executeBuilder _ b _ => b.toQuery.Wellformed
  | _ => True

/-- A started call whose search is well formed is a sound operation. -/
theorem SessionCall.begin_sound {x : SessionCall} (hx : x.Wellformed) (reg : Registry β) :
    x.begin.Sound reg := by
  cases x with
  | execute => exact hx
  | executeBuilder => exact hx
  | goToPage => trivial
  | preload => trivial
  | stream => trivial
  | aggregate => trivial
  | fields => trivial
  | reset => trivial

/-! ## Runs -/

namespace World

/-- A world whose session is sound and whose operations in flight hold only answers of its
registry. -/
structure Sound (w : World β) : Prop where
  session : w.session.Sound
  tasks : ∀ st ∈ w.tasks, st.Sound w.session.registry

variable {w w' : World β}

/-- A step of a sound world that starts only well-formed calls leaves it sound with the same
registry, and a search it serves is answered as served. -/
theorem Step.sound {e : Event} (h : Step w e w') (hw : w.Sound)
    (he : ∀ x, e = .call x → x.Wellformed) :
    w'.Sound ∧ w'.session.registry = w.session.registry ∧
      ∀ v, e = .step (some v) → w.session.registry.Answers v.connection v.query v.result := by
  cases h with
  | call w x =>
      refine ⟨⟨hw.session, fun st hst => ?_⟩, rfl, fun v hv => by cases hv⟩
      rcases List.mem_append.1 hst with hold | hnew
      · exact hw.tasks st hold
      · rw [List.mem_singleton.1 hnew]
        exact SessionCall.begin_sound (he x rfl) _
  | step s pre post st now elapsed hstep =>
      -- the operation that steps, and those around it, which the step leaves alone
      have hst : st.Sound s.registry := hw.tasks st (by simp)
      have hkeeps := Stage.step_keeps hw.session hst hstep
      refine ⟨⟨hkeeps.session, fun st' hmem => ?_⟩, hkeeps.registry, fun v hv => ?_⟩
      · rw [hkeeps.registry]
        rcases List.mem_append.1 hmem with hmem | hpost
        · rcases List.mem_append.1 hmem with hpre | hrest
          · exact hw.tasks st' (List.mem_append_left _ hpre)
          · exact hkeeps.rest st' hrest
        · exact hw.tasks st' (List.mem_append_right _ (List.mem_cons_of_mem _ hpost))
      · cases hv
        exact hkeeps.served v rfl

/-- A run of a sound world that starts only well-formed calls keeps it sound with the same
registry, and every search it serves is answered as served. -/
theorem Run.sound {evs : List Event} (h : Run w evs w') (hw : w.Sound)
    (hcalls : ∀ x, Event.call x ∈ evs → x.Wellformed) :
    w'.Sound ∧ w'.session.registry = w.session.registry ∧
      ∀ v, Event.step (some v) ∈ evs →
        w.session.registry.Answers v.connection v.query v.result := by
  induction h with
  | refl => exact ⟨hw, rfl, fun v hv => by cases hv⟩
  | tail hrun hstep ih =>
      -- the run up to the last step, then the last step
      obtain ⟨hw₂, hreg₂, hserved₂⟩ :=
        ih fun x hx => hcalls x (List.mem_append_left _ hx)
      obtain ⟨hw₃, hreg₃, hserved₃⟩ := hstep.sound hw₂ fun x hx =>
        hcalls x (List.mem_append_right _ (List.mem_singleton.2 hx.symm))
      refine ⟨hw₃, hreg₃.trans hreg₂, fun v hv => ?_⟩
      rcases List.mem_append.1 hv with hold | hnew
      · exact hserved₂ v hold
      · rw [← hreg₂]
        exact hserved₃ v (List.mem_singleton.1 hnew).symm

end World

namespace Session

variable {s s' : Session β} {c : String} {q : SearchQuery} {now : Instant} {elapsed : Nat}

/-- A search that skips the cache gets what the backend answers it, unless recording faults. -/
theorem execute_uncached {res : Except EngineError SearchResult}
    (h : s.execute c q false now elapsed = .ok (res, s')) : res = s.registry.answer c q := by
  rw [execute_eq, lookup_miss fun hu => by cases hu] at h
  dsimp only at h
  rw [send_eq] at h
  dsimp only at h
  cases hans : s.registry.answer c q with
  | error e =>
      rw [hans] at h
      exact (Prod.mk.inj (Except.ok.inj h)).1.symm
  | ok r =>
      rw [hans] at h
      simp only [Except.map] at h
      split at h
      · cases h
      · exact (Prod.mk.inj (Except.ok.inj h)).1.symm

/-- A search on a sound session gets what the backend answers it, from the cache or not. -/
theorem Sound.execute_answer {u : Bool} {r : SearchResult} (hs : s.Sound) (hq : q.Wellformed)
    (h : s.execute c q u now elapsed = .ok (.ok r, s')) : s.registry.answer c q = .ok r := by
  by_cases hhit : u = true ∧ ∃ found, s.cache.find? (q.cacheKey c) = some found
  · -- served from the cache: the entry is the answer
    obtain ⟨hu, found, hfound⟩ := hhit
    rw [execute_of_find?_some hu hfound] at h
    have hr : found = r := Except.ok.inj (Prod.mk.inj (Except.ok.inj h)).1
    rw [← hr]
    exact hs.cache c q found hq hfound
  · have hmiss : u = true → s.cache.find? (q.cacheKey c) = none := fun hu =>
      Option.eq_none_iff_forall_ne_some.2 fun found hfound => hhit ⟨hu, found, hfound⟩
    cases hans : s.registry.answer c q with
    | error e =>
        rw [execute_of_answer_error hmiss hans] at h
        cases h
    | ok answered =>
        cases (execute_answered hmiss hans h).1
        rfl

end Session

namespace World

/-- Searches agree with the backends in every interleaving. Start from a session whose cache
holds only answers (a fresh one does), and run any calls whose searches are well formed, their
steps and the prefetch tasks they spawn interleaved in any order. Every search served, from the
cache or from the backend, is what its connection's backend answers it, so it is what the same
search gets when it skips the cache, on any session with these connections; and the cache holds
only answers all along. -/
theorem served_searches_agree {s : Session β} (hs : s.Sound) {evs : List Event} {w : World β}
    (hrun : Run ⟨s, []⟩ evs w) (hcalls : ∀ x, Event.call x ∈ evs → x.Wellformed) :
    (∀ v, Event.step (some v) ∈ evs →
      s.registry.answer v.connection v.query = .ok v.result ∧
      ∀ (s₁ s₂ : Session β) now elapsed res, s₁.registry = s.registry →
        s₁.execute v.connection v.query false now elapsed = .ok (res, s₂) → res = .ok v.result) ∧
    (∀ c q r, q.Wellformed → w.session.cache.find? (q.cacheKey c) = some r →
      s.registry.answer c q = .ok r) ∧
    (∀ c q r s' now elapsed, q.Wellformed →
      w.session.execute c q true now elapsed = .ok (.ok r, s') →
        s.registry.answer c q = .ok r) := by
  obtain ⟨hw, hreg, hserved⟩ := hrun.sound ⟨hs, fun st hst => by cases hst⟩ hcalls
  refine ⟨fun v hv => ⟨(hserved v hv).answer, ?_⟩, fun c q r hq hr => ?_, ?_⟩
  · intro s₁ s₂ now elapsed res hreg₁ hexec
    rw [Session.execute_uncached hexec, hreg₁]
    exact (hserved v hv).answer
  · rw [← hreg]
    exact hw.session.cache c q r hq hr
  · intro c q r s' now elapsed hq hexec
    rw [← hreg]
    exact hw.session.execute_answer hq hexec

/-- A fresh session, a cached search started on it, and the search's first lookup, which
misses. -/
theorem served_searches_agree_after_miss :
    let s : Session MemoryBackend :=
      { registry := {}, cache := ResultCache.empty 50, analyzer := default,
        history := QueryHistory.empty 100, streamBatch := 1000 }
    let q : SearchQuery := { index := "logs" }
    let s₁ : Session MemoryBackend := { s with cache := { s.cache with misses := 1 } }
    s.Sound ∧ Run ⟨s, []⟩ [.call (.execute "c1" q true), .step none] ⟨s₁, [.send "c1" q true]⟩ ∧
      (∀ x, Event.call x ∈ [Event.call (.execute "c1" q true), .step none] → x.Wellformed) ∧
      ∀ c q' r, q'.Wellformed → s₁.cache.find? (q'.cacheKey c) = some r →
        s.registry.answer c q' = .ok r := by
  intro s q s₁
  have hempty : ∀ key, s.cache.find? key = none := fun key => by
    simp [s, ResultCache.find?, ResultCache.empty]
  have hs : s.Sound := by
    refine ⟨fun c q r _ hr => ?_, fun l hl => by cases hl⟩
    rw [hempty] at hr
    cases hr
  have hlookup : Stage.step s ⟨0, 0⟩ 0 (.lookup "c1" q true) =
      .ok (s₁, [.send "c1" q true], none) := by
    simp only [Stage.step]
    rw [Session.lookup_miss fun _ => hempty _]
    rfl
  have hrun : Run ⟨s, []⟩ [.call (.execute "c1" q true), .step none] ⟨s₁, [.send "c1" q true]⟩ :=
    .tail (.tail (.refl _) (.call _ _)) (.step s [] [] _ ⟨0, 0⟩ 0 hlookup)
  have hcalls : ∀ x, Event.call x ∈ [Event.call (.execute "c1" q true), .step none] →
      x.Wellformed := by
    intro x hx
    simp only [List.mem_cons, Event.call.injEq, reduceCtorEq, List.not_mem_nil, or_false] at hx
    subst hx
    exact ⟨Nat.two_pow_pos 64, rfl, fun s hs => by cases hs⟩
  exact ⟨hs, hrun, hcalls, (served_searches_agree hs hrun hcalls).2.1⟩

end World

end Sift
