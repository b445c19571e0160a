import Sift.Proofs.SlowLogRuns
import Sift.SlowLog.Report

/-!
# Clusters of the slow log

`SlowLog.clusters` makes one greedy pass over the log, newest first. An entry joins the first
cluster whose representative's query is at least as similar to its own as the threshold asks,
and otherwise opens a new cluster, at the end, as its representative.

What the pass builds (`SlowLog.Greedy`, kept entry by entry by `Greedy.place`):

* the clusters regroup the entries: their members, cluster after cluster, are a permutation of
  the log, so each entry is in exactly one cluster;
* each cluster lists its members in log order, the representative first;
* every member after the representative is similar enough to it;
* no member of a cluster is similar enough to the representative of an earlier cluster;
* the representatives stand in log order.

The representative is never compared with itself. Its similarity to itself is `1.0`, so it meets
the threshold only when the threshold is at most `1.0`; above that every entry opens a cluster
of its own, whose one member falls short of the threshold (`clusters_above_one`).
-/

namespace Sift

namespace SlowLog

/-- A query is as similar as can be to itself. -/
theorem querySimilarity_self (q : Json) : querySimilarity q q = 1.0 := by
  simp [querySimilarity, Text.similarity]

/-- What placing an entry does: it joins the first cluster whose representative is similar
enough, every cluster before that one being too far; or, every cluster being too far, it opens
a new one at the end. -/
theorem place_cases (t : Float) (e : SlowEntry) (cs : List SlowCluster) :
    (∃ pre c post, cs = pre ++ c :: post ∧
      (∀ d ∈ pre, ¬ t ≤ querySimilarity d.representative.query e.query) ∧
      t ≤ querySimilarity c.representative.query e.query ∧
      place t e cs = pre ++ { c with members := c.members ++ [e] } :: post) ∨
    ((∀ d ∈ cs, ¬ t ≤ querySimilarity d.representative.query e.query) ∧
      place t e cs = cs ++ [⟨e, [e]⟩]) := by
  induction cs with
  | nil => exact .inr ⟨by simp, rfl⟩
  | cons c cs ih =>
    by_cases hc : t ≤ querySimilarity c.representative.query e.query
    · exact .inl ⟨[], c, cs, rfl, by simp, hc, by simp [place, hc]⟩
    · -- `c` is too far: the entry goes where it goes among the rest
      rcases ih with ⟨pre, c', post, rfl, hpre, hc', hplace⟩ | ⟨hall, hplace⟩
      · refine .inl ⟨c :: pre, c', post, rfl, ?_, hc', by simp [place, hc, hplace]⟩
        simpa [hc] using hpre
      · refine .inr ⟨?_, by simp [place, hc, hplace]⟩
        simpa [hc] using hall

/-- The clusters built by placing the entries `done`, in order, under threshold `t`. -/
structure Greedy (t : Float) (done : List SlowEntry) (cs : List SlowCluster) : Prop where
  /-- Every entry is in exactly one cluster. -/
  perm : (cs.flatMap (·.members)).Perm done
  /-- A cluster's first member is its representative. -/
  front : ∀ c ∈ cs, c.members.head? = some c.representative
  /-- A cluster lists its members in log order. -/
  inOrder : ∀ c ∈ cs, c.members.Sublist done
  /-- Every later member is similar enough to its representative. -/
  joined : ∀ c ∈ cs, ∀ m ∈ c.members.tail, t ≤ querySimilarity c.representative.query m.query
  /-- No member is similar enough to the representative of an earlier cluster. -/
  apart : cs.Pairwise fun c c' =>
    ∀ m ∈ c'.members, ¬ t ≤ querySimilarity c.representative.query m.query
  /-- The representatives stand in log order. -/
  reps : (cs.map (·.representative)).Sublist done

namespace Greedy

variable {t : Float} {done : List SlowEntry} {e : SlowEntry}

theorem nil (t : Float) : Greedy t [] [] :=
  ⟨.nil, by simp, by simp, by simp, .nil, .slnil⟩

/-- An entry similar enough to the representative of `c`, and too far from those of the
clusters before it, joins `c` at the end. -/
theorem join {pre post : List SlowCluster} {c : SlowCluster}
    (h : Greedy t done (pre ++ c :: post))
    (hpre : ∀ d ∈ pre, ¬ t ≤ querySimilarity d.representative.query e.query)
    (hc : t ≤ querySimilarity c.representative.query e.query) :
    Greedy t (done ++ [e]) (pre ++ { c with members := c.members ++ [e] } :: post) := by
  have hcmem : c ∈ pre ++ c :: post := by simp
  have hfront := h.front c hcmem
  have hne : c.members ≠ [] := by
    intro hnil
    simp [hnil] at hfront
  -- a cluster after the step is the one `e` joined, or one that was there before
  have hcases : ∀ d ∈ pre ++ { c with members := c.members ++ [e] } :: post,
      d = { c with members := c.members ++ [e] } ∨ d ∈ pre ++ c :: post := by
    intro d hd
    simp only [List.mem_append, List.mem_cons] at hd ⊢
    tauto
  constructor
  case perm =>
    -- the new member moves from the end of the log to the end of its cluster
    have hold := h.perm.append_right [e]
    have hmove : ([e] ++ post.flatMap (·.members)).Perm (post.flatMap (·.members) ++ [e]) :=
      List.perm_append_comm
    simp only [List.flatMap_append, List.flatMap_cons, List.append_assoc] at hold ⊢
    exact ((hmove.append_left _).append_left _).trans hold
  case front =>
    intro d hd
    rcases hcases d hd with rfl | hd
    · simp [List.head?_append, hfront]
    · exact h.front d hd
  case inOrder =>
    intro d hd
    rcases hcases d hd with rfl | hd
    · exact (h.inOrder c hcmem).append (List.Sublist.refl [e])
    · exact (h.inOrder d hd).trans (List.sublist_append_left _ _)
  case joined =>
    intro d hd m hm
    rcases hcases d hd with rfl | hd
    · rw [List.tail_append_of_ne_nil hne] at hm
      rcases List.mem_append.1 hm with hm | hm
      · exact h.joined c hcmem m hm
      · rw [List.mem_singleton.1 hm]
        exact hc
    · exact h.joined d hd m hm
  case apart =>
    have hold := h.apart
    rw [List.pairwise_append, List.pairwise_cons] at hold ⊢
    obtain ⟨hpre', ⟨hcpost, hpost⟩, hacross⟩ := hold
    refine ⟨hpre', ⟨hcpost, hpost⟩, fun a ha b hb m hm => ?_⟩
    rcases List.mem_cons.1 hb with rfl | hb
    · -- the new member is too far from every earlier representative
      rcases List.mem_append.1 hm with hm | hm
      · exact hacross a ha c (by simp) m hm
      · rw [List.mem_singleton.1 hm]
        exact hpre a ha
    · exact hacross a ha b (List.mem_cons_of_mem c hb) m hm
  case reps =>
    have hsame : (pre ++ { c with members := c.members ++ [e] } :: post).map (·.representative) =
        (pre ++ c :: post).map (·.representative) := by
      simp
    rw [hsame]
    exact h.reps.trans (List.sublist_append_left _ _)

/-- An entry too far from every representative opens a cluster of its own at the end. -/
theorem newCluster {cs : List SlowCluster} (h : Greedy t done cs)
    (hall : ∀ d ∈ cs, ¬ t ≤ querySimilarity d.representative.query e.query) :
    Greedy t (done ++ [e]) (cs ++ [⟨e, [e]⟩]) := by
  constructor
  case perm => simpa [List.flatMap_append] using h.perm.append_right [e]
  case front =>
    intro d hd
    rcases List.mem_append.1 hd with hd | hd
    · exact h.front d hd
    · rw [List.mem_singleton.1 hd]
      rfl
  case inOrder =>
    intro d hd
    rcases List.mem_append.1 hd with hd | hd
    · exact (h.inOrder d hd).trans (List.sublist_append_left _ _)
    · rw [List.mem_singleton.1 hd]
      exact List.singleton_sublist.2 (List.mem_append_right _ (List.mem_singleton_self e))
  case joined =>
    intro d hd m hm
    rcases List.mem_append.1 hd with hd | hd
    · exact h.joined d hd m hm
    · rw [List.mem_singleton.1 hd] at hm
      simp at hm
  case apart =>
    refine List.pairwise_append.2 ⟨h.apart, List.pairwise_singleton _ _, fun a ha b hb m hm => ?_⟩
    rw [List.mem_singleton.1 hb] at hm
    rw [List.mem_singleton.1 hm]
    exact hall a ha
  case reps =>
    simpa using h.reps.append (List.Sublist.refl [e])

/-- Placing one more entry keeps what the pass builds. -/
theorem place {cs : List SlowCluster} (h : Greedy t done cs) :
    Greedy t (done ++ [e]) (SlowLog.place t e cs) := by
  rcases place_cases t e cs with ⟨pre, c, post, rfl, hpre, hc, hplace⟩ | ⟨hall, hplace⟩
  · rw [hplace]
    exact h.join hpre hc
  · rw [hplace]
    exact h.newCluster hall

/-- Placing entries one after another keeps what the pass builds. -/
theorem foldl {cs : List SlowCluster} (h : Greedy t done cs) (es : List SlowEntry) :
    Greedy t (done ++ es) (es.foldl (fun cs e => SlowLog.place t e cs) cs) := by
  induction es generalizing done cs with
  | nil => simpa using h
  | cons e es ih => simpa [List.append_assoc] using ih (h.place (e := e))

end Greedy

/-- The clusters of a log are what the greedy pass builds from its entries. -/
theorem greedy_clusters (log : SlowLog) :
    Greedy log.similarityThreshold log.entries log.clusters := by
  simpa [clusters] using (Greedy.nil log.similarityThreshold).foldl log.entries

/-- The clusters of the slow log are a greedy partition of its entries. Their members, cluster
after cluster, are the entries regrouped, each exactly once, so the counts sum to the number of
entries. Each cluster lists its members in log order, its representative first; every member
after the representative is at least as similar to it as the threshold asks, and the
representative is so to itself exactly when the threshold is at most `1.0`. No member is as
similar as the threshold asks to the representative of an earlier cluster, and the
representatives stand in log order. -/
theorem clusters_greedy_partition (log : SlowLog) :
    let cs := log.clusters
    let t := log.similarityThreshold
    (cs.flatMap (·.members)).Perm log.entries ∧
    (cs.map (·.members.length)).sum = log.entries.length ∧
    (∀ c ∈ cs, c.members.head? = some c.representative ∧ c.members.Sublist log.entries) ∧
    (∀ c ∈ cs, ∀ m ∈ c.members.tail, t ≤ querySimilarity c.representative.query m.query) ∧
    (∀ c ∈ cs, t ≤ querySimilarity c.representative.query c.representative.query ↔ t ≤ 1.0) ∧
    cs.Pairwise (fun c c' => ∀ m ∈ c'.members, ¬ t ≤ querySimilarity c.representative.query m.query) ∧
    (cs.map (·.representative)).Sublist log.entries := by
  intro cs t
  have h := greedy_clusters log
  have hcount : (cs.map (·.members.length)).sum = log.entries.length := by
    rw [← h.perm.length_eq, List.length_flatMap]
  refine ⟨h.perm, hcount, fun c hc => ⟨h.front c hc, h.inOrder c hc⟩, h.joined, ?_, h.apart,
    h.reps⟩
  intro c _
  rw [querySimilarity_self]

/-- At a threshold above `1.0` a representative falls short of its own cluster's threshold: with
the similarity threshold set to `1.5`, one slow entry logged into an empty log makes one cluster,
whose one member, its representative, is less similar to itself than the threshold asks. -/
theorem clusters_above_one :
    let x : SlowEntry := { queryId := "a", executionTime := 2000, timestamp := ⟨0, 0⟩ }
    ∃ log₀ log, SlowLog.create { similarityThreshold := 1.5 } = .ok log₀ ∧
      log₀.run [.push x ⟨0, 0⟩] = .ok ([.kept true], log) ∧
      log.clusters = [⟨x, [x]⟩] ∧
      ¬ log.similarityThreshold ≤ querySimilarity x.query x.query := by
  intro x
  refine ⟨_, _, rfl, rfl, rfl, ?_⟩
  rw [querySimilarity_self]
  decide

end SlowLog

end Sift
