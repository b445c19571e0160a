import Mathlib
import Sift.Proofs.SlowLogClusters
import Sift.Performance.Analyzer

/-!
# The sums behind the averages

Every average the slow log and the analyzer report is `Stats.mean`: the values summed in a 64-bit
counter, over their number. That is the slow log's mean time (`SlowLog.stats`), the mean time of
each group of `SlowLog.groupBy` (so of `byIndex` and `byConnection`), of each cluster, and the
analyzer's mean time and mean result count over its window (`Analyzer.stats`).

The counter holds the true sum modulo `2^64` (`Stats.counterSum_eq_mod`), so an average is the
true mean (`Stats.trueMean`) while the sum of what it averages stays below `2^64`. A group or a
cluster averages part of the log's times, so one bound on the log's total covers every report of
the log (`report_means_exact`).

Nothing bounds that total: execution times and result counts are any 64-bit values, and two slow
entries of `2^64 - 1` ms already make the counter wrap (`SlowLog.stats_sum_wraps`).
-/

namespace Sift

namespace Stats

/-- The mean of values with their sum taken exactly: the true sum over their number, as doubles;
`0.0` for none. -/
def trueMean (xs : List Nat) : Float :=
  if xs.isEmpty then 0.0 else xs.sum.toFloat / xs.length.toFloat

/-- From a counter below `2^64`, adding values in the counter gives the true total modulo
`2^64`. -/
theorem foldl_counter (xs : List Nat) {a : Nat} (ha : a < 2 ^ 64) :
    xs.foldl (fun a x => (a + x) % 2 ^ 64) a = (a + xs.sum) % 2 ^ 64 := by
  induction xs generalizing a with
  | nil => rw [List.foldl_nil, List.sum_nil, Nat.add_zero, Nat.mod_eq_of_lt ha]
  | cons x xs ih =>
    have hlt : (a + x) % 2 ^ 64 < 2 ^ 64 := Nat.mod_lt _ (by norm_num)
    rw [List.foldl_cons, List.sum_cons, ih hlt, Nat.mod_add_mod, Nat.add_assoc]

/-- The counter holds the true sum modulo `2^64`. -/
theorem counterSum_eq_mod (xs : List Nat) : counterSum xs = xs.sum % 2 ^ 64 := by
  rw [counterSum, show Nat.pow 2 64 = 2 ^ 64 from rfl, foldl_counter xs (by norm_num),
    Nat.zero_add]

/-- The mean is the true mean while the sum stays below `2^64`. -/
theorem mean_eq_trueMean {xs : List Nat} (h : xs.sum < 2 ^ 64) : mean xs = trueMean xs := by
  rw [mean, trueMean, counterSum_eq_mod, Nat.mod_eq_of_lt h]

end Stats

/-! ## The values behind each report -/

/-- Filing a value under a key adds it to the values filed, wherever it goes. -/
theorem addKeyed_flatMap_perm [LT κ] [DecidableEq κ] [DecidableLT κ] (k : κ) (v : α)
    (acc : List (κ × List α)) :
    ((addKeyed k v acc).flatMap (·.2)).Perm (acc.flatMap (·.2) ++ [v]) := by
  induction acc with
  | nil => simp [addKeyed]
  | cons g acc ih =>
    obtain ⟨k', vs⟩ := g
    unfold addKeyed
    split_ifs
    · -- `v` joins the group of its key, ahead of the later groups' values
      have hmid : (vs ++ v :: acc.flatMap (·.2)).Perm (v :: (vs ++ acc.flatMap (·.2))) :=
        List.perm_middle
      simpa using hmid.trans (List.perm_append_singleton v (vs ++ acc.flatMap (·.2))).symm
    · simpa using (List.perm_append_singleton v (vs ++ acc.flatMap (·.2))).symm
    · simpa using ih.append_left vs

/-- Gathering keyed values regroups them: all groups' values together are the values given. -/
theorem gather_flatMap_perm [LT κ] [DecidableEq κ] [DecidableLT κ] (pairs : List (κ × α)) :
    ((gather pairs).flatMap (·.2)).Perm (pairs.map (·.2)) := by
  have hstep : ∀ acc : List (κ × List α),
      ((pairs.foldl (fun acc (kv : κ × α) => addKeyed kv.1 kv.2 acc) acc).flatMap (·.2)).Perm
        (acc.flatMap (·.2) ++ pairs.map (·.2)) := by
    induction pairs with
    | nil => simp
    | cons kv pairs ih =>
      intro acc
      rw [List.foldl_cons]
      refine (ih _).trans ?_
      simpa using (addKeyed_flatMap_perm kv.1 kv.2 acc).append_right (pairs.map (·.2))
  simpa [gather] using hstep []

/-- A sub-multiset of values sums to at most their sum. -/
theorem Subperm.sum_le {xs ys : List Nat} (h : xs.Subperm ys) : xs.sum ≤ ys.sum := by
  obtain ⟨l, hperm, hsub⟩ := h
  rw [← hperm.sum_eq]
  exact hsub.sum_le_sum fun _ _ => Nat.zero_le _

namespace SlowLog

/-- The execution times of a log's entries, newest first. -/
def times (log : SlowLog) : List Nat := log.entries.map (·.executionTime)

theorem stats_averageTime (log : SlowLog) : log.stats.averageTime = Stats.mean log.times := by
  unfold stats times
  dsimp only
  split
  · next h => rw [h]; rfl
  · rfl

/-- Each group averages part of the log's times, as many as it counts. -/
theorem groupBy_values (log : SlowLog) (key : SlowEntry → String) :
    ∀ g ∈ log.groupBy key, ∃ ts, ts.Subperm log.times ∧ g.count = ts.length ∧
      g.averageTime = Stats.mean ts := by
  intro g hg
  unfold groupBy at hg
  obtain ⟨⟨k, ts⟩, hmem, rfl⟩ := List.mem_map.1 hg
  refine ⟨ts, ?_, rfl, rfl⟩
  have hperm := gather_flatMap_perm (log.entries.map fun e => (key e, e.executionTime))
  have hsub : ts.Sublist ((gather (log.entries.map fun e => (key e, e.executionTime))).flatMap
      (·.2)) := by
    rw [List.flatMap_def]
    exact List.sublist_flatten_of_mem (List.mem_map.2 ⟨_, hmem, rfl⟩)
  simpa [times, List.map_map, Function.comp_def] using hsub.subperm.trans hperm.subperm

/-- Each cluster averages part of the log's times. -/
theorem clusters_values (log : SlowLog) :
    ∀ c ∈ log.clusters, (c.members.map (·.executionTime)).Subperm log.times :=
  fun c hc => ((greedy_clusters log).inOrder c hc).map _ |>.subperm

end SlowLog

namespace Analyzer

/-- The execution times and result counts of the records the summary figures look at. -/
def windowTimes (a : Analyzer) : List Nat := (a.records.take a.statsWindow).map (·.executionTime)

/-- The result counts of the records the summary figures look at. -/
def windowResults (a : Analyzer) : List Nat := (a.records.take a.statsWindow).map (·.resultCount)

theorem stats_averages (a : Analyzer) :
    a.stats.averageTime = Stats.mean a.windowTimes ∧
    a.stats.averageResults = Stats.mean a.windowResults := by
  unfold stats windowTimes windowResults
  dsimp only
  split
  · next h =>
    simp only [List.isEmpty_iff] at h
    simp only [h, List.map_nil]
    exact ⟨rfl, rfl⟩
  · exact ⟨rfl, rfl⟩

end Analyzer

/-- The averages are exact while the sums fit. The counter behind every average holds the true
sum modulo `2^64`, so the mean of any values is their true mean while their sum stays below
`2^64`. When the times of a slow log sum to less than `2^64`, its mean time, the mean time of
every group (by index, by connection or by any key) and of every cluster are true means, each
group averaging as many of the log's times as it counts; when the times and the result counts of
an analyzer's window sum to less than `2^64`, both of its averages are true means. -/
theorem report_means_exact (xs : List Nat) (log : SlowLog) (key : SlowEntry → String)
    (a : Analyzer) :
    Stats.counterSum xs = xs.sum % 2 ^ 64 ∧
    (xs.sum < 2 ^ 64 → Stats.mean xs = Stats.trueMean xs) ∧
    (log.times.sum < 2 ^ 64 →
      log.stats.averageTime = Stats.trueMean log.times ∧
      (∀ g ∈ log.groupBy key, ∃ ts, ts.Subperm log.times ∧ g.count = ts.length ∧
        g.averageTime = Stats.trueMean ts) ∧
      (∀ c ∈ log.clusters, Stats.mean (c.members.map (·.executionTime)) =
        Stats.trueMean (c.members.map (·.executionTime)))) ∧
    (a.windowTimes.sum < 2 ^ 64 → a.windowResults.sum < 2 ^ 64 →
      a.stats.averageTime = Stats.trueMean a.windowTimes ∧
      a.stats.averageResults = Stats.trueMean a.windowResults) := by
  refine ⟨Stats.counterSum_eq_mod xs, Stats.mean_eq_trueMean, ?_, ?_⟩
  · intro htotal
    refine ⟨by rw [SlowLog.stats_averageTime, Stats.mean_eq_trueMean htotal], ?_, ?_⟩
    · intro g hg
      obtain ⟨ts, hsub, hcount, havg⟩ := SlowLog.groupBy_values log key g hg
      exact ⟨ts, hsub, hcount, by
        rw [havg, Stats.mean_eq_trueMean (lt_of_le_of_lt (Subperm.sum_le hsub) htotal)]⟩
    · intro c hc
      exact Stats.mean_eq_trueMean
        (lt_of_le_of_lt (Subperm.sum_le (SlowLog.clusters_values log c hc)) htotal)
  · intro htimes hresults
    obtain ⟨htime, hres⟩ := Analyzer.stats_averages a
    rw [htime, hres, Stats.mean_eq_trueMean htimes, Stats.mean_eq_trueMean hresults]
    exact ⟨rfl, rfl⟩

/-- A log of two entries, of 3000 ms and 1500 ms, and an analyzer holding it with one record
of 3000 ms and 20 results: their sums fit, and their averages are true means. -/
theorem report_means_exact_small_log :
    let log : SlowLog :=
      { entries := [{ queryId := "a", executionTime := 3000, timestamp := ⟨0, 0⟩ },
          { queryId := "b", executionTime := 1500, timestamp := ⟨0, 0⟩ }],
        threshold := 1000, capacity := 1000, retention := 2592000, similarityThreshold := 0.8,
        similarLimit := 10 }
    let a : Analyzer :=
      { records := [{ executionTime := 3000, resultCount := 20 }], slowLog := log,
        maxRecords := 1000, maxAnalyses := 1000, statsWindow := 100 }
    log.times.sum < 2 ^ 64 ∧ log.stats.averageTime = Stats.trueMean log.times ∧
      a.windowTimes.sum < 2 ^ 64 ∧ a.windowResults.sum < 2 ^ 64 ∧
      a.stats.averageTime = Stats.trueMean a.windowTimes := by
  intro log a
  have hlog : log.times.sum < 2 ^ 64 := by decide
  have htimes : a.windowTimes.sum < 2 ^ 64 := by decide
  have hresults : a.windowResults.sum < 2 ^ 64 := by decide
  exact ⟨hlog, ((report_means_exact [] log (·.index) a).2.2.1 hlog).1, htimes, hresults,
    ((report_means_exact [] log (·.index) a).2.2.2 htimes hresults).1⟩

namespace SlowLog

/-- Two slow entries of `2^64 - 1` ms make the counter wrap: from the empty log of the default
configuration, both are logged, their times sum to more than `2^64 - 1`, and the counter behind
the mean time holds `2^64 - 2`. -/
theorem stats_sum_wraps :
    let x : SlowEntry := { queryId := "a", executionTime := 2 ^ 64 - 1, timestamp := ⟨0, 0⟩ }
    let y : SlowEntry := { queryId := "b", executionTime := 2 ^ 64 - 1, timestamp := ⟨0, 0⟩ }
    ∃ log₀ log, SlowLog.create {} = .ok log₀ ∧
      log₀.run [.push x ⟨0, 0⟩, .push y ⟨0, 0⟩] = .ok ([.kept true, .kept true], log) ∧
      log.times = [2 ^ 64 - 1, 2 ^ 64 - 1] ∧ log.times.sum > 2 ^ 64 - 1 ∧
      Stats.counterSum log.times = 2 ^ 64 - 2 := by
  intro x y
  -- the two pushes keep both entries; the rest is arithmetic on their times
  have hwrap : ∀ ts : List Nat, ts = [2 ^ 64 - 1, 2 ^ 64 - 1] →
      ts = [2 ^ 64 - 1, 2 ^ 64 - 1] ∧ ts.sum > 2 ^ 64 - 1 ∧ Stats.counterSum ts = 2 ^ 64 - 2 := by
    rintro ts rfl
    refine ⟨rfl, by norm_num, ?_⟩
    rw [Stats.counterSum_eq_mod]
    norm_num
  exact ⟨_, _, rfl, rfl, hwrap _ rfl⟩

end SlowLog

end Sift
