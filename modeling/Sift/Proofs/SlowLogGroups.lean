import Mathlib
import Sift.Proofs.ReportSums
import Sift.Proofs.Utf8Order

/-!
# The slow log's reports partition it

The reports by index, by connection and by hour of the day file each entry under its key in a
list of groups kept sorted by key (`gather`). Filing one value keeps the groups an exact account
of the values filed so far (`Gathered.addKeyed`): keys strictly ascending, one group for each key
filed, each holding its key's values in the order filed. Filing the whole log therefore gives one
group per key, counting and averaging exactly that key's entries, the counts adding up to the log
(`SlowLog.reports_partition_log`). Keys are text, and text order is UTF-8 byte order
(`string_lt_iff_toUTF8_lt`), so the groups ascend in byte order too.
-/

namespace Sift

section Gather

variable {κ α : Type} [LinearOrder κ]

/-- Groups of keyed values: keys strictly ascending, one group for each key among the values,
each holding the values of its key in the order given. -/
structure Gathered (groups : List (κ × List α)) (pairs : List (κ × α)) : Prop where
  ascending : (groups.map (·.1)).Pairwise (· < ·)
  keys : ∀ k, k ∈ groups.map (·.1) ↔ k ∈ pairs.map (·.1)
  values : ∀ g ∈ groups, g.2 = (pairs.filter (·.1 = g.1)).map (·.2)

variable {k : κ} {v : α}

/-- Filing a value adds its key to the keys present. -/
theorem mem_keys_addKeyed (acc : List (κ × List α)) (k' : κ) :
    k' ∈ (addKeyed k v acc).map (·.1) ↔ k' = k ∨ k' ∈ acc.map (·.1) := by
  induction acc with
  | nil => simp [addKeyed]
  | cons g acc ih =>
    obtain ⟨k'', vs⟩ := g
    unfold addKeyed
    split_ifs with heq
    · simp [heq]
    · simp
    · simp [ih, or_left_comm]

/-- Filing a value keeps the keys strictly ascending. -/
theorem addKeyed_ascending {acc : List (κ × List α)} (h : (acc.map (·.1)).Pairwise (· < ·)) :
    ((addKeyed k v acc).map (·.1)).Pairwise (· < ·) := by
  induction acc with
  | nil => simp [addKeyed]
  | cons g acc ih =>
    obtain ⟨k'', vs⟩ := g
    simp only [List.map_cons, List.pairwise_cons] at h
    obtain ⟨hlt, hrest⟩ := h
    unfold addKeyed
    split_ifs with heq hlt'
    · simpa [heq] using And.intro hlt hrest
    · simp only [List.map_cons, List.pairwise_cons, List.mem_cons, forall_eq_or_imp]
      exact ⟨⟨hlt', fun x hx => hlt'.trans (hlt x hx)⟩, hlt, hrest⟩
    · -- the value goes further down, past a smaller key
      have hgt : k'' < k := lt_of_le_of_ne (not_lt.1 hlt') (Ne.symm heq)
      simp only [List.map_cons, List.pairwise_cons]
      refine ⟨fun x hx => ?_, ih hrest⟩
      rcases (mem_keys_addKeyed acc x).1 hx with rfl | hx
      · exact hgt
      · exact hlt x hx

/-- Filing a value appends it to the values of its key, those of a new key starting empty. -/
theorem addKeyed_values {acc : List (κ × List α)} {f : κ → List α}
    (hsorted : (acc.map (·.1)).Pairwise (· < ·)) (hvalues : ∀ g ∈ acc, g.2 = f g.1)
    (hnew : k ∉ acc.map (·.1) → f k = []) :
    ∀ g ∈ addKeyed k v acc, g.2 = f g.1 ++ if k = g.1 then [v] else [] := by
  induction acc with
  | nil =>
    intro g hg
    simp only [addKeyed, List.mem_singleton] at hg
    subst hg
    simp [hnew (by simp)]
  | cons g' acc ih =>
    obtain ⟨k'', vs⟩ := g'
    simp only [List.map_cons, List.pairwise_cons] at hsorted
    simp only [List.mem_cons, forall_eq_or_imp] at hvalues
    obtain ⟨hlt, hrest⟩ := hsorted
    -- a key of the rest is above `k''`
    have hne : ∀ g ∈ acc, k'' ≠ g.1 := fun g hg => ne_of_lt (hlt g.1 (List.mem_map_of_mem hg))
    intro g hg
    unfold addKeyed at hg
    split_ifs at hg with heq hlt'
    · subst heq
      rcases List.mem_cons.1 hg with rfl | hg
      · simp [hvalues.1]
      · simp [hvalues.2 g hg, hne g hg]
    · rcases List.mem_cons.1 hg with rfl | hg
      · have habsent : k ∉ ((k'', vs) :: acc).map (·.1) := by
          simp only [List.map_cons, List.mem_cons, not_or]
          exact ⟨heq, fun hk => lt_asymm hlt' (hlt k hk)⟩
        simp [hnew habsent]
      · rcases List.mem_cons.1 hg with rfl | hg
        · simp [hvalues.1, heq]
        · simp [hvalues.2 g hg, ne_of_lt (hlt'.trans (hlt g.1 (List.mem_map_of_mem hg)))]
    · rcases List.mem_cons.1 hg with rfl | hg
      · simp [hvalues.1, heq]
      · refine ih hrest hvalues.2 (fun hk => hnew ?_) g hg
        simpa [heq] using hk

theorem Gathered.nil : Gathered ([] : List (κ × List α)) [] :=
  ⟨List.Pairwise.nil, by simp, by simp⟩

/-- Filing one more value keeps the groups those of all values filed. -/
theorem Gathered.addKeyed {acc : List (κ × List α)} {done : List (κ × α)}
    (h : Gathered acc done) (k : κ) (v : α) :
    Gathered (addKeyed k v acc) (done ++ [(k, v)]) where
  ascending := addKeyed_ascending h.ascending
  keys k' := by
    rw [mem_keys_addKeyed, h.keys]
    simp [or_comm]
  values g hg := by
    -- a key absent so far has no values so far
    have hnew : k ∉ acc.map (·.1) → (done.filter (·.1 = k)).map (·.2) = [] := by
      intro hk
      rw [h.keys] at hk
      simp only [List.map_eq_nil_iff, List.filter_eq_nil_iff, decide_eq_true_eq]
      exact fun x hx hxk => hk (hxk ▸ List.mem_map_of_mem hx)
    rw [addKeyed_values (f := fun k' => (done.filter (·.1 = k')).map (·.2)) h.ascending h.values
      hnew g hg]
    by_cases hk : k = g.1 <;> simp [List.filter_append, hk]

/-- Filing values one after another keeps the groups those of all values filed. -/
theorem Gathered.foldl {acc : List (κ × List α)} {done : List (κ × α)} (h : Gathered acc done)
    (pairs : List (κ × α)) :
    Gathered (pairs.foldl (fun acc (kv : κ × α) => Sift.addKeyed kv.1 kv.2 acc) acc)
      (done ++ pairs) := by
  induction pairs generalizing acc done with
  | nil => simpa using h
  | cons kv pairs ih =>
    simpa using ih (h.addKeyed kv.1 kv.2)

/-- Gathering keyed values makes one group per key, keys strictly ascending, each group holding
the values of its key in the order given. -/
theorem gathered_gather (pairs : List (κ × α)) : Gathered (gather pairs) pairs := by
  simpa [gather] using Gathered.nil.foldl pairs

end Gather

example : gather [("b", 1), ("a", 2), ("b", 3)] = [("a", [2]), ("b", [1, 3])] := by decide

/-- The hour of the day of an instant is at most 23. -/
theorem Time.Instant.hour_le (i : Time.Instant) : i.hour ≤ 23 := by
  have hday : i.secondOfDay < 86400 := by
    have hlt := Int.emod_lt_of_pos i.seconds (show (0 : Int) < 86400 by decide)
    have hnonneg := Int.emod_nonneg i.seconds (show (86400 : Int) ≠ 0 by decide)
    simp only [Time.Instant.secondOfDay, Time.Instant.secondsPerDay]
    omega
  unfold Time.Instant.hour
  omega

namespace SlowLog

/-- What a report grouping entries under a key says of them. There is one group for each key some
entry has, and the keys strictly ascend in UTF-8 byte order, so no key has two groups. Each group
counts and averages exactly the entries of its key, and the counts add up to the entries. -/
structure GroupReport (entries : List SlowEntry) (key : SlowEntry → String)
    (groups : List SlowGroup) : Prop where
  ascending : (groups.map fun g => g.key.toUTF8.data.toList).Pairwise (· < ·)
  keys : ∀ k, k ∈ groups.map (·.key) ↔ ∃ e ∈ entries, key e = k
  count : ∀ g ∈ groups, g.count = (entries.filter (key · = g.key)).length
  averageTime : ∀ g ∈ groups,
    g.averageTime = Stats.mean ((entries.filter (key · = g.key)).map (·.executionTime))
  total : (groups.map (·.count)).sum = entries.length

/-- What a count per hour of the day says of the entries. There is one bucket for each hour, 0 to
23, in which some entry was logged, the hours strictly ascend, each bucket counts exactly the
entries of its hour, and the counts add up to the entries. -/
structure HourlyReport (entries : List SlowEntry) (buckets : List (Nat × Nat)) : Prop where
  ascending : (buckets.map (·.1)).Pairwise (· < ·)
  hours : ∀ h, h ∈ buckets.map (·.1) ↔ ∃ e ∈ entries, e.timestamp.hour = h
  inDay : ∀ b ∈ buckets, b.1 ≤ 23
  count : ∀ b ∈ buckets, b.2 = (entries.filter (·.timestamp.hour = b.1)).length
  total : (buckets.map (·.2)).sum = entries.length

/-- The values filed under a key, read back from the entries: those of the entries of that key. -/
theorem filter_map_pairs {β : Type} (entries : List SlowEntry) (key : SlowEntry → β)
    [DecidableEq β] (val : SlowEntry → α) (k : β) :
    ((entries.map fun e => (key e, val e)).filter (·.1 = k)).map (·.2) =
      (entries.filter (key · = k)).map val := by
  simp [List.filter_map, Function.comp_def]

/-- Counting the groups' values counts the values gathered. -/
theorem sum_length_gather [LinearOrder κ] (pairs : List (κ × α)) :
    ((gather pairs).map (·.2.length)).sum = pairs.length := by
  have hlen := (gather_flatMap_perm pairs).length_eq
  rw [List.length_flatMap, List.length_map] at hlen
  simpa [Function.comp_def] using hlen

/-- Grouping the log under any key gives one group per key, each counting and averaging exactly
the entries of its key. -/
theorem groupBy_report (log : SlowLog) (key : SlowEntry → String) :
    GroupReport log.entries key (log.groupBy key) := by
  have hg := gathered_gather (log.entries.map fun e => (key e, e.executionTime))
  have hkeys : (log.groupBy key).map (·.key) =
      (gather (log.entries.map fun e => (key e, e.executionTime))).map (·.1) := by
    simp only [groupBy, List.map_map]
    rfl
  -- each group holds the times of the entries of its key
  have hgroup : ∀ g ∈ log.groupBy key,
      g.count = (log.entries.filter (key · = g.key)).length ∧
      g.averageTime =
        Stats.mean ((log.entries.filter (key · = g.key)).map (·.executionTime)) := by
    intro g hg'
    obtain ⟨⟨k, ts⟩, hmem, rfl⟩ := List.mem_map.1 hg'
    have hts : ts = (log.entries.filter (key · = k)).map (·.executionTime) :=
      (hg.values _ hmem).trans (filter_map_pairs _ key _ k)
    simp [hts]
  refine ⟨?_, ?_, fun g hg' => (hgroup g hg').1, fun g hg' => (hgroup g hg').2, ?_⟩
  · have hasc := hg.ascending
    rw [← hkeys, List.pairwise_map] at hasc
    rw [List.pairwise_map]
    exact hasc.imp fun hlt => (string_lt_iff_toUTF8_lt _ _).1 hlt
  · intro k
    rw [hkeys, hg.keys]
    simp
  · simpa [groupBy, List.map_map, Function.comp_def] using
      sum_length_gather (log.entries.map fun e => (key e, e.executionTime))

/-- The count per hour gives one bucket per hour in which entries were logged, each counting
exactly the entries of its hour. -/
theorem hourly_report (log : SlowLog) : HourlyReport log.entries log.hourly := by
  have hg := gathered_gather (log.entries.map fun e => (e.timestamp.hour, ()))
  have hhours : log.hourly.map (·.1) =
      (gather (log.entries.map fun e => (e.timestamp.hour, ()))).map (·.1) := by
    simp only [hourly, List.map_map]
    rfl
  -- each bucket holds one mark per entry of its hour
  have hbucket : ∀ b ∈ log.hourly,
      b.2 = (log.entries.filter (·.timestamp.hour = b.1)).length := by
    intro b hb
    obtain ⟨⟨h, xs⟩, hmem, rfl⟩ := List.mem_map.1 hb
    have hxs : xs = (log.entries.filter (·.timestamp.hour = h)).map fun _ => () :=
      (hg.values _ hmem).trans (filter_map_pairs _ _ _ h)
    simp [hxs]
  refine ⟨?_, ?_, ?_, hbucket, ?_⟩
  · rw [hhours]
    exact hg.ascending
  · intro h
    rw [hhours, hg.keys]
    simp
  · intro b hb
    have hmem : b.1 ∈ log.hourly.map (·.1) := List.mem_map_of_mem hb
    rw [hhours, hg.keys] at hmem
    obtain ⟨e, -, he⟩ : ∃ e ∈ log.entries, e.timestamp.hour = b.1 := by simpa using hmem
    rw [← he]
    exact e.timestamp.hour_le
  · simpa [hourly, List.map_map, Function.comp_def] using
      sum_length_gather (log.entries.map fun e => (e.timestamp.hour, ()))

/-- The reports by index, by connection and by hour of the day partition the log. -/
theorem reports_partition_log (log : SlowLog) :
    GroupReport log.entries (·.index) log.byIndex ∧
      GroupReport log.entries (·.connectionId) log.byConnection ∧
      HourlyReport log.entries log.hourly :=
  ⟨groupBy_report log _, groupBy_report log _, hourly_report log⟩

end SlowLog

end Sift
