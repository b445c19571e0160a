import Mathlib
import Sift.SlowLog.Basic

/-!
# Runs of the slow log

A slow log is driven by pushes, restores of snapshots, drops of the entries up to an instant or
of a query id, clears, and threshold changes; a push and a restore prune with the clock reading
they see. `SlowLog.run` answers a list of such calls one after another and stops at the first
fault, which only a clock reading whose retention cutoff falls outside the range of instants can
cause.

What a run keeps:

* the log never holds more than its capacity;
* the entries it holds keep the order they came in: they form a sublist of `SlowLog.admitted`,
  which lists, newest first, every entry that a push admitted since the last restore or clear,
  then the entries that restore brought in. A push admits an entry only when it ran longer than
  the threshold in force, and a push of any other entry changes nothing at all;
* right after a push of a slow entry, and after a restore, every entry is younger than the
  retention cutoff of the clock reading that call saw. A push of an entry that is not slow returns
  before pruning, so an entry that expired since the last pruning call stays
  (`fast_push_keeps_expired_entry`);
* dropping the entries up to an instant drops exactly those at or before it and counts them, and
  removing a query id drops exactly its entries and says whether there were any.

A snapshot keeps the newest `snapshotEntries` entries and the threshold. Restored into a log of
the same configuration, with every entry still within retention, it gives back the newest
entries in their order, and the threshold unless that threshold is 0: a zero threshold in a
snapshot is read as no threshold, and the log keeps its own (`restore_ignores_zero_threshold`).
-/

namespace Sift

open Time

/-- A call on a slow log. A push and a restore see a clock reading, by which they prune. -/
inductive SlowLogCall where
  | push (e : SlowEntry) (now : Instant)
  | restore (s : SlowLogSnapshot) (now : Instant)
  | clearBefore (t : Instant)
  | remove (id : String)
  | clear
  | setThreshold (ms : Nat)

/-- What a call answers: whether a push's entry is in the log afterwards, how many entries a
drop up to an instant dropped, whether a removal found its query id. -/
inductive SlowLogReply where
  | kept (b : Bool)
  | dropped (n : Nat)
  | removed (b : Bool)
  | done

namespace SlowLog

/-- One call on a log. -/
def call (log : SlowLog) : SlowLogCall → Except Fault (SlowLogReply × SlowLog)
  | .push e now => do
    let (b, log') ← log.push e now
    return (.kept b, log')
  | .restore s now => do
    let log' ← log.restore s now
    return (.done, log')
  | .clearBefore t => .ok (.dropped (log.clearBefore t).1, (log.clearBefore t).2)
  | .remove id => .ok (.removed (log.remove id).1, (log.remove id).2)
  | .clear => .ok (.done, log.clear)
  | .setThreshold ms => .ok (.done, log.setThreshold ms)

/-- The replies of a run of calls and the log it ends with; the first fault ends the run. -/
def run (log : SlowLog) : List SlowLogCall → Except Fault (List SlowLogReply × SlowLog)
  | [] => .ok ([], log)
  | x :: xs => do
    let (r, log₁) ← log.call x
    let (rs, log₂) ← log₁.run xs
    return (r :: rs, log₂)

/-- A log that some run reaches from the empty log of a configuration. -/
def Reaches (c : EngineConfig) (log : SlowLog) : Prop :=
  ∃ log₀ calls replies, SlowLog.create c = .ok log₀ ∧ log₀.run calls = .ok (replies, log)

end SlowLog

/-- The entries a log may hold after a call, newest first, given those it may hold before: a
push of an entry that ran longer than the threshold puts it in front, a restore puts the
snapshot's entries instead, a clear leaves none, and the other calls keep what there was. -/
def SlowLogCall.candidates (log : SlowLog) (pool : List SlowEntry) : SlowLogCall → List SlowEntry
  | .push e _ => if log.threshold < e.executionTime then e :: pool else pool
  | .restore s _ => s.entries
  | .clear => []
  | _ => pool

/-- The entries a run may leave in a log, newest first, from those it may hold at the start. -/
def SlowLog.admitted (log : SlowLog) (pool : List SlowEntry) : List SlowLogCall → List SlowEntry
  | [] => pool
  | x :: xs =>
    match log.call x with
    | .ok (_, log') => log'.admitted (x.candidates log pool) xs
    | .error _ => x.candidates log pool

namespace Time.Instant

/-- The order of instants: by second, then by fraction. -/
theorem lt_iff {a b : Instant} :
    a < b ↔ a.seconds < b.seconds ∨ (a.seconds = b.seconds ∧ a.nanos < b.nanos) := by
  show a.lt b = true ↔ _
  simp [Instant.lt]

/-- Instants are totally ordered: one that is not after another is before it or the same. -/
theorem not_lt_iff {a b : Instant} : ¬ a < b ↔ b < a ∨ b = a := by
  obtain ⟨s, n⟩ := a
  obtain ⟨s', n'⟩ := b
  simp only [lt_iff, Instant.mk.injEq]
  omega

end Time.Instant

namespace SlowLog

variable {log log' : SlowLog} {r : SlowLogReply}

/-! ## The steps of a push and a restore -/

theorem isSlow_iff (ms : Nat) : log.isSlow ms = true ↔ log.threshold < ms := by
  simp [isSlow]

/-- Pruning keeps the entries younger than the cutoff and every setting. -/
theorem prune_eq {now cut : Instant} (hcut : log.cutoff now = .ok cut) :
    log.prune now = .ok { log with entries := log.entries.filter (cut.lt ·.timestamp) } := by
  simp only [prune, hcut, bind, Except.bind, pure, Except.pure]

/-- Pruning fails with the cutoff's fault when the cutoff of the clock reading is no instant. -/
theorem prune_of_error {now : Instant} {f : Fault} (hcut : log.cutoff now = .error f) :
    log.prune now = .error f := by
  simp only [prune, hcut, bind, Except.bind]

/-- A push of an entry that is not slow answers `false` and changes nothing. -/
theorem push_of_not_slow {e : SlowEntry} (now : Instant) (h : ¬ log.threshold < e.executionTime) :
    log.push e now = .ok (false, log) := by
  have hslow : log.isSlow e.executionTime = false := by simpa [isSlow] using h
  simp [push, hslow]

/-- A push of a slow entry puts it in front, cuts the log to its capacity, then prunes. -/
theorem push_of_slow {e : SlowEntry} {now cut : Instant} (h : log.threshold < e.executionTime)
    (hcut : log.cutoff now = .ok cut) :
    log.push e now = .ok
      (((e :: log.entries).take log.capacity).filter (cut.lt ·.timestamp) |>.any
        (·.queryId == e.queryId),
       { log with entries := ((e :: log.entries).take log.capacity).filter (cut.lt ·.timestamp) }) := by
  have hslow : log.isSlow e.executionTime = true := (isSlow_iff _).2 h
  have hcut' : SlowLog.cutoff { log with entries := (e :: log.entries).take log.capacity } now =
      .ok cut := hcut
  simp only [push, hslow, Bool.not_true, Bool.false_eq_true, if_false, prune_eq hcut', bind,
    Except.bind, pure, Except.pure]

/-- A restore takes the snapshot's threshold unless it is 0, and its entries cut to the capacity
and pruned. -/
theorem restore_eq {s : SlowLogSnapshot} {now cut : Instant} (hcut : log.cutoff now = .ok cut) :
    log.restore s now = .ok
      { log with threshold := if 0 < s.threshold then s.threshold else log.threshold,
                 entries := (s.entries.take log.capacity).filter (cut.lt ·.timestamp) } := by
  have hcut' : SlowLog.cutoff
      { log with
        threshold := if s.threshold > 0 then s.threshold else log.threshold
        entries := s.entries.take log.capacity } now = .ok cut := hcut
  simp only [restore, prune_eq hcut']

/-- A push whose cutoff is an instant succeeds, and keeps the threshold. -/
theorem push_ok {e : SlowEntry} {now cut : Instant} (hcut : log.cutoff now = .ok cut) :
    ∃ b log', log.push e now = .ok (b, log') ∧ log'.threshold = log.threshold := by
  by_cases hs : log.threshold < e.executionTime
  · exact ⟨_, _, push_of_slow hs hcut, rfl⟩
  · exact ⟨_, _, push_of_not_slow now hs, rfl⟩

/-! ## What one call does -/

/-- A successful push either met an entry that is not slow and changed nothing, or met a slow
one, found the cutoff of its clock reading, and left the entries of the log with the new one in
front, cut to the capacity and pruned. -/
theorem call_push {e : SlowEntry} {now : Instant} (h : log.call (.push e now) = .ok (r, log')) :
    (¬ log.threshold < e.executionTime ∧ log' = log) ∨
    (log.threshold < e.executionTime ∧ ∃ cut, log.cutoff now = .ok cut ∧
      log' = { log with
        entries := ((e :: log.entries).take log.capacity).filter (cut.lt ·.timestamp) }) := by
  by_cases hs : log.threshold < e.executionTime
  · refine .inr ⟨hs, ?_⟩
    cases hcut : log.cutoff now with
    | error f =>
      have hcut' : SlowLog.cutoff { log with entries := (e :: log.entries).take log.capacity }
          now = .error f := hcut
      have hslow : log.isSlow e.executionTime = true := (isSlow_iff _).2 hs
      simp [call, push, hslow, prune_of_error hcut', bind, Except.bind] at h
    | ok cut =>
      simp only [call, push_of_slow hs hcut, bind, Except.bind, pure, Except.pure,
        Except.ok.injEq, Prod.mk.injEq] at h
      exact ⟨cut, rfl, h.2.symm⟩
  · simp only [call, push_of_not_slow now hs, bind, Except.bind, pure, Except.pure,
      Except.ok.injEq, Prod.mk.injEq] at h
    exact .inl ⟨hs, h.2.symm⟩

/-- A successful restore found the cutoff of its clock reading and left the snapshot's entries,
cut to the capacity and pruned, and its threshold unless that is 0. -/
theorem call_restore {s : SlowLogSnapshot} {now : Instant}
    (h : log.call (.restore s now) = .ok (r, log')) :
    ∃ cut, log.cutoff now = .ok cut ∧
      log' = { log with threshold := if 0 < s.threshold then s.threshold else log.threshold,
                        entries := (s.entries.take log.capacity).filter (cut.lt ·.timestamp) } := by
  cases hcut : log.cutoff now with
  | error f =>
    have hcut' : SlowLog.cutoff
        { log with
          threshold := if s.threshold > 0 then s.threshold else log.threshold
          entries := s.entries.take log.capacity } now = .error f := hcut
    simp [call, restore, prune_of_error hcut', bind, Except.bind] at h
  | ok cut =>
    simp only [call, restore_eq hcut, bind, Except.bind, pure, Except.pure, Except.ok.injEq,
      Prod.mk.injEq] at h
    exact ⟨cut, rfl, h.2.symm⟩

/-- Every call keeps the capacity and the retention. -/
theorem call_settings {x : SlowLogCall} (h : log.call x = .ok (r, log')) :
    log'.capacity = log.capacity ∧ log'.retention = log.retention := by
  cases x with
  | push e now =>
    rcases call_push h with ⟨-, rfl⟩ | ⟨-, cut, -, rfl⟩ <;> exact ⟨rfl, rfl⟩
  | restore s now =>
    obtain ⟨cut, -, rfl⟩ := call_restore h
    exact ⟨rfl, rfl⟩
  | clearBefore t | remove id | clear | setThreshold ms =>
    obtain ⟨-, rfl⟩ := Prod.mk.inj (Except.ok.inj h)
    exact ⟨rfl, rfl⟩

/-- Every call keeps the log within its capacity. -/
theorem call_bounded {x : SlowLogCall} (h : log.call x = .ok (r, log'))
    (hb : log.entries.length ≤ log.capacity) : log'.entries.length ≤ log'.capacity := by
  cases x with
  | push e now =>
    rcases call_push h with ⟨-, rfl⟩ | ⟨-, cut, -, rfl⟩
    · exact hb
    · exact (List.length_filter_le _ _).trans (List.length_take_le _ _)
  | restore s now =>
    obtain ⟨cut, -, rfl⟩ := call_restore h
    exact (List.length_filter_le _ _).trans (List.length_take_le _ _)
  | clearBefore t | remove id =>
    obtain ⟨-, rfl⟩ := Prod.mk.inj (Except.ok.inj h)
    exact (List.length_filter_le _ _).trans hb
  | clear =>
    obtain ⟨-, rfl⟩ := Prod.mk.inj (Except.ok.inj h)
    exact Nat.zero_le _
  | setThreshold ms =>
    obtain ⟨-, rfl⟩ := Prod.mk.inj (Except.ok.inj h)
    exact hb

/-- Every call leaves entries in the order of what it admits: the pushed entry in front of what
was there, the rest in their order, or a restored snapshot's entries in theirs. -/
theorem call_sublist {x : SlowLogCall} {pool : List SlowEntry} (h : log.call x = .ok (r, log'))
    (hp : log.entries.Sublist pool) : log'.entries.Sublist (x.candidates log pool) := by
  cases x with
  | push e now =>
    rcases call_push h with ⟨hs, rfl⟩ | ⟨hs, cut, -, rfl⟩
    · simpa [SlowLogCall.candidates, hs] using hp
    · simp only [SlowLogCall.candidates, hs, if_true]
      exact List.filter_sublist.trans ((List.take_sublist _ _).trans (hp.cons_cons e))
  | restore s now =>
    obtain ⟨cut, -, rfl⟩ := call_restore h
    exact List.filter_sublist.trans (List.take_sublist _ _)
  | clearBefore t | remove id =>
    obtain ⟨-, rfl⟩ := Prod.mk.inj (Except.ok.inj h)
    exact List.filter_sublist.trans hp
  | clear =>
    obtain ⟨-, rfl⟩ := Prod.mk.inj (Except.ok.inj h)
    exact List.Sublist.slnil
  | setThreshold ms =>
    obtain ⟨-, rfl⟩ := Prod.mk.inj (Except.ok.inj h)
    exact hp

/-- A push of a slow entry whose cutoff is an instant succeeds and leaves only entries younger
than the cutoff. -/
theorem push_fresh {e : SlowEntry} {now cut : Instant} (hs : log.threshold < e.executionTime)
    (hcut : log.cutoff now = .ok cut) :
    ∃ b log', log.call (.push e now) = .ok (.kept b, log') ∧
      ∀ x ∈ log'.entries, cut < x.timestamp := by
  refine ⟨?b, ?log', ?run, ?fresh⟩
  case run =>
    simp only [call, push_of_slow hs hcut, bind, Except.bind, pure, Except.pure]
    rfl
  case fresh =>
    intro x hx
    exact (List.mem_filter.1 hx).2

/-- A restore whose cutoff is an instant succeeds and leaves only entries younger than it. -/
theorem restore_fresh {s : SlowLogSnapshot} {now cut : Instant} (hcut : log.cutoff now = .ok cut) :
    ∃ log', log.call (.restore s now) = .ok (.done, log') ∧
      ∀ x ∈ log'.entries, cut < x.timestamp := by
  refine ⟨?log', ?run, ?fresh⟩
  case run =>
    simp only [call, restore_eq hcut, bind, Except.bind, pure, Except.pure]
    rfl
  case fresh =>
    intro x hx
    exact (List.mem_filter.1 hx).2

/-- Dropping the entries up to an instant keeps exactly those after it, and answers how many
are at or before it. -/
theorem call_clearBefore (t : Instant) :
    log.call (.clearBefore t) =
      .ok (.dropped (log.entries.countP fun e => e.timestamp < t ∨ e.timestamp = t),
        { log with entries := log.entries.filter fun e => ¬ (e.timestamp < t ∨ e.timestamp = t) }) := by
  -- an entry is dropped exactly when it is at or before `t`
  have hdrop : (fun e : SlowEntry => !t.lt e.timestamp) =
      fun e => decide (e.timestamp < t ∨ e.timestamp = t) := by
    funext e
    apply Bool.eq_iff_iff.2
    rw [decide_eq_true_iff, ← Instant.not_lt_iff]
    show (!t.lt e.timestamp) = true ↔ ¬ (t.lt e.timestamp = true)
    cases t.lt e.timestamp <;> decide
  have hkeep : (fun e : SlowEntry => t.lt e.timestamp) =
      fun e => decide ¬ (e.timestamp < t ∨ e.timestamp = t) := by
    funext e
    rw [decide_not, ← congrFun hdrop e, Bool.not_not]
  have hcount := List.length_eq_length_filter_add (l := log.entries) fun e => t.lt e.timestamp
  rw [hdrop, hkeep] at hcount
  simp only [call, SlowLog.clearBefore, List.countP_eq_length_filter]
  rw [hkeep]
  congr 3
  omega

/-- Removing a query id keeps exactly the entries of other ids, and answers whether there was
any of it. -/
theorem call_remove (id : String) :
    ∃ b, log.call (.remove id) =
        .ok (.removed b, { log with entries := log.entries.filter fun e => e.queryId ≠ id }) ∧
      (b = true ↔ ∃ e ∈ log.entries, e.queryId = id) := by
  have hkeep : (fun e : SlowEntry => e.queryId != id) = fun e => decide (e.queryId ≠ id) := by
    funext e
    exact Bool.eq_iff_iff.2 (by simp)
  refine ⟨?b, ?run, ?found⟩
  case run =>
    simp only [call, SlowLog.remove, hkeep]
    rfl
  case found =>
    rw [bne_iff_ne, ne_eq, List.length_filter_eq_length_iff]
    simp

/-! ## Whole runs -/

variable {calls : List SlowLogCall} {rs : List SlowLogReply}

/-- A run that succeeds made its first call successfully and then the rest. -/
theorem run_cons {x : SlowLogCall} (h : log.run (x :: calls) = .ok (rs, log')) :
    ∃ r log₁ rs', log.call x = .ok (r, log₁) ∧ log₁.run calls = .ok (rs', log') ∧
      rs = r :: rs' := by
  cases hx : log.call x with
  | error f => simp [run, hx, bind, Except.bind] at h
  | ok first =>
    obtain ⟨r, log₁⟩ := first
    cases hrest : log₁.run calls with
    | error f => simp [run, hx, hrest, bind, Except.bind] at h
    | ok rest =>
      obtain ⟨rs', log₂⟩ := rest
      simp only [run, hx, hrest, bind, Except.bind, pure, Except.pure, Except.ok.injEq,
        Prod.mk.injEq] at h
      exact ⟨r, log₁, rs', rfl, h.2 ▸ hrest, h.1.symm⟩

/-- Runs one after the other make one run. -/
theorem run_append {calls' : List SlowLogCall} {rs' : List SlowLogReply} {log'' : SlowLog}
    (h : log.run calls = .ok (rs, log')) (h' : log'.run calls' = .ok (rs', log'')) :
    log.run (calls ++ calls') = .ok (rs ++ rs', log'') := by
  induction calls generalizing log rs with
  | nil =>
    simp only [run, Except.ok.injEq, Prod.mk.injEq] at h
    obtain ⟨rfl, rfl⟩ := h
    exact h'
  | cons x xs ih =>
    obtain ⟨r, log₁, rs₁, hx, hrest, hrs⟩ := run_cons h
    simp only [List.cons_append, run, hx, ih hrest, bind, Except.bind, pure, Except.pure, hrs]

/-- What every call keeps, every run keeps. -/
theorem run_preserves {P : SlowLog → Prop}
    (hstep : ∀ {log log' : SlowLog} {x r}, log.call x = .ok (r, log') → P log → P log')
    (h : log.run calls = .ok (rs, log')) (hp : P log) : P log' := by
  induction calls generalizing log rs with
  | nil =>
    simp only [run, Except.ok.injEq, Prod.mk.injEq] at h
    rw [← h.2]
    exact hp
  | cons x xs ih =>
    obtain ⟨r, log₁, rs₁, hx, hrest, -⟩ := run_cons h
    exact ih hrest (hstep hx hp)

/-- A run leaves entries in the order of what it admitted. -/
theorem run_sublist {pool : List SlowEntry} (h : log.run calls = .ok (rs, log'))
    (hp : log.entries.Sublist pool) : log'.entries.Sublist (log.admitted pool calls) := by
  induction calls generalizing log rs pool with
  | nil =>
    simp only [run, Except.ok.injEq, Prod.mk.injEq] at h
    rw [← h.2]
    exact hp
  | cons x xs ih =>
    obtain ⟨r, log₁, rs₁, hx, hrest, -⟩ := run_cons h
    simp only [admitted, hx]
    exact ih hrest (call_sublist hx hp)

/-- The empty log of a configuration has its capacity and its retention. -/
theorem create_eq {c : EngineConfig} {log₀ : SlowLog} (h : SlowLog.create c = .ok log₀) :
    log₀.entries = [] ∧ log₀.threshold = c.slowQueryThresholdMs ∧
      log₀.capacity = c.maxSlowQueries ∧
      log₀.retention = c.slowQueryRetentionDays * Instant.secondsPerDay := by
  unfold SlowLog.create at h
  split at h
  · cases h
  · cases h
    exact ⟨rfl, rfl, rfl, rfl⟩

/-- A log that a run reaches keeps the capacity of its configuration. -/
theorem Reaches.capacity {c : EngineConfig} (h : log.Reaches c) : log.capacity = c.maxSlowQueries := by
  obtain ⟨log₀, calls, rs, h₀, hrun⟩ := h
  have hkeep := run_preserves (P := fun l => l.capacity = log₀.capacity)
    (fun hx hp => (call_settings hx).1.trans hp) hrun rfl
  exact hkeep.trans (create_eq h₀).2.2.1

/-- The laws of the slow log. Over every run from the empty log of a configuration, the log
stays within the configured capacity, and its entries form a sublist of what the run admitted:
newest push first, each pushed entry slower than the threshold in force at its push, after the
entries of the last restore. A push of an entry that is not slow changes nothing. A push of a slow
entry, and a restore, succeed whenever the cutoff of their clock reading is an instant, and leave
only entries younger than it. Dropping up to an instant drops exactly the entries at or before it
and counts them; removing a query id drops exactly its entries and says whether there were
any. -/
theorem slow_log_laws (c : EngineConfig) :
    (∀ log₀ calls replies (log : SlowLog), SlowLog.create c = .ok log₀ →
      log₀.run calls = .ok (replies, log) →
      log.entries.length ≤ c.maxSlowQueries ∧ log.entries.Sublist (log₀.admitted [] calls)) ∧
    (∀ (log : SlowLog) e now, ¬ log.threshold < e.executionTime →
      log.call (.push e now) = .ok (.kept false, log)) ∧
    (∀ (log : SlowLog) e now cut, log.threshold < e.executionTime → log.cutoff now = .ok cut →
      ∃ b log', log.call (.push e now) = .ok (.kept b, log') ∧
        ∀ x ∈ log'.entries, cut < x.timestamp) ∧
    (∀ (log : SlowLog) s now cut, log.cutoff now = .ok cut →
      ∃ log', log.call (.restore s now) = .ok (.done, log') ∧
        ∀ x ∈ log'.entries, cut < x.timestamp) ∧
    (∀ (log : SlowLog) t, log.call (.clearBefore t) =
      .ok (.dropped (log.entries.countP fun e => e.timestamp < t ∨ e.timestamp = t),
        { log with entries := log.entries.filter fun e => ¬ (e.timestamp < t ∨ e.timestamp = t) })) ∧
    (∀ (log : SlowLog) id, ∃ b, log.call (.remove id) =
        .ok (.removed b, { log with entries := log.entries.filter fun e => e.queryId ≠ id }) ∧
      (b = true ↔ ∃ e ∈ log.entries, e.queryId = id)) := by
  refine ⟨?runs, fun log e now hs => ?fast, fun _ _ _ _ hs hcut => push_fresh hs hcut,
    fun _ _ _ _ hcut => restore_fresh hcut, fun _ t => call_clearBefore t, fun _ id => call_remove id⟩
  case runs =>
    intro log₀ calls replies log h₀ hrun
    obtain ⟨hentries, -, hcap, -⟩ := create_eq h₀
    -- the bound is kept call by call, from the empty log
    have hbound := run_preserves (P := fun l => l.entries.length ≤ l.capacity)
      (fun hx hb => call_bounded hx hb) hrun (by simp [hentries])
    have hsettings := run_preserves (P := fun l => l.capacity = log₀.capacity)
      (fun hx hp => (call_settings hx).1.trans hp) hrun rfl
    refine ⟨?_, run_sublist hrun (by simp [hentries])⟩
    rw [← hcap, ← hsettings]
    exact hbound
  case fast =>
    simp only [call, push_of_not_slow now hs, bind, Except.bind, pure, Except.pure]

/-- A push of a fast entry does not prune: two days after an entry 29 days old was logged under a
retention of 30 days, a fast push leaves that entry in the log although it is now past the
cutoff. -/
theorem fast_push_keeps_expired_entry :
    ∃ log₀ replies log cut, SlowLog.create {} = .ok log₀ ∧
      log₀.run [.push { queryId := "old", executionTime := 2000, timestamp := ⟨-29 * 86400, 0⟩ }
          ⟨0, 0⟩,
        .push { queryId := "fast", timestamp := ⟨2 * 86400, 0⟩ } ⟨2 * 86400, 0⟩] =
        .ok (replies, log) ∧
      log.cutoff ⟨2 * 86400, 0⟩ = .ok cut ∧ ∃ e ∈ log.entries, ¬ cut < e.timestamp :=
  ⟨_, _, _, _, rfl, rfl, rfl, _, List.mem_cons_self, by decide⟩

/-! ## Snapshots -/

/-- Restoring a snapshot undoes taking it, but for a zero threshold. Into any log that a run
reaches from the same configuration, at a clock reading whose cutoff every entry of the
snapshotted log is still younger than, the restore brings back the newest
`min snapshotEntries capacity` entries in their order, and the threshold when it is positive; a
snapshot with threshold 0 leaves the log its own threshold. -/
theorem restore_snapshot (c : EngineConfig) (L L₂ : SlowLog) (h₂ : L₂.Reaches c)
    (now cut : Instant) (hcut : L₂.cutoff now = .ok cut)
    (hfresh : ∀ e ∈ L.entries, cut < e.timestamp) :
    ∃ L', L₂.restore L.snapshot now = .ok L' ∧
      L'.entries = L.entries.take (min snapshotEntries (min c.maxSlowQueries L.entries.length)) ∧
      L'.threshold = if 0 < L.threshold then L.threshold else L₂.threshold := by
  refine ⟨_, restore_eq hcut, ?_, rfl⟩
  -- nothing is pruned: every entry of the snapshot is in `L` and younger than the cutoff
  have hkept : ∀ e ∈ (L.entries.take snapshotEntries).take L₂.capacity,
      cut.lt e.timestamp = true :=
    fun e he => hfresh e (List.mem_of_mem_take (List.mem_of_mem_take he))
  show ((L.entries.take snapshotEntries).take L₂.capacity).filter (cut.lt ·.timestamp) = _
  rw [List.filter_eq_self.2 hkept, h₂.capacity, List.take_take, List.take_eq_take_min,
    List.take_eq_take_min (i := min snapshotEntries (min _ _))]
  congr 1
  omega

/-- A log of the default configuration restores the snapshot of a log holding one recent slow
entry under threshold 500: the entry comes back, and so does the threshold. -/
theorem restore_snapshot_of_one_entry :
    let L : SlowLog :=
      { entries := [{ queryId := "a", executionTime := 700 }], threshold := 500, capacity := 1000,
        retention := 30 * 86400, similarityThreshold := 0.8, similarLimit := 10 }
    ∃ L₂, SlowLog.create {} = .ok L₂ ∧ L₂.Reaches {} ∧
      L₂.cutoff ⟨0, 0⟩ = .ok ⟨-30 * 86400, 0⟩ ∧ (∀ e ∈ L.entries, ⟨-30 * 86400, 0⟩ < e.timestamp) ∧
      ∃ L', L₂.restore L.snapshot ⟨0, 0⟩ = .ok L' ∧
        L'.entries = L.entries.take (min snapshotEntries (min 1000 L.entries.length)) ∧
        L'.threshold = if 0 < L.threshold then L.threshold else L₂.threshold := by
  intro L
  have hreach : ∀ L₂, SlowLog.create {} = .ok L₂ → L₂.Reaches {} :=
    fun L₂ h => ⟨L₂, [], [], h, rfl⟩
  refine ⟨_, rfl, hreach _ rfl, by decide, by decide, ?_⟩
  exact restore_snapshot {} L _ (hreach _ rfl) ⟨0, 0⟩ ⟨-30 * 86400, 0⟩ (by decide) (by decide)

/-- A snapshot taken at threshold 0 does not carry its threshold: restored into a fresh log of the
default configuration, the log keeps its own threshold of 1000 ms. -/
theorem restore_ignores_zero_threshold :
    ∃ L₂ L', SlowLog.create {} = .ok L₂ ∧ L₂.restore (L₂.setThreshold 0).snapshot ⟨0, 0⟩ = .ok L' ∧
      (L₂.setThreshold 0).threshold = 0 ∧ L'.threshold = 1000 :=
  ⟨_, _, rfl, rfl, rfl, rfl⟩

/-! ## What a push answers

A push answers whether an entry with the pushed entry's query id is in the log afterwards, not
whether the pushed entry itself is. The two agree while query ids are unique: then the answer
says that the entry stands at the front of the log, which is when it is slow, the capacity is
positive and it is younger than the retention cutoff. An older entry of the same id that
survives the push makes the answer `true` even when the pushed entry was dropped
(`push_reports_surviving_namesake`). -/

/-- In front of entries of other query ids, cut to `n` and filtered by `keep`, an entry is found
by its query id, and stands at the front, exactly when it is kept: `n` is positive and `keep`
holds of it. -/
theorem any_id_filter_take_cons {e : SlowEntry} {rest : List SlowEntry} (n : Nat)
    (keep : SlowEntry → Bool) (hid : ∀ x ∈ rest, x.queryId ≠ e.queryId) :
    ((((e :: rest).take n).filter keep).any (·.queryId == e.queryId) = true ↔
      0 < n ∧ keep e = true) ∧
    ((((e :: rest).take n).filter keep).head? = some e ↔ 0 < n ∧ keep e = true) := by
  cases n with
  | zero => simp
  | succ n =>
    -- what stays of the others has other ids, so it neither is `e` nor has its id
    have hothers : ∀ x ∈ (rest.take n).filter keep, x.queryId ≠ e.queryId :=
      fun x hx => hid x (List.mem_of_mem_take (List.mem_filter.1 hx).1)
    by_cases hkeep : keep e = true
    · simp [hkeep]
    · refine ⟨?_, ?_⟩
      · simpa [List.filter_cons, hkeep] using hothers
      · simp only [List.take_succ_cons, List.filter_cons, hkeep, Bool.false_eq_true, if_false,
          and_false, iff_false]
        intro hhead
        exact hothers e (List.mem_of_mem_head? hhead) rfl

/-- When no entry of the log has the pushed entry's query id, a push whose cutoff is an instant
answers whether the entry stands at the front of the log afterwards, and that is exactly when
the entry is slow, the capacity is positive and the entry is younger than the cutoff. -/
theorem push_reply_of_fresh_id (log : SlowLog) (e : SlowEntry) (now cut : Instant)
    (hcut : log.cutoff now = .ok cut) (hid : ∀ x ∈ log.entries, x.queryId ≠ e.queryId) :
    ∃ b log', log.push e now = .ok (b, log') ∧
      (b = true ↔ log'.entries.head? = some e) ∧
      (b = true ↔ log.threshold < e.executionTime ∧ 0 < log.capacity ∧ cut < e.timestamp) := by
  by_cases hs : log.threshold < e.executionTime
  · obtain ⟨hfound, hfront⟩ := any_id_filter_take_cons log.capacity (cut.lt ·.timestamp) hid
    refine ⟨_, _, push_of_slow hs hcut, ?_, ?_⟩
    · exact hfound.trans hfront.symm
    · rw [hfound]
      exact ⟨fun h => ⟨hs, h⟩, fun h => h.2⟩
  · -- nothing is logged, and the entry was not there before
    have habsent : log.entries.head? ≠ some e :=
      fun hhead => hid e (List.mem_of_mem_head? hhead) rfl
    refine ⟨_, _, push_of_not_slow now hs, ?_, ?_⟩
    · simpa using habsent
    · simp [hs]

/-- Into a log holding an entry of another id, a slow entry of a new id, as young as the clock
reading, stands at the front after the push, and the push says so. -/
theorem push_reply_of_fresh_id_beside_other :
    let log : SlowLog :=
      { entries := [{ queryId := "b", executionTime := 1500 }], threshold := 1000,
        capacity := 1000, retention := 30 * 86400, similarityThreshold := 0.8, similarLimit := 10 }
    let e : SlowEntry := { queryId := "a", executionTime := 2000 }
    log.cutoff ⟨0, 0⟩ = .ok ⟨-30 * 86400, 0⟩ ∧ (∀ x ∈ log.entries, x.queryId ≠ e.queryId) ∧
      ∃ b log', log.push e ⟨0, 0⟩ = .ok (b, log') ∧
        (b = true ↔ log'.entries.head? = some e) ∧
        (b = true ↔ log.threshold < e.executionTime ∧ 0 < log.capacity ∧
          (⟨-30 * 86400, 0⟩ : Instant) < e.timestamp) := by
  intro log e
  have hcut : log.cutoff ⟨0, 0⟩ = .ok ⟨-30 * 86400, 0⟩ := by decide
  have hid : ∀ x ∈ log.entries, x.queryId ≠ e.queryId := by decide
  exact ⟨hcut, hid, push_reply_of_fresh_id log e ⟨0, 0⟩ _ hcut hid⟩

/-- A push reports a surviving older entry of the same query id as its own: from the empty log
of the default configuration, a recent slow entry `x` is logged, and a second slow entry of id
`x` from before the retention cutoff is dropped by the push, which still answers `true`. -/
theorem push_reports_surviving_namesake :
    let x : SlowEntry := { queryId := "x", executionTime := 2000, timestamp := ⟨0, 0⟩ }
    let e : SlowEntry := { queryId := "x", executionTime := 2000, timestamp := ⟨-40 * 86400, 0⟩ }
    ∃ log₀ log, SlowLog.create {} = .ok log₀ ∧
      log₀.run [.push x ⟨0, 0⟩, .push e ⟨0, 0⟩] = .ok ([.kept true, .kept true], log) ∧
      log.entries = [x] ∧ e ∉ log.entries := by
  intro x e
  refine ⟨_, _, rfl, rfl, rfl, fun he => ?_⟩
  have htime := congrArg SlowEntry.timestamp (List.mem_singleton.1 he)
  simp [x, e] at htime

end SlowLog

end Sift
