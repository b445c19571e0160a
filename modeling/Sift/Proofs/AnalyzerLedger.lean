import Mathlib
import Sift.Performance.Analyzer
import Sift.Proofs.SlowLogRuns

/-!
# The analyzer keeps the books of its records

The performance analyzer is driven by records of executed queries, threshold changes and clears.
Its three bounded lists, the records, the analyses and the slow log, are fed at different points
of `Analyzer.recordEntry`, under two capacities and a threshold that may change between records.

`Ledger` states what they stand for: the threshold in force, and every record received since the
last clear, newest first, each with the clock reading it came with and the threshold in force
when it came (`Received`). A record is slow when it ran strictly longer than that threshold.

Over every run from the empty analyzer of a configuration (`Analyzer.run_books`):

* the call answers the analysis of a record exactly when the record is slow;
* the history, at any limit, is the newest received records, as many as the limit and the
  capacity allow;
* the analyses are those of the slow received records, newest first, within their capacity;
* the slow log is the log driven by exactly one push per slow record, of the record's entry
  carrying the threshold in force, at the record's clock reading, and by the threshold changes:
  records that are not slow never reach it, and a clear of the analyzer leaves it alone.

A slow record whose clock reading lies within one retention period of the first instant cannot be
logged: its cutoff falls outside the range of instants and the call fails. A run whose record calls
all come at clock readings with a cutoff succeeds.
-/

namespace Sift

open Time

/-- A call on the analyzer. -/
inductive AnalyzerCall where
  | record (r : PerformanceRecord) (now : Instant)
  | setThreshold (ms : Nat)
  | clear

namespace Analyzer

/-- One call on an analyzer: a record is answered with its analysis when it is slow. -/
def call (a : Analyzer) : AnalyzerCall → Except Fault (Option QueryAnalysis × Analyzer)
  | .record r now => a.recordEntry r now
  | .setThreshold ms => .ok (none, a.setThreshold ms)
  | .clear => .ok (none, a.clear)

/-- The answers of a run of calls and the analyzer it ends with; the first fault ends the run. -/
def run (a : Analyzer) : List AnalyzerCall → Except Fault (List (Option QueryAnalysis) × Analyzer)
  | [] => .ok ([], a)
  | x :: xs => do
    let (r, a₁) ← a.call x
    let (rs, a₂) ← a₁.run xs
    return (r :: rs, a₂)

end Analyzer

/-- A record as the analyzer received it: with the clock reading it came with and the slow
threshold in force when it came. -/
structure Received where
  record : PerformanceRecord
  now : Instant
  threshold : Nat

namespace Received

/-- A received record is slow when it ran strictly longer than the threshold in force. -/
def slow (x : Received) : Bool := decide (x.threshold < x.record.executionTime)

/-- The analysis of a received record, made when it came. -/
def analysis (x : Received) : QueryAnalysis := analyze x.record x.now

end Received

/-- What an analyzer's books stand for: the threshold in force, and the records received since
the last clear, newest first. -/
structure Ledger where
  threshold : Nat
  received : List Received

namespace Ledger

/-- The ledger of a fresh analyzer. -/
def start (c : EngineConfig) : Ledger := ⟨c.slowQueryThresholdMs, []⟩

/-- One call: a record is received under the threshold in force and answered with its analysis
exactly when it is slow; a new threshold holds from then on; a clear forgets what was received. -/
def call (l : Ledger) : AnalyzerCall → Option QueryAnalysis × Ledger
  | .record r now =>
    let x : Received := ⟨r, now, l.threshold⟩
    (if x.slow then some x.analysis else none, { l with received := x :: l.received })
  | .setThreshold ms => (none, { l with threshold := ms })
  | .clear => (none, { l with received := [] })

/-- The answers of a run of calls and the ledger it ends with. -/
def run (l : Ledger) : List AnalyzerCall → List (Option QueryAnalysis) × Ledger
  | [] => ([], l)
  | x :: xs => ((l.call x).1 :: ((l.call x).2.run xs).1, ((l.call x).2.run xs).2)

/-- What a call hands the slow log: the entry of a slow record, carrying the threshold in force,
pushed at the record's clock reading, and a new threshold. A record that is not slow and a clear
hand it nothing. -/
def logCalls (l : Ledger) : AnalyzerCall → List SlowLogCall
  | .record r now =>
    if l.threshold < r.executionTime then [.push (r.toSlowEntry l.threshold) now] else []
  | .setThreshold ms => [.setThreshold ms]
  | .clear => []

/-- What a run of calls hands the slow log, in order. -/
def logged (l : Ledger) : List AnalyzerCall → List SlowLogCall
  | [] => []
  | x :: xs => l.logCalls x ++ (l.call x).2.logged xs

end Ledger

/-- A record list and its bound: cutting after putting one in front of a cut list is cutting
once. -/
theorem take_cons_take {α : Type} (a : α) (l : List α) (m : Nat) :
    (a :: l.take m).take m = (a :: l).take m := by
  cases m with
  | zero => rfl
  | succ n => simp [List.take_succ_cons, List.take_take]

namespace Analyzer

/-- An analyzer keeps the books of a ledger: its records are the newest received ones within the
capacity, its analyses those of the slow received ones within theirs, and its threshold is the
ledger's. -/
structure Keeps (a : Analyzer) (l : Ledger) : Prop where
  records : a.records = (l.received.map (·.record)).take a.maxRecords
  analyses : a.analyses = ((l.received.filter (·.slow)).map (·.analysis)).take a.maxAnalyses
  threshold : a.threshold = l.threshold

variable {a : Analyzer} {l : Ledger}

/-! ## One call -/

/-- A record that is not slow is kept among the records and goes no further. -/
theorem recordEntry_of_not_slow {r : PerformanceRecord} (now : Instant)
    (h : ¬ a.threshold < r.executionTime) :
    a.recordEntry r now = .ok (none, { a with records := (r :: a.records).take a.maxRecords }) := by
  have hslow : a.slowLog.isSlow r.executionTime = false := by
    simpa [SlowLog.isSlow, threshold] using h
  simp [recordEntry, hslow]

/-- A slow record is kept among the records, its entry is pushed to the slow log under the
threshold in force, and its analysis is kept and answered. -/
theorem recordEntry_of_slow {r : PerformanceRecord} {now : Instant} {b : Bool} {log : SlowLog}
    (h : a.threshold < r.executionTime) (hpush : a.slowLog.push (r.toSlowEntry a.threshold) now = .ok (b, log)) :
    a.recordEntry r now = .ok (some (analyze r now),
      { a with records := (r :: a.records).take a.maxRecords, slowLog := log,
               analyses := (analyze r now :: a.analyses).take a.maxAnalyses }) := by
  have hslow : a.slowLog.isSlow r.executionTime = true := by
    simpa [SlowLog.isSlow, threshold] using h
  simp [recordEntry, hslow, hpush, bind, Except.bind, pure, Except.pure]

/-- One call keeps the books: it answers as the ledger does, and leaves an analyzer with the
same capacities that keeps the books of the ledger after the call, whose slow log is the slow log
after what the call hands it. A record call needs the cutoff of its clock reading. -/
theorem call_keeps (hk : a.Keeps l) (x : AnalyzerCall)
    (hclock : ∀ r now, x = .record r now → ∃ cut, a.slowLog.cutoff now = .ok cut) :
    ∃ a', a.call x = .ok ((l.call x).1, a') ∧ a'.Keeps (l.call x).2 ∧
      a'.maxRecords = a.maxRecords ∧ a'.maxAnalyses = a.maxAnalyses ∧
      ∃ replies, a.slowLog.run (l.logCalls x) = .ok (replies, a'.slowLog) := by
  cases x with
  | record r now =>
    have hθ : a.threshold = l.threshold := hk.threshold
    have hrecords : (r :: a.records).take a.maxRecords =
        (((Ledger.call l (.record r now)).2.received).map (·.record)).take a.maxRecords := by
      simp [Ledger.call, hk.records, take_cons_take]
    by_cases hs : l.threshold < r.executionTime
    · -- a slow record: its entry is pushed under the threshold in force, its analysis kept
      obtain ⟨cut, hcut⟩ := hclock r now rfl
      obtain ⟨b, log', hpush, hthreshold⟩ :=
        SlowLog.push_ok (e := r.toSlowEntry a.threshold) hcut
      have hslow : (Received.slow ⟨r, now, l.threshold⟩) = true := by simp [Received.slow, hs]
      let a' : Analyzer :=
        { a with
          records := (r :: a.records).take a.maxRecords
          slowLog := log'
          analyses := (analyze r now :: a.analyses).take a.maxAnalyses }
      refine ⟨a', ?call, ⟨hrecords, ?analyses, ?threshold⟩, rfl, rfl, [.kept b], ?log⟩
      case call =>
        rw [call, recordEntry_of_slow (hθ ▸ hs) hpush]
        simp [Ledger.call, hslow, Received.analysis, a']
      case analyses =>
        simp [a', Ledger.call, hk.analyses, hslow, Received.analysis, take_cons_take]
      case threshold => exact hthreshold.trans hθ
      case log =>
        rw [Ledger.logCalls, if_pos hs, ← hθ]
        simp only [SlowLog.run, SlowLog.call, hpush, bind, Except.bind, pure, Except.pure, a']
    · -- a record that is not slow is only kept among the records
      have hslow : (Received.slow ⟨r, now, l.threshold⟩) = false := by simp [Received.slow, hs]
      refine ⟨{ a with records := (r :: a.records).take a.maxRecords }, ?call,
        ⟨hrecords, ?analyses, hθ⟩, rfl, rfl, [], ?log⟩
      case call =>
        rw [call, recordEntry_of_not_slow now (hθ ▸ hs)]
        simp [Ledger.call, hslow]
      case analyses => simp [Ledger.call, hk.analyses, hslow]
      case log => simp [Ledger.logCalls, hs, SlowLog.run]
  | setThreshold ms =>
    exact ⟨a.setThreshold ms, rfl, ⟨hk.records, hk.analyses, rfl⟩, rfl, rfl, [.done], rfl⟩
  | clear =>
    exact ⟨a.clear, rfl, ⟨by simp [clear, Ledger.call], by simp [clear, Ledger.call],
      hk.threshold⟩, rfl, rfl, [], rfl⟩

/-! ## Whole runs -/

/-- The empty analyzer of a configuration: no records and no analyses, the configured
capacities, and the empty slow log of the configuration. -/
theorem create_eq {c : EngineConfig} {a₀ : Analyzer} (h : Analyzer.create c = .ok a₀) :
    a₀.records = [] ∧ a₀.analyses = [] ∧ a₀.maxRecords = c.maxPerformanceHistory ∧
      a₀.maxAnalyses = c.maxAnalyses ∧ SlowLog.create c = .ok a₀.slowLog := by
  cases hlog : SlowLog.create c with
  | error f => simp [Analyzer.create, hlog, bind, Except.bind] at h
  | ok log =>
    simp only [Analyzer.create, hlog, bind, Except.bind, pure, Except.pure, Except.ok.injEq] at h
    subst h
    exact ⟨rfl, rfl, rfl, rfl, rfl⟩

/-- A fresh analyzer keeps the books of a fresh ledger. -/
theorem create_keeps {c : EngineConfig} {a₀ : Analyzer} (h : Analyzer.create c = .ok a₀) :
    a₀.Keeps (Ledger.start c) := by
  obtain ⟨hrecords, hanalyses, -, -, hlog⟩ := create_eq h
  refine ⟨by simp [hrecords, Ledger.start], by simp [hanalyses, Ledger.start], ?_⟩
  exact (SlowLog.create_eq hlog).2.1

/-- A run keeps the books, call by call, provided every record's clock reading has a retention
cutoff among the instants. -/
theorem run_keeps (hk : a.Keeps l) (calls : List AnalyzerCall)
    (hclock : ∀ r now, AnalyzerCall.record r now ∈ calls →
      (now.shift? (-a.slowLog.retention)).isSome) :
    ∃ a', a.run calls = .ok ((l.run calls).1, a') ∧ a'.Keeps (l.run calls).2 ∧
      a'.maxRecords = a.maxRecords ∧ a'.maxAnalyses = a.maxAnalyses ∧
      ∃ replies, a.slowLog.run (l.logged calls) = .ok (replies, a'.slowLog) := by
  induction calls generalizing a l with
  | nil => exact ⟨a, rfl, hk, rfl, rfl, [], rfl⟩
  | cons x xs ih =>
    -- the first call, then the rest of the run from the analyzer it leaves
    have hcut : ∀ r now, x = .record r now → ∃ cut, a.slowLog.cutoff now = .ok cut := by
      intro r now hx
      obtain ⟨cut, hshift⟩ := Option.isSome_iff_exists.1 (hclock r now (hx ▸ List.mem_cons_self))
      exact ⟨cut, by simp [SlowLog.cutoff, hshift]⟩
    obtain ⟨a₁, hcall, hk₁, hmax₁, hmaxa₁, rs₁, hlog₁⟩ := call_keeps hk x hcut
    have hretention : a₁.slowLog.retention = a.slowLog.retention :=
      SlowLog.run_preserves (P := fun log => log.retention = a.slowLog.retention)
        (fun hx hp => (SlowLog.call_settings hx).2.trans hp) hlog₁ rfl
    obtain ⟨a₂, hrun, hk₂, hmax₂, hmaxa₂, rs₂, hlog₂⟩ := ih hk₁ fun r now hmem => by
      rw [hretention]
      exact hclock r now (List.mem_cons_of_mem _ hmem)
    refine ⟨a₂, ?_, hk₂, hmax₂.trans hmax₁, hmaxa₂.trans hmaxa₁, rs₁ ++ rs₂,
      SlowLog.run_append hlog₁ hlog₂⟩
    simp only [run, hcall, hrun, Ledger.run, bind, Except.bind, pure, Except.pure]

/-- The books of the analyzer. Over every run from the empty analyzer of a configuration whose
record calls all come at clock readings with a retention cutoff among the instants, the run
succeeds; it answers the analysis of a record exactly when the record ran longer than the
threshold in force when it came; the history, at any limit, is the records received since the
last clear, newest first, as many as the limit and the configured capacity allow; the analyses
are those of the slow ones among them, newest first, within their capacity; the threshold is the
last one set; and the slow log is the configuration's empty log after exactly one push per slow
record, of its entry carrying the threshold in force, at its clock reading, and the threshold
changes. -/
theorem run_books (c : EngineConfig) (a₀ : Analyzer) (h₀ : Analyzer.create c = .ok a₀)
    (calls : List AnalyzerCall)
    (hclock : ∀ r now, AnalyzerCall.record r now ∈ calls →
      (now.shift? (-(c.slowQueryRetentionDays * Instant.secondsPerDay))).isSome) :
    let l := (Ledger.start c).run calls
    ∃ a, a₀.run calls = .ok (l.1, a) ∧
      (∀ limit, a.history limit =
        (l.2.received.map (·.record)).take (min limit c.maxPerformanceHistory)) ∧
      a.analyses = ((l.2.received.filter (·.slow)).map (·.analysis)).take c.maxAnalyses ∧
      a.threshold = l.2.threshold ∧
      ∃ replies, a₀.slowLog.run ((Ledger.start c).logged calls) = .ok (replies, a.slowLog) := by
  intro l
  obtain ⟨-, -, hmax, hmaxa, hlog⟩ := create_eq h₀
  have hretention := (SlowLog.create_eq hlog).2.2.2
  obtain ⟨a, hrun, hk, hmax', hmaxa', replies, hslow⟩ :=
    run_keeps (create_keeps h₀) calls (by rw [hretention]; exact hclock)
  refine ⟨a, hrun, fun limit => ?_, ?_, hk.threshold, replies, hslow⟩
  · rw [history, hk.records, List.take_take, hmax', hmax]
  · rw [hk.analyses, hmaxa', hmaxa]

/-- A run of the default configuration: a slow record, a threshold raised above it, and the same
record again, which is now fast. -/
theorem run_books_raised_threshold :
    let calls := [AnalyzerCall.record { queryId := "q1", executionTime := 2000 } ⟨0, 0⟩,
      .setThreshold 3000, .record { queryId := "q2", executionTime := 2000 } ⟨0, 0⟩]
    let l := (Ledger.start {}).run calls
    ∃ a₀, Analyzer.create {} = .ok a₀ ∧
      (∀ r now, AnalyzerCall.record r now ∈ calls →
        (now.shift? (-(({} : EngineConfig).slowQueryRetentionDays * Instant.secondsPerDay))).isSome) ∧
      ∃ a, a₀.run calls = .ok (l.1, a) ∧
        (∀ limit, a.history limit =
          (l.2.received.map (·.record)).take (min limit ({} : EngineConfig).maxPerformanceHistory)) ∧
        a.analyses = ((l.2.received.filter (·.slow)).map (·.analysis)).take
          ({} : EngineConfig).maxAnalyses ∧
        a.threshold = l.2.threshold ∧
        ∃ replies, a₀.slowLog.run ((Ledger.start {}).logged calls) = .ok (replies, a.slowLog) := by
  intro calls l
  have hclock : ∀ r now, AnalyzerCall.record r now ∈ calls →
      (now.shift? (-(({} : EngineConfig).slowQueryRetentionDays * Instant.secondsPerDay))).isSome := by
    intro r now hmem
    simp only [calls, List.mem_cons, AnalyzerCall.record.injEq, List.mem_nil_iff, or_false,
      reduceCtorEq, false_or] at hmem
    rcases hmem with ⟨-, rfl⟩ | ⟨-, rfl⟩ <;> decide
  exact ⟨_, rfl, hclock, run_books {} _ rfl calls hclock⟩

end Analyzer

end Sift
