import Sift.Performance.Analysis
import Sift.SlowLog.Report

/-!
# The performance analyzer

Keeps the most recent records of executed queries, newest first, within a capacity. A record of
a slow query is also logged in the slow log, under the threshold in force, and analyzed; the
analysis is kept, newest first, within its own capacity. Summary figures look at the newest
records of a window.
-/

namespace Sift

open Json Time

/-- How many records a snapshot keeps. -/
def snapshotRecords : Nat := 100

/-- How many analyses a snapshot keeps. -/
def snapshotAnalyses : Nat := 50

/-- Records, analyses and the slow log, with their capacities. -/
structure Analyzer where
  /-- Newest first. -/
  records : List PerformanceRecord := []
  /-- Newest first. -/
  analyses : List QueryAnalysis := []
  slowLog : SlowLog
  maxRecords : Nat
  maxAnalyses : Nat
  /-- How many of the newest records summary figures look at. -/
  statsWindow : Nat
  deriving Inhabited

/-- Summary figures over recent records. -/
structure PerformanceStats where
  total : Nat := 0
  averageTime : Float := 0.0
  slow : Nat := 0
  fast : Nat := 0
  averageResults : Float := 0.0

/-- Summary figures as JSON. -/
def PerformanceStats.toJson (s : PerformanceStats) : Json :=
  .obj [("total_queries", Json.nat s.total), ("avg_execution_time", Json.float s.averageTime),
    ("slow_queries", Json.nat s.slow), ("fast_queries", Json.nat s.fast),
    ("avg_result_count", Json.float s.averageResults)]

/-- What of an analyzer is kept between runs: its newest records and analyses. -/
structure PerformanceSnapshot where
  records : List PerformanceRecord := []
  analyses : List QueryAnalysis := []
  deriving Inhabited

namespace PerformanceSnapshot

/-- The keys of a snapshot; both are required. -/
def shape : Shape := { name := "PerformanceSnapshot", fields := [["records"], ["analyses"]] }

/-- Reads a snapshot. -/
def decode : Decoder PerformanceSnapshot :=
  shape.read [0, 1] ({} : PerformanceSnapshot) fun s f v =>
    match f with
    | 0 => return { s with records := ← Decode.list PerformanceRecord.decode v }
    | _ => return { s with analyses := ← Decode.list QueryAnalysis.decode v }

end PerformanceSnapshot

namespace Analyzer

/-- An empty analyzer with the settings of a configuration. -/
def create (c : EngineConfig) : Except Fault Analyzer := do
  let log ← SlowLog.create c
  return { slowLog := log, maxRecords := c.maxPerformanceHistory, maxAnalyses := c.maxAnalyses,
           statsWindow := c.statsWindow }

/-- The slow threshold in milliseconds. -/
def threshold (a : Analyzer) : Nat := a.slowLog.threshold

/-- The analyzer with a new slow threshold, for records from now on. -/
def setThreshold (a : Analyzer) (ms : Nat) : Analyzer :=
  { a with slowLog := a.slowLog.setThreshold ms }

/-- Keeps a record; if it is slow, also logs it and keeps and answers its analysis at `now`. -/
def recordEntry (a : Analyzer) (r : PerformanceRecord) (now : Instant) :
    Except Fault (Option QueryAnalysis × Analyzer) :=
  let records := (r :: a.records).take a.maxRecords
  if !a.slowLog.isSlow r.executionTime then .ok (none, { a with records })
  else do
    let (_, log) ← a.slowLog.push (r.toSlowEntry a.threshold) now
    let an := analyze r now
    return (some an, { a with records, slowLog := log,
                              analyses := (an :: a.analyses).take a.maxAnalyses })

/-- Summary figures over the newest `statsWindow` records. -/
def stats (a : Analyzer) : PerformanceStats :=
  let recent := a.records.take a.statsWindow
  if recent.isEmpty then {}
  else
    let slow := (recent.filter (·.executionTime > a.threshold)).length
    { total := recent.length, averageTime := Stats.mean (recent.map (·.executionTime)),
      slow := slow, fast := recent.length - slow,
      averageResults := Stats.mean (recent.map (·.resultCount)) }

/-- The newest `limit` records. -/
def history (a : Analyzer) (limit : Nat) : List PerformanceRecord := a.records.take limit

/-- The analyzer without records and analyses; the slow log stays. -/
def clear (a : Analyzer) : Analyzer := { a with records := [], analyses := [] }

/-- The snapshot of an analyzer. -/
def snapshot (a : Analyzer) : PerformanceSnapshot :=
  ⟨a.records.take snapshotRecords, a.analyses.take snapshotAnalyses⟩

/-- The analyzer holding a snapshot's records and analyses, within capacity. -/
def restore (a : Analyzer) (s : PerformanceSnapshot) : Analyzer :=
  { a with records := s.records.take a.maxRecords, analyses := s.analyses.take a.maxAnalyses }

end Analyzer

end Sift
