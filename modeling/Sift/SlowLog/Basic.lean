import Sift.SlowLog.Entry
import Sift.Engine.Config
import Sift.Engine.Fault

/-!
# The slow log

A bounded log of slow queries, newest first. A query is slow when it ran strictly longer than the
threshold. Logging a slow query puts it in front, drops the oldest entries beyond the capacity,
and then drops every entry that is not younger than the retention cutoff, `now` less the
retention period; the answer says whether the new entry survived. Restoring a snapshot applies
the same capacity and cutoff.

The retention period is a number of days. A period of more days than a duration can hold is a
fault when the log is created; a cutoff outside the range of instants is a fault when it is
computed.
-/

namespace Sift

open Json Time

/-- The most days a retention period may hold: a duration holds at most `2^63 - 1`
milliseconds, and `106751991167` days of 86400 seconds fit in that while one more day does not. -/
def maxRetentionDays : Nat := 106751991167

/-- How many entries a snapshot of the slow log keeps. -/
def snapshotEntries : Nat := 500

/-- The slow log and its settings. -/
structure SlowLog where
  /-- Newest first. -/
  entries : List SlowEntry := []
  threshold : Nat
  capacity : Nat
  /-- The retention period in seconds. -/
  retention : Int
  similarityThreshold : Float
  similarLimit : Nat
  deriving Inhabited, Repr

namespace SlowLog

/-- An empty log with the settings of a configuration; a fault if the retention period is out of
bounds. -/
def create (c : EngineConfig) : Except Fault SlowLog :=
  if c.slowQueryRetentionDays.natAbs > maxRetentionDays then .error .retentionOutOfBounds
  else .ok {
    threshold := c.slowQueryThresholdMs, capacity := c.maxSlowQueries,
    retention := c.slowQueryRetentionDays * Instant.secondsPerDay,
    similarityThreshold := c.similarityThreshold, similarLimit := c.similarLimit }

/-- Whether a query that ran `ms` milliseconds is slow. -/
def isSlow (log : SlowLog) (ms : Nat) : Bool := ms > log.threshold

/-- The log with a new threshold; logged entries keep theirs. -/
def setThreshold (log : SlowLog) (ms : Nat) : SlowLog := { log with threshold := ms }

/-- The retention cutoff at time `now`: entries at or before it are dropped. -/
def cutoff (log : SlowLog) (now : Instant) : Except Fault Instant :=
  match now.shift? (-log.retention) with
  | some c => .ok c
  | none => .error .cutoffOutOfRange

/-- The log without the entries at or before the retention cutoff. -/
def prune (log : SlowLog) (now : Instant) : Except Fault SlowLog := do
  let c ← log.cutoff now
  return { log with entries := log.entries.filter (c.lt ·.timestamp) }

/-- Logs an entry if it is slow: in front, within capacity, then pruned. Says whether an entry
with its query id is in the log afterwards (always `false` for a query that is not slow). -/
def push (log : SlowLog) (e : SlowEntry) (now : Instant) : Except Fault (Bool × SlowLog) :=
  if !log.isSlow e.executionTime then .ok (false, log)
  else do
    let log' ← ({ log with entries := (e :: log.entries).take log.capacity } : SlowLog).prune now
    return (log'.entries.any (·.queryId == e.queryId), log')

/-- The newest `limit` entries. -/
def recent (log : SlowLog) (limit : Nat) : List SlowEntry := log.entries.take limit

/-- Drops the entries at or before an instant and says how many were dropped. -/
def clearBefore (log : SlowLog) (t : Instant) : Nat × SlowLog :=
  let kept := log.entries.filter (t.lt ·.timestamp)
  (log.entries.length - kept.length, { log with entries := kept })

/-- Drops the entries of a query id and says whether there were any. -/
def remove (log : SlowLog) (id : String) : Bool × SlowLog :=
  let kept := log.entries.filter (·.queryId != id)
  (kept.length != log.entries.length, { log with entries := kept })

/-- The log without entries. -/
def clear (log : SlowLog) : SlowLog := { log with entries := [] }

end SlowLog

/-- What of a slow log is kept between runs: its newest entries and its threshold. -/
structure SlowLogSnapshot where
  entries : List SlowEntry := []
  threshold : Nat := 0
  deriving Inhabited, Repr

namespace SlowLogSnapshot

/-- A snapshot as JSON. -/
def toJson (s : SlowLogSnapshot) : Json :=
  .obj [("queries", .arr (s.entries.map SlowEntry.toJson)), ("threshold_ms", Json.nat s.threshold)]

/-- The keys of a snapshot; both are required. -/
def shape : Shape := { name := "SlowLogSnapshot", fields := [["queries"], ["threshold_ms"]] }

/-- Reads a snapshot. -/
def decode : Decoder SlowLogSnapshot :=
  shape.read [0, 1] ({} : SlowLogSnapshot) fun s f v =>
    match f with
    | 0 => return { s with entries := ← Decode.list SlowEntry.decode v }
    | _ => return { s with threshold := ← Decode.u64 v }

end SlowLogSnapshot

namespace SlowLog

/-- The snapshot of a log: its newest `snapshotEntries` entries and its threshold. -/
def snapshot (log : SlowLog) : SlowLogSnapshot := ⟨log.recent snapshotEntries, log.threshold⟩

/-- The log holding a snapshot's entries, within capacity and pruned; the snapshot's threshold
is taken unless it is zero. -/
def restore (log : SlowLog) (s : SlowLogSnapshot) (now : Instant) : Except Fault SlowLog :=
  let threshold := if s.threshold > 0 then s.threshold else log.threshold
  ({ log with threshold, entries := s.entries.take log.capacity } : SlowLog).prune now

end SlowLog

end Sift
