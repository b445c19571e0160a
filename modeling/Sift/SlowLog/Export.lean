import Sift.SlowLog.Basic
import Sift.Text.Csv

/-!
# Exporting the slow log

The entries, newest first, as text in one of two formats. JSON is the pretty form of the array
of entries, fields in declaration order. CSV has the header
`timestamp,index,execution_time_ms,result_count,query` and one record per entry, with the
timestamp written with `+00:00` and the query as compact JSON.
-/

namespace Sift

open Json Time

/-- A format the slow log can be written in. -/
inductive ExportFormat where
  | json
  | csv
  deriving DecidableEq, Repr

namespace ExportFormat

/-- The format a name denotes, compared without regard to ASCII case; a failure names the
lowercased text. -/
def parse (s : String) : Except String ExportFormat :=
  match s.toLower with
  | "json" => .ok .json
  | "csv" => .ok .csv
  | other => .error ("unknown export format '" ++ other ++ "'")

/-- The title of a format. -/
def title : ExportFormat → String
  | .json => "Json"
  | .csv => "Csv"

end ExportFormat

/-- The header of the CSV export. -/
def csvHeader : List String := ["timestamp", "index", "execution_time_ms", "result_count", "query"]

/-- The CSV record of an entry. -/
def SlowEntry.csvRecord (e : SlowEntry) : List String :=
  [e.timestamp.rfc3339, e.index, toString e.executionTime, toString e.resultCount, e.query.compact]

/-- The log's entries written in a format. -/
def SlowLog.export (log : SlowLog) : ExportFormat → String
  | .json => Json.pretty (.arr (log.entries.map SlowEntry.toJson))
  | .csv => Text.Csv.record csvHeader ++ String.join (log.entries.map (Text.Csv.record ·.csvRecord))

end Sift
