/-!
# CSV records

Fields are parted by commas and records end with a line feed. A field is quoted only when it
holds a comma, a quote, a carriage return or a line feed; inside quotes a quote is written
twice.
-/

namespace Sift.Text.Csv

/-- Whether a field must be quoted. -/
def needsQuotes (s : String) : Bool :=
  s.any fun c => c = ',' ∨ c = '"' ∨ c = '\r' ∨ c = '\n'

/-- A field as written. -/
def field (s : String) : String :=
  if needsQuotes s then
    "\"" ++ String.join (s.toList.map fun c => if c = '"' then "\"\"" else String.singleton c) ++
      "\""
  else s

/-- A record as written, with its line feed. -/
def record (fields : List String) : String :=
  ",".intercalate (fields.map field) ++ "\n"

end Sift.Text.Csv
