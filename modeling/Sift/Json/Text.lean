import Sift.Json.Basic

/-!
# JSON text

Two printers of documents. The compact one writes no blanks at all; the pretty one breaks
after every opening bracket and entry, indents by two spaces per level, writes `": "` between a
key and its value, and writes an empty array or object as `[]` or `{}`. Both write entries in
the order the document holds them.

In strings, the quote and the backslash are escaped, as are the control characters below
U+0020: `\b`, `\t`, `\n`, `\f`, `\r` by name and the others as `\u00XX` with lowercase hex
digits. Everything else, `/` and non-ASCII included, is written as it is.
-/

namespace Sift.Json

/-- The lowercase hex digit of a value below 16. -/
def hexDigit (n : Nat) : Char :=
  if n < 10 then Char.ofNat (48 + n) else Char.ofNat (87 + n)

/-- The escaped form of one character inside a string. -/
def escapeChar (c : Char) : String :=
  if c = '"' then "\\\""
  else if c = '\\' then "\\\\"
  else if c = '\n' then "\\n"
  else if c = '\r' then "\\r"
  else if c = '\t' then "\\t"
  else if c = '\x08' then "\\b"
  else if c = '\x0c' then "\\f"
  else if c.toNat < 0x20 then
    "\\u00" ++ String.singleton (hexDigit (c.toNat / 16)) ++
      String.singleton (hexDigit (c.toNat % 16))
  else String.singleton c

/-- Appends the quoted, escaped form of a string. -/
def writeString (s : String) (acc : String) : String :=
  (s.foldl (fun a c => a ++ escapeChar c) (acc.push '"')).push '"'

/-- The quoted, escaped form of a string. -/
def quote (s : String) : String := writeString s ""

mutual

/-- Appends the compact text of a document. -/
def writeCompact : Json → String → String
  | .null, acc => acc ++ "null"
  | .bool b, acc => acc ++ (if b then "true" else "false")
  | .num n, acc => acc ++ n.render
  | .str s, acc => writeString s acc
  | .arr items, acc => (writeCompactItems items true (acc.push '[')).push ']'
  | .obj fields, acc => (writeCompactFields fields true (acc.push '{')).push '}'

/-- Appends items separated by commas. -/
def writeCompactItems : List Json → Bool → String → String
  | [], _, acc => acc
  | x :: xs, first, acc =>
    writeCompactItems xs false (writeCompact x (if first then acc else acc.push ','))

/-- Appends entries `"key":value` separated by commas. -/
def writeCompactFields : List (String × Json) → Bool → String → String
  | [], _, acc => acc
  | (k, x) :: xs, first, acc =>
    writeCompactFields xs false
      (writeCompact x ((writeString k (if first then acc else acc.push ',')).push ':'))

end

/-- The compact text of a document. -/
def compact (j : Json) : String := writeCompact j ""

/-- A line break followed by two spaces per level. -/
def newline (level : Nat) (acc : String) : String :=
  acc.push '\n' ++ String.ofList (List.replicate (2 * level) ' ')

mutual

/-- Appends the pretty text of a document whose first line is indented at `level`. -/
def writePretty : Json → Nat → String → String
  | .arr [], _, acc => acc ++ "[]"
  | .obj [], _, acc => acc ++ "{}"
  | .arr items, level, acc =>
    (newline level (writePrettyItems items (level + 1) true (acc.push '['))).push ']'
  | .obj fields, level, acc =>
    (newline level (writePrettyFields fields (level + 1) true (acc.push '{'))).push '}'
  | j, _, acc => writeCompact j acc

/-- Appends items, each on its own line at `level`. -/
def writePrettyItems : List Json → Nat → Bool → String → String
  | [], _, _, acc => acc
  | x :: xs, level, first, acc =>
    writePrettyItems xs level false
      (writePretty x level (newline level (if first then acc else acc.push ',')))

/-- Appends entries, each on its own line at `level`. -/
def writePrettyFields : List (String × Json) → Nat → Bool → String → String
  | [], _, _, acc => acc
  | (k, x) :: xs, level, first, acc =>
    writePrettyFields xs level false
      (writePretty x level
        (writeString k (newline level (if first then acc else acc.push ',')) ++ ": "))

end

/-- The pretty text of a document. -/
def pretty (j : Json) : String := writePretty j 0 ""

end Sift.Json
