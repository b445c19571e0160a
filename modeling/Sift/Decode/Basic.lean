import Sift.Json.Parse
import Sift.Json.Text

/-!
# Reading typed data out of JSON

A *decoder* turns a document into a value of a domain type or says why it cannot. The rules are
those of the engine's data formats:

* a string, a 64-bit integer, a double or a boolean must be exactly that kind of JSON value
  (an integer is accepted where a double is wanted, never the other way round);
* a list is an array; an optional field is absent or `null` when not given;
* a record (`Shape`) is an object whose keys name its fields (an alias names the same field,
  unknown keys are skipped, a field given twice is refused), or an array giving the fields in
  order; required fields that are missing are reported in declaration order;
* a choice among names (`variant`) is a string, or an object with exactly one key whose value is
  `null`.

A failure (`DecodeError`) records its cause and where in the document it was found, so that a
reader of text can say at which line and column; `DecodeError.message` gives the wording
without position.
-/

namespace Sift

open Json

/-- What a decoder found instead of what it wanted. -/
inductive Found where
  | null
  | bool (b : Bool)
  | int (i : Int)
  | float (bits : UInt64)
  | str (s : String)
  | seq
  | map
  deriving Repr

/-- The kind of a document, as a failure names it. -/
def Found.ofJson : Json → Found
  | .null => .null
  | .bool b => .bool b
  | .num (.int i) => .int i
  | .num (.float bits) => .float bits
  | .str s => .str s
  | .arr _ => .seq
  | .obj _ => .map

/-- Whether a character is shown as it is inside a quoted text of a message: printable ASCII,
and the non-ASCII characters outside the C1 controls, the soft hyphen and the combining marks. -/
def isShown (c : Char) : Bool :=
  let n := c.toNat
  if n < 0x80 then 0x20 ≤ n && n < 0x7F
  else !((0x80 ≤ n && n < 0xA0) || n == 0xAD || (0x300 ≤ n && n < 0x370) ||
    (0x483 ≤ n && n < 0x48A) || (0x591 ≤ n && n < 0x5BE) || (0x610 ≤ n && n < 0x61B) ||
    (0x64B ≤ n && n < 0x660) || (0x1AB0 ≤ n && n < 0x1B00) || (0x1DC0 ≤ n && n < 0x1E00) ||
    (0x200B ≤ n && n < 0x2010) || (0x2028 ≤ n && n < 0x202F) || (0x2060 ≤ n && n < 0x2070) ||
    (0x20D0 ≤ n && n < 0x2100) || (0xFE00 ≤ n && n < 0xFE10) || (0xFE20 ≤ n && n < 0xFE30) ||
    n == 0xFEFF || (0xFFF0 ≤ n && n < 0xFFFC) || (0xD800 ≤ n && n < 0xE000))

/-- Lowercase hex digits of a number, without leading zeros. -/
def hexText (n : Nat) : String := String.ofList (Nat.toDigits 16 n)

/-- A text in double quotes as messages show it: quote and backslash escaped, tab, line feed,
carriage return and NUL by name, other characters that are not shown as `\u{hex}`. -/
def debugQuote (s : String) : String :=
  let body := s.foldl (fun acc c =>
    if c = '"' then acc ++ "\\\""
    else if c = '\\' then acc ++ "\\\\"
    else if c = '\n' then acc ++ "\\n"
    else if c = '\r' then acc ++ "\\r"
    else if c = '\t' then acc ++ "\\t"
    else if c = '\x00' then acc ++ "\\0"
    else if isShown c then acc.push c
    else acc ++ "\\u\x7b" ++ hexText c.toNat ++ "\x7d") ""
  "\"" ++ body ++ "\""

/-- The wording of what was found. A double is shown as the JSON writer writes it, in the
float style with the exponent's sign: a `from` of `2^64`, which reads as a double, is refused with
``invalid type: floating point `1.8446744073709552e+19`, expected usize``, not in the positional
form `18446744073709552000.0`. -/
def Found.text : Found → String
  | .null => "null"
  | .bool b => "boolean `" ++ toString b ++ "`"
  | .int i => "integer `" ++ toString i ++ "`"
  | .float bits => "floating point `" ++ FloatStyle.json.renderBits bits ++ "`"
  | .str s => "string " ++ debugQuote s
  | .seq => "sequence"
  | .map => "map"

/-- Why a document does not decode. -/
inductive DecodeError.Cause where
  | invalidType (found : Found) (expected : String)
  | invalidValue (found : Found) (expected : String)
  | invalidLength (n : Nat) (expected : String)
  | extraItems (n : Nat)
  | missingField (name : String)
  | duplicateField (name : String)
  | unknownVariant (name : String) (expected : List String)
  | custom (text : String)
  deriving Repr

/-- A list of names in backquotes as "expected" phrases give it. -/
def oneOf : List String → String
  | [] => "there are no variants"
  | [a] => "expected `" ++ a ++ "`"
  | [a, b] => "expected `" ++ a ++ "` or `" ++ b ++ "`"
  | names => "expected one of " ++ ", ".intercalate (names.map fun n => "`" ++ n ++ "`")

/-- The wording of a cause. -/
def DecodeError.Cause.text : DecodeError.Cause → String
  | .invalidType f e => "invalid type: " ++ f.text ++ ", expected " ++ e
  | .invalidValue f e => "invalid value: " ++ f.text ++ ", expected " ++ e
  | .invalidLength n e => "invalid length " ++ toString n ++ ", expected " ++ e
  | .extraItems n => "invalid length " ++ toString n ++ ", expected fewer elements in array"
  | .missingField n => "missing field `" ++ n ++ "`"
  | .duplicateField n => "duplicate field `" ++ n ++ "`"
  | .unknownVariant n names => "unknown variant `" ++ n ++ "`, " ++ oneOf names
  | .custom t => t

/-- Where, relative to a node, a failure was noticed: after the node, at its first byte (not
read), after its closing bracket, after the key of its `i`-th entry, or at its `i`-th item (not
read). -/
inductive Spot where
  | token
  | opening
  | closing
  | key (i : Nat)
  | item (i : Nat)
  deriving Repr

/-- A failure to decode: its cause, the path of entry and item indices from the document's root
to the node, and the spot at that node. -/
structure DecodeError where
  cause : DecodeError.Cause
  path : List Nat := []
  spot : Spot := .token
  deriving Repr

/-- The wording of a failure, without position. -/
def DecodeError.message (e : DecodeError) : String := e.cause.text

/-- A failure found inside the `i`-th entry or item of a node. -/
def DecodeError.within (i : Nat) (e : DecodeError) : DecodeError :=
  { e with path := i :: e.path }

/-- The spot where a wrong kind of node is noticed: after a scalar, before a container. -/
def spotOf : Json → Spot
  | .arr _ | .obj _ => .opening
  | _ => .token

/-- A decoder of values of type `α`. -/
abbrev Decoder (α : Type) := Json → Except DecodeError α

namespace Decode

/-- Runs a decoder on the `i`-th entry or item, placing its failures there. -/
def inside (i : Nat) (d : Decoder α) : Decoder α :=
  fun j => (d j).mapError (DecodeError.within i)

/-- The failure "invalid type" for a document. -/
def wrongType (j : Json) (expected : String) : DecodeError :=
  { cause := .invalidType (Found.ofJson j) expected, spot := spotOf j }

/-- A string. -/
def string : Decoder String
  | .str s => .ok s
  | j => .error (wrongType j "a string")

/-- An unsigned 64-bit integer; `what` names the wanted type (`u64`, `usize`). -/
def unsigned (what : String) : Decoder Nat
  | .num (.int i) =>
    if 0 ≤ i then .ok i.toNat else .error { cause := .invalidValue (.int i) what }
  | j => .error (wrongType j what)

/-- An unsigned integer below `2^bits`; `what` names the wanted type (`u32`, `u8`). -/
def bounded (bits : Nat) (what : String) : Decoder Nat
  | .num (.int i) =>
    if 0 ≤ i ∧ i < Int.pow 2 bits then .ok i.toNat
    else .error { cause := .invalidValue (.int i) what }
  | j => .error (wrongType j what)

/-- A `u64`. -/
def u64 : Decoder Nat := unsigned "u64"

/-- A `usize` (64 bits wide). -/
def usize : Decoder Nat := unsigned "usize"

/-- A signed 64-bit integer. -/
def i64 : Decoder Int
  | .num (.int i) =>
    if i < Int.pow 2 63 then .ok i else .error { cause := .invalidValue (.int i) "i64" }
  | j => .error (wrongType j "i64")

/-- A double; an integer is converted. -/
def f64 : Decoder Float
  | .num n => .ok n.toFloat
  | j => .error (wrongType j "f64")

/-- A boolean. -/
def bool : Decoder Bool
  | .bool b => .ok b
  | j => .error (wrongType j "a boolean")

/-- Any document, taken as a value. -/
def value : Decoder Json := fun j => .ok j.normalize

/-- Nothing for `null`, else what `d` reads. -/
def option (d : Decoder α) : Decoder (Option α)
  | .null => .ok none
  | j => (d j).map some

/-- The items of an array, each read by `d`. -/
def list (d : Decoder α) : Decoder (List α)
  | .arr items =>
    let rec go : Nat → List Json → Except DecodeError (List α)
      | _, [] => .ok []
      | i, x :: xs => do
        let v ← inside i d x
        let vs ← go (i + 1) xs
        return v :: vs
    go 0 items
  | j => .error (wrongType j "a sequence")

/-- An object, taken as a value (keys sorted, the last of a repeated key winning). -/
def object : Decoder Json
  | .obj fields => .ok (Json.normalize (.obj fields))
  | j => .error (wrongType j "a map")

/-- An object whose values are strings, as entries sorted by key. -/
def stringMap : Decoder (List (String × String))
  | .obj fields => do
    let rec go : Nat → List (String × Json) → Except DecodeError (List (String × String))
      | _, [] => .ok []
      | i, (k, v) :: rest => do
        let s ← inside i string v
        let tail ← go (i + 1) rest
        return (k, s) :: tail
    let pairs ← go 0 fields
    let sorted := Json.sortFields (pairs.map fun (k, s) => (k, Json.str s))
    return sorted.map fun (k, v) => (k, (v.asString?).getD "")
  | j => .error (wrongType j "a map")

/-- A choice among `names`: a string naming it, or an object with one key naming it and `null`
as its value. `pick` maps a name to its choice; an unknown name is the `fallback` if there is
one, and refused otherwise. -/
def variant (names : List String) (fallback : Option α) (pick : String → Option α) : Decoder α
  | .str s =>
    match pick s, fallback with
    | some v, _ => .ok v
    | none, some v => .ok v
    | none, none => .error { cause := .unknownVariant s names }
  | .obj [(k, content)] =>
    let chosen : Except DecodeError α :=
      match pick k, fallback with
      | some v, _ => .ok v
      | none, some v => .ok v
      | none, none => .error { cause := .unknownVariant k names, spot := .key 0 }
    match chosen with
    | .error e => .error e
    | .ok v =>
      match content with
      | .null => .ok v
      | j => .error ((wrongType j "unit").within 0)
  | .obj _ => .error { cause := .invalidValue .map "map with a single key", spot := .opening }
  | j => .error (wrongType j "string or map")

end Decode

/-- The outline of a record: its name in messages and, per field in declaration order, the keys
that name it (the first is its own name, the others aliases). -/
structure Shape where
  name : String
  fields : List (List String)

namespace Shape

/-- The position of the field a key names. -/
def fieldOf (sh : Shape) (key : String) : Option Nat :=
  sh.fields.findIdx? (fun names => names.contains key)

/-- The own name of field `f`. -/
def nameOf (sh : Shape) (f : Nat) : String :=
  ((sh.fields[f]?).bind List.head?).getD ""

/-- Reads a record into `draft`, a value holding the defaults, storing each field given through
`put`. From an object: entries in the order held, unknown keys skipped, a field given twice
refused at its second key, then the first missing field of `required` (by position) refused.
From an array: items as fields in order; a missing required field, or items beyond the fields,
are refused. -/
def read (sh : Shape) (required : List Nat) (draft : σ)
    (put : σ → Nat → Json → Except DecodeError σ) : Decoder σ
  | .obj entries => do
    let rec walk : Nat → List (String × Json) → List Nat → σ → Except DecodeError (σ × List Nat)
      | _, [], seen, d => .ok (d, seen)
      | i, (k, v) :: rest, seen, d =>
        match sh.fieldOf k with
        | none => walk (i + 1) rest seen d
        | some f =>
          if seen.contains f then
            .error { cause := .duplicateField (sh.nameOf f), spot := .key i }
          else
            match put d f v with
            | .ok d' => walk (i + 1) rest (f :: seen) d'
            | .error e => .error (e.within i)
    let (d, seen) ← walk 0 entries [] draft
    match required.find? (fun f => !seen.contains f) with
    | some f => throw { cause := .missingField (sh.nameOf f), spot := .closing }
    | none => return d
  | .arr items => do
    let rec fill : Nat → List Json → σ → Except DecodeError σ
      | _, [], d => .ok d
      | i, x :: xs, d =>
        if i < sh.fields.length then
          match put d i x with
          | .ok d' => fill (i + 1) xs d'
          | .error e => .error (e.within i)
        else .ok d
    let d ← fill 0 items draft
    match required.find? (fun f => items.length ≤ f) with
    | some f =>
      throw { cause := .invalidLength f ("struct " ++ sh.name ++ " with " ++
        toString sh.fields.length ++ " elements"), spot := .closing }
    | none =>
      if sh.fields.length < items.length then
        throw { cause := .extraItems items.length, spot := .item sh.fields.length }
      return d
  | j => .error (Decode.wrongType j ("struct " ++ sh.name))

end Shape

/-- The byte offset where a failure was noticed in a text whose nodes are at `span`. -/
def Json.Span.offsetOf : Json.Span → List Nat → Spot → Nat
  | .seq _ _ items, i :: rest, spot =>
    match items[i]? with
    | some s => s.offsetOf rest spot
    | none => 0
  | .map _ _ _ values, i :: rest, spot =>
    match values[i]? with
    | some s => s.offsetOf rest spot
    | none => 0
  | s, _, .token => s.stop
  | s, _, .opening => s.start
  | s, _, .closing => s.stop
  | .map _ _ keys _, _, .key i => keys[i]?.getD 0
  | .seq _ _ items, _, .item i => (items[i]?.map (·.start + 1)).getD 0
  | s, _, _ => s.stop

/-- The message of a failure to decode a text, with its line and column. Items beyond a record's
fields are "trailing characters" when reading text. -/
def DecodeError.messageIn (e : DecodeError) (text : String) (span : Json.Span) : String :=
  let offset := span.offsetOf e.path e.spot
  match e.cause with
  | .extraItems _ => Json.atPosition text offset "trailing characters"
  | c => Json.atPosition text offset c.text

/-- The bytes read when a failure was noticed: where it is reported, except that an item beyond
a record's fields is noticed on seeing its first byte, before it is read. -/
def Json.Span.noticedAt (s : Json.Span) (path : List Nat) (spot : Spot) : Nat :=
  match spot with
  | .item _ => s.offsetOf path spot - 1
  | _ => s.offsetOf path spot

namespace Decode

/-- Reads a text with a decoder as the text is read, so that the first failure in reading order
is the one reported, with its line and column. When the text is not JSON, the decoder runs on
what was read of it (see `Json.Broken`): a failure it notices by the time the text broke off
comes first; otherwise the syntax error is reported. -/
def fromText (d : Decoder α) (text : String) : Except String α :=
  match Json.readDocument text with
  | .ok (j, s) => (d j).mapError fun e => e.messageIn text s
  | .error b =>
    match d b.value with
    | .error e =>
      if b.span.noticedAt e.path e.spot ≤ b.error.read then .error (e.messageIn text b.span)
      else .error (b.error.message text)
    | .ok _ => .error (b.error.message text)

end Decode

end Sift
