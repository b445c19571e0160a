import Sift.Json.Basic

/-!
# Reading JSON text

`Json.parseDocument` reads a text into a document with its entries as written, together with
the byte offsets of every node (`Span`), which locate later complaints about the document.
`Json.parse` reads a text into a value (objects sorted, a repeated key keeping its last value).

The grammar is standard JSON with blanks being space, tab, line feed and carriage return, and
with at most 127 nested arrays and objects. A failure names its cause (`SyntaxError.Kind`) and a byte
offset; `SyntaxError.message` turns the offset into a line and a column, the column counting the
bytes of its line up to the offset.

Numbers: an integer that fits in `[-2^63, 2^64)` stays an integer (`-0` is the double `-0.0`).
Any other number is read as a double from its decimal significand and exponent: the significand
takes digits while it fits in 64 bits and the rest only shift the exponent; it is converted to a
double and then multiplied or divided by the power of ten `10^|exp|` (a double, for
`|exp| ≤ 308`; smaller exponents divide by `10^308` first). A product that overflows is
"number out of range".
-/

namespace Sift.Json

/-- Why a text is not a JSON document. -/
inductive SyntaxError.Kind where
  | eofWhileParsingList
  | eofWhileParsingObject
  | eofWhileParsingString
  | eofWhileParsingValue
  | expectedColon
  | expectedListCommaOrEnd
  | expectedObjectCommaOrEnd
  | expectedSomeIdent
  | expectedSomeValue
  | invalidEscape
  | invalidNumber
  | numberOutOfRange
  | controlCharacterWhileParsingString
  | keyMustBeAString
  | loneLeadingSurrogateInHexEscape
  | trailingComma
  | trailingCharacters
  | unexpectedEndOfHexEscape
  | recursionLimitExceeded
  deriving DecidableEq, Repr

/-- The wording of each cause. -/
def SyntaxError.Kind.text : SyntaxError.Kind → String
  | .eofWhileParsingList => "EOF while parsing a list"
  | .eofWhileParsingObject => "EOF while parsing an object"
  | .eofWhileParsingString => "EOF while parsing a string"
  | .eofWhileParsingValue => "EOF while parsing a value"
  | .expectedColon => "expected `:`"
  | .expectedListCommaOrEnd => "expected `,` or `]`"
  | .expectedObjectCommaOrEnd => "expected `,` or `\x7d`"
  | .expectedSomeIdent => "expected ident"
  | .expectedSomeValue => "expected value"
  | .invalidEscape => "invalid escape"
  | .invalidNumber => "invalid number"
  | .numberOutOfRange => "number out of range"
  | .controlCharacterWhileParsingString =>
    "control character (\\u0000-\\u001F) found while parsing a string"
  | .keyMustBeAString => "key must be a string"
  | .loneLeadingSurrogateInHexEscape => "lone leading surrogate in hex escape"
  | .trailingComma => "trailing comma"
  | .trailingCharacters => "trailing characters"
  | .unexpectedEndOfHexEscape => "unexpected end of hex escape"
  | .recursionLimitExceeded => "recursion limit exceeded"

/-- A failure to read a text: its cause, the byte offset it is reported at, and the bytes read
when it was noticed (one less than the offset when the failure is the character about to be
read). -/
structure SyntaxError where
  kind : SyntaxError.Kind
  offset : Nat
  read : Nat
  deriving Repr

/-- The line (from one) and column of a byte offset: the column is the number of bytes between
the last line feed before the offset and the offset. -/
def lineColumn (text : String) (offset : Nat) : Nat × Nat :=
  let bytes := (text.toUTF8.toList.take offset)
  let rec go : List UInt8 → Nat → Nat → Nat × Nat
    | [], line, col => (line, col)
    | b :: bs, line, col => if b = 10 then go bs (line + 1) 0 else go bs line (col + 1)
  go bytes 1 0

/-- Appends " at line L column C" for an offset of a text. -/
def atPosition (text : String) (offset : Nat) (msg : String) : String :=
  let (line, col) := lineColumn text offset
  msg ++ " at line " ++ toString line ++ " column " ++ toString col

/-- The message of a failure to read `text`. -/
def SyntaxError.message (e : SyntaxError) (text : String) : String :=
  atPosition text e.offset e.kind.text

/-- Byte offsets of a document's nodes: where each starts and ends, and for each object entry
the offset after its key and the blanks that follow it. -/
inductive Span where
  | leaf (start stop : Nat)
  | seq (start stop : Nat) (items : List Span)
  | map (start stop : Nat) (keys : List Nat) (values : List Span)
  deriving Inhabited, Repr

/-- Where a node starts. -/
def Span.start : Span → Nat
  | .leaf s _ => s
  | .seq s _ _ => s
  | .map s _ _ _ => s

/-- Where a node ends. -/
def Span.stop : Span → Nat
  | .leaf _ e => e
  | .seq _ e _ => e
  | .map _ e _ _ => e

/-- The reading state: the characters left and the bytes read so far. -/
structure Cursor where
  rest : List Char
  pos : Nat
  /-- The byte length of the whole text, where reading can go no further. -/
  size : Nat

namespace Cursor

/-- Skips one character. -/
def next (c : Cursor) : Cursor :=
  match c.rest with
  | [] => c
  | ch :: cs => { c with rest := cs, pos := c.pos + ch.utf8Size }

/-- The next character, if any. -/
def peek (c : Cursor) : Option Char := c.rest.head?

/-- A failure at the bytes read so far. -/
def fail (c : Cursor) (k : SyntaxError.Kind) : SyntaxError := ⟨k, c.pos, c.pos⟩

/-- A failure at the end of the text, all of it read. -/
def failAtEnd (c : Cursor) (k : SyntaxError.Kind) : SyntaxError := ⟨k, c.size, c.size⟩

/-- A failure at the character about to be read. -/
def failAhead (c : Cursor) (k : SyntaxError.Kind) : SyntaxError :=
  ⟨k, min (c.pos + 1) c.size, c.pos⟩

/-- Skips blanks. -/
def skipBlanks (c : Cursor) : Cursor :=
  let blanks := c.rest.takeWhile (fun ch => ch = ' ' || ch = '\n' || ch = '\t' || ch = '\r')
  { c with rest := c.rest.drop blanks.length, pos := c.pos + blanks.length }

end Cursor

/-- The value of a hex digit. -/
def hexValue (c : Char) : Option Nat :=
  if '0' ≤ c ∧ c ≤ '9' then some (c.toNat - 48)
  else if 'a' ≤ c ∧ c ≤ 'f' then some (c.toNat - 87)
  else if 'A' ≤ c ∧ c ≤ 'F' then some (c.toNat - 55)
  else none

/-- Reads four hex digits of a `\u` escape. -/
def readHex4 (c : Cursor) : Except SyntaxError (Nat × Cursor) :=
  match c.rest with
  | a :: b :: d :: e :: rest =>
    let c' :=
      { c with rest := rest, pos := c.pos + a.utf8Size + b.utf8Size + d.utf8Size + e.utf8Size }
    match hexValue a, hexValue b, hexValue d, hexValue e with
    | some w, some x, some y, some z => .ok (((w * 16 + x) * 16 + y) * 16 + z, c')
    | _, _, _, _ => .error (c'.fail .invalidEscape)
  | _ => .error (c.failAtEnd .eofWhileParsingString)

/-- Reads the rest of a `\u` escape whose first four digits gave `n`, pairing a leading
surrogate with the trailing one that must follow. -/
def readUnicodeEscape (c : Cursor) : Except SyntaxError (Char × Cursor) := do
  let (n, c) ← readHex4 c
  if 0xDC00 ≤ n ∧ n ≤ 0xDFFF then throw (c.fail .loneLeadingSurrogateInHexEscape)
  if n < 0xD800 ∨ 0xDBFF < n then return (Char.ofNat n, c)
  match c.rest with
  | [] => throw (c.failAtEnd .eofWhileParsingString)
  | '\\' :: _ =>
    let c := c.next
    match c.rest with
    | [] => throw (c.failAtEnd .eofWhileParsingString)
    | 'u' :: _ =>
      let (n2, c) ← readHex4 c.next
      if n2 < 0xDC00 ∨ 0xDFFF < n2 then throw (c.fail .loneLeadingSurrogateInHexEscape)
      return (Char.ofNat (((n - 0xD800) * 1024 + (n2 - 0xDC00)) + 0x10000), c)
    | _ => throw (c.next.fail .unexpectedEndOfHexEscape)
  | _ => throw (c.next.fail .unexpectedEndOfHexEscape)

/-- Reads the body of a string after its opening quote, up to and including the closing
quote. -/
def readString (c : Cursor) : Except SyntaxError (String × Cursor) :=
  let rec go : Nat → Cursor → String → Except SyntaxError (String × Cursor)
    | 0, c, _ => .error (c.failAtEnd .eofWhileParsingString)
    | fuel + 1, c, acc =>
      match c.rest with
      | [] => .error (c.failAtEnd .eofWhileParsingString)
      | '"' :: _ => .ok (acc, c.next)
      | '\\' :: _ =>
        let c := c.next
        match c.rest with
        | [] => .error (c.failAtEnd .eofWhileParsingString)
        | e :: _ =>
          let c1 := c.next
          if e = 'u' then
            match readUnicodeEscape c1 with
            | .ok (ch, c2) => go fuel c2 (acc.push ch)
            | .error err => .error err
          else
            let decoded : Option Char :=
              if e = '"' then some '"' else if e = '\\' then some '\\'
              else if e = '/' then some '/' else if e = 'b' then some '\x08'
              else if e = 'f' then some '\x0c' else if e = 'n' then some '\n'
              else if e = 'r' then some '\r' else if e = 't' then some '\t' else none
            match decoded with
            | some ch => go fuel c1 (acc.push ch)
            | none => .error (c1.fail .invalidEscape)
      | ch :: _ =>
        if ch.toNat < 0x20 then .error (c.next.fail .controlCharacterWhileParsingString)
        else go fuel c.next (acc.push ch)
  go (c.rest.length + 1) c ""

/-- The powers of ten `10^0 … 10^308` as doubles, each the double nearest to the power. -/
def pow10 (k : Nat) : Float := Float.ofScientific 1 false k

/-- `significand * 10^exponent` in double arithmetic as described in the module comment, or
nothing when the product overflows. -/
def floatOfParts (positive : Bool) (significand : Nat) (exponent : Int) : Option Float :=
  let rec go : Nat → Float → Int → Option Float
    | 0, f, _ => some f
    | fuel + 1, f, e =>
      if e.natAbs ≤ 308 then
        if 0 ≤ e then
          let g := f * pow10 e.natAbs
          if g.isInf then none else some g
        else some (f / pow10 e.natAbs)
      else if f == 0 then some f
      else if 0 ≤ e then none
      else go fuel (f / pow10 308) (e + 308)
  (go 8 (Float.ofNat significand) exponent).map (fun f => if positive then f else -f)

/-- The largest 64-bit unsigned integer. -/
def u64Max : Nat := Nat.pow 2 64 - 1

/-- Whether `s * 10 + d` would pass the 64-bit unsigned range. -/
def overflows (s d : Nat) : Bool :=
  s ≥ u64Max / 10 && (s > u64Max / 10 || d > u64Max % 10)

/-- The digits at the front of a cursor. -/
def leadingDigits (c : Cursor) : List Char := c.rest.takeWhile Char.isDigit

/-- Skips `n` ASCII characters. -/
def Cursor.skip (c : Cursor) (n : Nat) : Cursor :=
  { c with rest := c.rest.drop n, pos := c.pos + n }

/-- Accumulates digits into a significand while it fits in 64 bits; returns the significand,
the number of digits taken and whether digits had to be dropped. -/
def takeSignificand (s : Nat) : List Char → Nat × Nat × Bool
  | [] => (s, 0, false)
  | d :: ds =>
    let v := d.toNat - 48
    if overflows s v then (s, 0, true)
    else
      let (s', n, cut) := takeSignificand (s * 10 + v) ds
      (s', n + 1, cut)

/-- Reads an exponent part after `e`/`E` and finishes the double. -/
def readExponent (positive : Bool) (significand : Nat) (start : Int) (c : Cursor) :
    Except SyntaxError (Number × Cursor) := do
  let c := c.next
  let (expPositive, c) :=
    match c.peek with
    | some '+' => (true, c.next)
    | some '-' => (false, c.next)
    | _ => (true, c)
  match c.rest with
  | [] => throw (c.fail .eofWhileParsingValue)
  | d :: _ =>
    if !d.isDigit then throw (c.next.fail .invalidNumber)
    let ds := leadingDigits c
    let c := c.skip ds.length
    let e : Nat := ds.foldl (fun acc ch => acc * 10 + (ch.toNat - 48)) 0
    if e > 2147483647 then
      if significand ≠ 0 ∧ expPositive then throw (c.fail .numberOutOfRange)
      return (Number.ofFloat (if positive then 0.0 else -0.0), c)
    let final : Int := if expPositive then start + (e : Int) else start - (e : Int)
    match floatOfParts positive significand final with
    | some f => return (Number.ofFloat f, c)
    | none => throw (c.fail .numberOutOfRange)

/-- Reads the fraction after `.` and what follows it. -/
def readFraction (positive : Bool) (significand : Nat) (before : Int) (c : Cursor) :
    Except SyntaxError (Number × Cursor) := do
  let c := c.next
  let ds := leadingDigits c
  if ds.isEmpty then
    match c.peek with
    | some _ => throw (c.failAhead .invalidNumber)
    | none => throw (c.failAhead .eofWhileParsingValue)
  let (s, taken, _) := takeSignificand significand ds
  let c := c.skip ds.length
  let exponent := before - taken
  match c.peek with
  | some 'e' | some 'E' => readExponent positive s exponent c
  | _ =>
    match floatOfParts positive s exponent with
    | some f => return (Number.ofFloat f, c)
    | none => throw (c.fail .numberOutOfRange)

/-- Reads a number after its optional minus sign. -/
def readNumber (positive : Bool) (c : Cursor) : Except SyntaxError (Number × Cursor) := do
  match c.rest with
  | [] => throw (c.fail .eofWhileParsingValue)
  | '0' :: rest =>
    let c := c.next
    match rest with
    | d :: _ =>
      if d.isDigit then throw (c.failAhead .invalidNumber)
    | [] => pure ()
    finish positive 0 0 c
  | d :: _ =>
    if !d.isDigit then throw (c.next.fail .invalidNumber)
    let ds := leadingDigits c
    let (s, taken, cut) := takeSignificand 0 ds
    let c := c.skip ds.length
    finish positive s (if cut then ds.length - taken else 0) c
where
  /-- What follows the integer digits: a fraction, an exponent or the end of the number. -/
  finish (positive : Bool) (s : Nat) (dropped : Nat) (c : Cursor) :
      Except SyntaxError (Number × Cursor) :=
    match c.peek with
    | some '.' => readFraction positive s dropped c
    | some 'e' | some 'E' => readExponent positive s dropped c
    | _ =>
      if dropped > 0 then
        match floatOfParts positive s dropped with
        | some f => .ok (Number.ofFloat f, c)
        | none => .error (c.fail .numberOutOfRange)
      else if positive then .ok (.int s, c)
      else if s = 0 then .ok (Number.ofFloat (-0.0), c)
      else if s ≤ Nat.pow 2 63 then .ok (.int (-(s : Int)), c)
      else .ok (Number.ofFloat (-(Float.ofNat s)), c)

/-- Reads a literal word after its first letter. -/
def readWord (word : List Char) (c : Cursor) : Except SyntaxError Cursor :=
  let rec go : List Char → Cursor → Except SyntaxError Cursor
    | [], c => .ok c
    | w :: ws, c =>
      match c.rest with
      | [] => .error (c.fail .eofWhileParsingValue)
      | ch :: _ => if ch = w then go ws c.next else .error (c.next.fail .expectedSomeIdent)
  go word c

/-- A failure to read a value, with the part of it read before the failure: the items and
entries read in full, then what was read of the one being read; `null` stands for a value of
which nothing can be kept, and for the value of a key whose value was not reached. A node left
unfinished ends past the text (at `Cursor.size + 1`), so that nothing is noticed at its end
before the failure. -/
structure Broken where
  error : SyntaxError
  value : Json
  span : Span
  deriving Repr

mutual

/-- Reads one value at the cursor (after blanks), with `depth` nested containers left. -/
def readValue (fuel depth : Nat) (c : Cursor) : Except Broken (Json × Span × Cursor) :=
  let c := c.skipBlanks
  let start := c.pos
  let cut (e : SyntaxError) : Broken := ⟨e, .null, .leaf start (c.size + 1)⟩
  match fuel with
  | 0 => .error (cut (c.fail .recursionLimitExceeded))
  | fuel + 1 =>
    match c.rest with
    | [] => .error (cut (c.failAhead .eofWhileParsingValue))
    | ch :: _ =>
      if ch = 'n' then
        ((readWord ['u', 'l', 'l'] c.next).map fun c' => (.null, .leaf start c'.pos, c')).mapError
          cut
      else if ch = 't' then
        ((readWord ['r', 'u', 'e'] c.next).map fun c' =>
          (.bool true, .leaf start c'.pos, c')).mapError cut
      else if ch = 'f' then
        ((readWord ['a', 'l', 's', 'e'] c.next).map fun c' =>
          (.bool false, .leaf start c'.pos, c')).mapError cut
      else if ch = '-' then
        ((readNumber false c.next).map fun (n, c') => (.num n, .leaf start c'.pos, c')).mapError cut
      else if ch.isDigit then
        ((readNumber true c).map fun (n, c') => (.num n, .leaf start c'.pos, c')).mapError cut
      else if ch = '"' then
        ((readString c.next).map fun (s, c') => (.str s, .leaf start c'.pos, c')).mapError cut
      else if ch = '[' then
        if depth ≤ 1 then .error (cut (c.failAhead .recursionLimitExceeded))
        else
          match readItems fuel (depth - 1) c.next true [] [] with
          | .ok (items, spans, c') => .ok (.arr items, .seq start c'.pos spans, c')
          | .error (e, items, spans) => .error ⟨e, .arr items, .seq start (c.size + 1) spans⟩
      else if ch = '{' then
        if depth ≤ 1 then .error (cut (c.failAhead .recursionLimitExceeded))
        else
          match readEntries fuel (depth - 1) c.next true [] [] [] with
          | .ok (fields, keys, spans, c') => .ok (.obj fields, .map start c'.pos keys spans, c')
          | .error (e, fields, keys, spans) =>
            .error ⟨e, .obj fields, .map start (c.size + 1) keys spans⟩
      else .error (cut (c.failAhead .expectedSomeValue))

/-- Reads array items up to and including the closing bracket. On failure, gives the items read
and what was read of the one being read; an item due after a comma when the text ends is a
placeholder that starts at the end. -/
def readItems (fuel depth : Nat) (c : Cursor) (first : Bool) (acc : List Json) (spans : List Span) :
    Except (SyntaxError × List Json × List Span) (List Json × List Span × Cursor) :=
  match fuel with
  | 0 => .error (c.fail .recursionLimitExceeded, acc.reverse, spans.reverse)
  | fuel + 1 =>
    let c := c.skipBlanks
    match c.rest with
    | [] => .error (c.failAhead .eofWhileParsingList, acc.reverse, spans.reverse)
    | ']' :: _ => .ok (acc.reverse, spans.reverse, c.next)
    | ch :: _ =>
      if first then
        match readValue fuel depth c with
        | .ok (v, s, c') => readItems fuel depth c' false (v :: acc) (s :: spans)
        | .error b => .error (b.error, (b.value :: acc).reverse, (b.span :: spans).reverse)
      else if ch = ',' then
        let c := c.next.skipBlanks
        match c.rest with
        | [] =>
          .error (c.failAhead .eofWhileParsingValue, (.null :: acc).reverse,
            (.leaf c.pos (c.size + 1) :: spans).reverse)
        | ']' :: _ => .error (c.failAhead .trailingComma, acc.reverse, spans.reverse)
        | _ =>
          match readValue fuel depth c with
          | .ok (v, s, c') => readItems fuel depth c' false (v :: acc) (s :: spans)
          | .error b => .error (b.error, (b.value :: acc).reverse, (b.span :: spans).reverse)
      else .error (c.failAhead .expectedListCommaOrEnd, acc.reverse, spans.reverse)

/-- Reads object entries up to and including the closing brace. On failure, gives the entries
read and, once a key is read, its entry with what was read of its value. -/
def readEntries (fuel depth : Nat) (c : Cursor) (first : Bool) (acc : List (String × Json))
    (keys : List Nat) (spans : List Span) :
    Except (SyntaxError × List (String × Json) × List Nat × List Span)
      (List (String × Json) × List Nat × List Span × Cursor) :=
  match fuel with
  | 0 => .error (c.fail .recursionLimitExceeded, acc.reverse, keys.reverse, spans.reverse)
  | fuel + 1 =>
    let c := c.skipBlanks
    match c.rest with
    | [] => .error (c.failAhead .eofWhileParsingObject, acc.reverse, keys.reverse, spans.reverse)
    | '}' :: _ => .ok (acc.reverse, keys.reverse, spans.reverse, c.next)
    | ch :: _ =>
      let keyCursor : Except SyntaxError Cursor :=
        if first then
          if ch = '"' then .ok c else .error (c.failAhead .keyMustBeAString)
        else if ch = ',' then
          let c := c.next.skipBlanks
          match c.rest with
          | '"' :: _ => .ok c
          | '}' :: _ => .error (c.failAhead .trailingComma)
          | [] => .error (c.failAhead .eofWhileParsingValue)
          | _ => .error (c.failAhead .keyMustBeAString)
        else .error (c.failAhead .expectedObjectCommaOrEnd)
      match keyCursor with
      | .error e => .error (e, acc.reverse, keys.reverse, spans.reverse)
      | .ok c =>
        match readString c.next with
        | .error e => .error (e, acc.reverse, keys.reverse, spans.reverse)
        | .ok (k, c) =>
          let c := c.skipBlanks
          let keyEnd := c.pos
          let cut (e : SyntaxError) : SyntaxError × List (String × Json) × List Nat × List Span :=
            (e, ((k, .null) :: acc).reverse, (keyEnd :: keys).reverse,
              (.leaf keyEnd (c.size + 1) :: spans).reverse)
          match c.rest with
          | ':' :: _ =>
            match readValue fuel depth c.next with
            | .ok (v, s, c') =>
              readEntries fuel depth c' false ((k, v) :: acc) (keyEnd :: keys) (s :: spans)
            | .error b =>
              .error (b.error, ((k, b.value) :: acc).reverse, (keyEnd :: keys).reverse,
                (b.span :: spans).reverse)
          | [] => .error (cut (c.failAhead .eofWhileParsingObject))
          | _ => .error (cut (c.failAhead .expectedColon))

end

/-- Reads a whole text as one document, entries as written, with the offsets of its nodes.
Blanks may surround the document; anything else after it is "trailing characters", and then
the document is complete. On failure, gives what was read of the document (see `Broken`). -/
def readDocument (text : String) : Except Broken (Json × Span) := do
  let chars := text.toList
  let c : Cursor := { rest := chars, pos := 0, size := text.utf8ByteSize }
  let (j, s, c) ← readValue (4 * chars.length + 8) 128 c
  let c := c.skipBlanks
  match c.rest with
  | [] => return (j, s)
  | _ => throw ⟨c.failAhead .trailingCharacters, j, s⟩

/-- Reads a whole text as one document, entries as written, with the offsets of its nodes. -/
def parseDocument (text : String) : Except SyntaxError (Json × Span) :=
  (readDocument text).mapError (·.error)

/-- Reads a whole text as a value (see `Json.normalize`). -/
def parse (text : String) : Except SyntaxError Json :=
  (parseDocument text).map (fun (j, _) => j.normalize)

end Sift.Json
