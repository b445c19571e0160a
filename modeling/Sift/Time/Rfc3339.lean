import Sift.Time.Instant
import Sift.Text.Blank
import Sift.Decode.Basic

/-!
# Reading RFC 3339 timestamps

`Instant.parse` reads a date and time with an offset, `2024-01-02T03:04:05.123+02:00`, and gives
the UTC instant it denotes. The grammar is RFC 3339 relaxed in a few ways:

* blanks may stand before every number, before each `-` and `:` and before the offset;
* a year without sign has one to four digits, a signed one any number; month, day, hour, minute
  and second have one or two digits;
* date and time are joined by `T`, `t` or a space;
* the fraction has any number of digits, of which the first nine count;
* the offset is `Z`, `z`, `UTC` in any case, or a sign (`+`, `-` or the minus sign U+2212), two
  digits of hours and two of minutes, optionally parted by colons or blanks;
* blanks may follow the offset.

Each number is checked as soon as it is read: month 1 to 12, day 1 to 31, hour 0 to 23, minute
0 to 59, second 0 to 60 (60 is a leap second). After the whole text is read the date must exist,
the offset must be less than a day and the instant must be in range. A failure is one of four
causes, worded by `TimeError.message`.
-/

namespace Sift.Time

/-- Why a text is not a timestamp. -/
inductive TimeError where
  /-- A number or the date it makes is outside its range. -/
  | outOfRange
  /-- A character that the grammar does not allow where it stands. -/
  | invalid
  /-- The text ends where more is needed. -/
  | tooShort
  /-- Text follows the timestamp. -/
  | tooLong
  deriving DecidableEq, Repr

/-- The wording of a failure. -/
def TimeError.message : TimeError → String
  | .outOfRange => "input is out of range"
  | .invalid => "input contains invalid characters"
  | .tooShort => "premature end of input"
  | .tooLong => "trailing input"

namespace Rfc3339

/-- The largest number a field may hold while it is read: `2^63 - 1`. -/
def numberLimit : Nat := Nat.pow 2 63 - 1

/-- The text after leading blanks. -/
def skipBlanks (cs : List Char) : List Char := cs.dropWhile Text.isBlank

/-- The value of a digit character. -/
def digitValue (c : Char) : Nat := c.toNat - 48

/-- Reads one to `max` digits: there must be a first character and it must be a digit. -/
def number (max : Nat) (cs : List Char) : Except TimeError (Nat × List Char) :=
  match cs with
  | [] => .error .tooShort
  | c :: _ =>
    if !c.isDigit then .error .invalid
    else
      let ds := (cs.takeWhile Char.isDigit).take max
      let v := ds.foldl (fun a c => 10 * a + digitValue c) 0
      if v > numberLimit then .error .outOfRange else .ok (v, cs.drop ds.length)

/-- Reads a number of one to `max` digits after blanks and checks it against `lo` and `hi`. -/
def field (max lo hi : Nat) (cs : List Char) : Except TimeError (Nat × List Char) := do
  let (v, rest) ← number max (skipBlanks cs)
  if lo ≤ v ∧ v ≤ hi then .ok (v, rest) else .error .outOfRange

/-- Reads a year after blanks: with a sign any number of digits, else one to four. The year
must fit in 32 bits. -/
def year (cs : List Char) : Except TimeError (Int × List Char) := do
  let (y, rest) ← match skipBlanks cs with
    | '-' :: r => do
      let (v, rest) ← number r.length r
      pure (-(v : Int), rest)
    | '+' :: r => do
      let (v, rest) ← number r.length r
      pure ((v : Int), rest)
    | r => do
      let (v, rest) ← number 4 r
      pure ((v : Int), rest)
  if -Int.pow 2 31 ≤ y ∧ y < Int.pow 2 31 then .ok (y, rest) else .error .outOfRange

/-- Expects a character after blanks. -/
def literal (c : Char) (cs : List Char) : Except TimeError (List Char) :=
  match skipBlanks cs with
  | [] => .error .tooShort
  | d :: rest => if d = c then .ok rest else .error .invalid

/-- Reads the fraction of a second if a point follows: one or more digits, of which the first
nine give nanoseconds and the others are skipped. -/
def fraction (cs : List Char) : Except TimeError (Nat × List Char) :=
  match cs with
  | '.' :: r => do
    let (v, rest) ← number 9 r
    let width := r.length - rest.length
    .ok (v * Nat.pow 10 (9 - width), rest.dropWhile Char.isDigit)
  | _ => .ok (0, cs)

/-- The first two characters, when the text has at least two bytes. A lone non-ASCII character
has two bytes, neither of them a digit, so it stands for a pair of non-digits. -/
def pair (cs : List Char) : Option (Char × Char) :=
  match cs with
  | a :: b :: _ => some (a, b)
  | [a] => if a.toNat < 0x80 then none else some (a, a)
  | [] => none

/-- Reads two digits of hours, colons or blanks, and two digits of minutes (the first at most 5)
and gives the offset in seconds, negated when `negative`. -/
def hoursMinutes (negative : Bool) (cs : List Char) : Except TimeError (Int × List Char) := do
  let hours ← match pair cs with
    | none => .error .tooShort
    | some (a, b) =>
      if a.isDigit ∧ b.isDigit then pure (10 * digitValue a + digitValue b) else .error .invalid
  let r := (cs.drop 2).dropWhile fun c => c = ':' ∨ Text.isBlank c
  let minutes ← match pair r with
    | none => .error .tooShort
    | some (a, b) =>
      if '0' ≤ a ∧ a ≤ '5' ∧ b.isDigit then pure (10 * digitValue a + digitValue b)
      else if '6' ≤ a ∧ a ≤ '9' ∧ b.isDigit then .error .outOfRange
      else .error .invalid
  let s : Int := hours * 3600 + minutes * 60
  return (if negative then -s else s, r.drop 2)

/-- Reads the offset from UTC in seconds: `Z`, `z`, `UTC` in any case, or a sign (`+`, `-` or
the minus sign) and hours and minutes. -/
def offset (cs : List Char) : Except TimeError (Int × List Char) :=
  match cs with
  | u :: t :: c :: rest =>
    if u.toLower = 'u' ∧ t.toLower = 't' ∧ c.toLower = 'c' then .ok (0, rest) else signed cs
  | _ => signed cs
where
  /-- The `Z` and signed forms. -/
  signed (cs : List Char) : Except TimeError (Int × List Char) :=
    match cs with
    | 'Z' :: rest | 'z' :: rest => .ok (0, rest)
    | '+' :: rest => hoursMinutes false rest
    | '-' :: rest => hoursMinutes true rest
    | '−' :: rest => hoursMinutes true rest
    | [] => .error .tooShort
    | _ => .error .invalid

/-- The fields of a timestamp as written. -/
structure Fields where
  year : Int
  month : Nat
  day : Nat
  hour : Nat
  minute : Nat
  second : Nat
  nanos : Nat
  offset : Int

/-- Reads the fields of a timestamp and checks that nothing but blanks follows. -/
def fields (cs : List Char) : Except TimeError Fields := do
  let (y, r) ← year cs
  let r ← literal '-' r
  let (mo, r) ← field 2 1 12 r
  let r ← literal '-' r
  let (d, r) ← field 2 1 31 r
  let r ← match r with
    | 'T' :: rest | 't' :: rest | ' ' :: rest => pure rest
    | [] => .error .tooShort
    | _ => .error .invalid
  let (h, r) ← field 2 0 23 r
  let r ← literal ':' r
  let (mi, r) ← field 2 0 59 r
  let r ← literal ':' r
  let (s, r) ← field 2 0 60 r
  let (n, r) ← fraction r
  let (off, r) ← offset (skipBlanks r)
  if !(skipBlanks r).isEmpty then .error .tooLong
  return ⟨y, mo, d, h, mi, s, n, off⟩

/-- The instant that fields denote: the date must exist, the offset must be less than a day and
the instant in range. A second of 60 is the leap second after the 59th. -/
def Fields.toInstant (f : Fields) : Except TimeError Instant :=
  let date : Date := ⟨f.year, f.month, f.day⟩
  if !date.isValid then .error .outOfRange
  else if !(-86400 < f.offset ∧ f.offset < 86400) then .error .outOfRange
  else
    let (second, leap) := if f.second = 60 then (59, 1000000000) else (f.second, 0)
    let wall := daysFromCivil f.year f.month f.day * Instant.secondsPerDay +
      (f.hour * 3600 + f.minute * 60 + second : Nat)
    let i : Instant := ⟨wall - f.offset, f.nanos + leap⟩
    if i.inRange then .ok i else .error .outOfRange

end Rfc3339

/-- The instant a timestamp text denotes. -/
def Instant.parse (s : String) : Except TimeError Instant :=
  Rfc3339.fields s.toList >>= Rfc3339.Fields.toInstant

end Sift.Time

namespace Sift.Decode

/-- Reads an instant from a string holding a timestamp. -/
def instant : Decoder Time.Instant
  | .str s =>
    match Time.Instant.parse s with
    | .ok i => .ok i
    | .error e => .error { cause := .custom e.message }
  | j => .error (wrongType j "an RFC 3339 formatted date and time string")

end Sift.Decode
