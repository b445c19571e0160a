/-!
# Instants of UTC time

An `Instant` is a point of UTC time: whole seconds since 1970-01-01T00:00:00Z and a fraction in
nanoseconds. The fraction is below `10^9`, except during a leap second, which is written as the
60th second of a minute and held as the 59th second with a fraction of at least `10^9`. Instants
are ordered by second, then by fraction, so a leap second lies after the whole 59th second and
before the next minute.

Dates are proleptic Gregorian. `daysFromCivil` and `civilFromDays` convert between a date and
its day number relative to 1970-01-01 by counting 400-year eras of 146097 days. Instants exist
from the first day of the year -262143 to the last nanosecond of the year 262142.

Three ways of writing an instant are used: `Instant.render` (`2024-01-02T03:04:05.123Z`, the
fraction left out when zero and otherwise given in 3, 6 or 9 digits), `Instant.rfc3339` (the same
with `+00:00` for `Z`) and `Instant.renderPlain` (`2024-01-02 03:04:05`). A year outside 0 to
9999 is written with its sign and at least four digits.
-/

namespace Sift.Time

/-- Whether a year of the Gregorian calendar has 366 days. -/
def isLeapYear (y : Int) : Bool :=
  y % 4 = 0 && (y % 100 ≠ 0 || y % 400 = 0)

/-- The number of days of a month (1 to 12) of a year. -/
def daysInMonth (y : Int) (m : Nat) : Nat :=
  match m with
  | 2 => if isLeapYear y then 29 else 28
  | 4 | 6 | 9 | 11 => 30
  | _ => 31

/-- The day number of a date, counted from 1970-01-01. A year is taken to start in March, so
that the leap day ends it; each 400-year era has 146097 days. -/
def daysFromCivil (y : Int) (m d : Nat) : Int :=
  let y' := if m ≤ 2 then y - 1 else y
  let era := y' / 400
  let yoe := y' - era * 400
  let mp : Nat := if m > 2 then m - 3 else m + 9
  let doy : Int := (153 * mp + 2) / 5 + d - 1
  let doe := yoe * 365 + yoe / 4 - yoe / 100 + doy
  era * 146097 + doe - 719468

/-- A date of the calendar. -/
structure Date where
  year : Int
  month : Nat
  day : Nat
  deriving DecidableEq, Repr

/-- The date of a day number counted from 1970-01-01; inverse of `daysFromCivil`. -/
def civilFromDays (z : Int) : Date :=
  let z' := z + 719468
  let era := z' / 146097
  let doe := (z' % 146097).toNat
  let yoe := (doe - doe / 1460 + doe / 36524 - doe / 146096) / 365
  let doy := doe - (365 * yoe + yoe / 4 - yoe / 100)
  let mp := (5 * doy + 2) / 153
  let d := doy - (153 * mp + 2) / 5 + 1
  let m := if mp < 10 then mp + 3 else mp - 9
  let y := (yoe : Int) + era * 400
  { year := if m ≤ 2 then y + 1 else y, month := m, day := d }

/-- Whether a date names a real day of a year in the range of instants. -/
def Date.isValid (d : Date) : Bool :=
  -262143 ≤ d.year && d.year ≤ 262142 && 1 ≤ d.month && d.month ≤ 12 &&
    1 ≤ d.day && d.day ≤ daysInMonth d.year d.month

/-- A point of UTC time: seconds since the epoch and a fraction of nanoseconds (at least `10^9`
only during a leap second). -/
structure Instant where
  seconds : Int
  nanos : Nat
  deriving DecidableEq, Repr, Inhabited

namespace Instant

/-- Seconds in a day. -/
def secondsPerDay : Int := 86400

/-- The earliest instant: the first second of the year -262143. -/
def first : Instant := ⟨daysFromCivil (-262143) 1 1 * secondsPerDay, 0⟩

/-- The latest instant: the last nanosecond of the year 262142. -/
def last : Instant := ⟨daysFromCivil 262142 12 31 * secondsPerDay + 86399, 999999999⟩

/-- Instants in time order. -/
def lt (a b : Instant) : Bool :=
  a.seconds < b.seconds || (a.seconds = b.seconds && a.nanos < b.nanos)

instance : LT Instant := ⟨fun a b => a.lt b = true⟩

instance (a b : Instant) : Decidable (a < b) :=
  inferInstanceAs (Decidable (a.lt b = true))

/-- Whether an instant lies in a day from the first to the last; a leap second of the last day
counts. -/
def inRange (i : Instant) : Bool :=
  first.seconds ≤ i.seconds && i.seconds ≤ last.seconds

/-- The instant `s` seconds later (earlier for negative `s`), if it is in range. -/
def shift? (i : Instant) (s : Int) : Option Instant :=
  let j : Instant := ⟨i.seconds + s, i.nanos⟩
  if j.inRange then some j else none

/-- The day number of an instant. -/
def day (i : Instant) : Int := i.seconds / secondsPerDay

/-- The second of the day of an instant, 0 to 86399. -/
def secondOfDay (i : Instant) : Nat := (i.seconds % secondsPerDay).toNat

/-- The hour of the day, 0 to 23. -/
def hour (i : Instant) : Nat := i.secondOfDay / 3600

/-- The date of an instant. -/
def date (i : Instant) : Date := civilFromDays i.day

end Instant

/-- A number written with at least `width` digits, zeros in front. -/
def padded (width n : Nat) : String :=
  let s := toString n
  String.ofList (List.replicate (width - s.length) '0') ++ s

/-- A year: four digits from 0 to 9999, otherwise its sign and at least four digits. -/
def renderYear (y : Int) : String :=
  if 0 ≤ y ∧ y ≤ 9999 then padded 4 y.toNat
  else (if y < 0 then "-" else "+") ++ padded 4 y.natAbs

/-- A fraction of a second after its point: nothing for zero, else 3, 6 or 9 digits, the fewest
of these that show it exactly. -/
def renderFraction (nanos : Nat) : String :=
  if nanos = 0 then ""
  else if nanos % 1000000 = 0 then "." ++ padded 3 (nanos / 1000000)
  else if nanos % 1000 = 0 then "." ++ padded 6 (nanos / 1000)
  else "." ++ padded 9 nanos

namespace Instant

/-- The clock reading of an instant: hour, minute and second (60 during a leap second) and the
fraction within the second. -/
def clock (i : Instant) : Nat × Nat × Nat × Nat :=
  let s := i.secondOfDay
  let leap := if i.nanos ≥ 1000000000 then 1 else 0
  (s / 3600, s % 3600 / 60, s % 60 + leap, i.nanos - leap * 1000000000)

/-- Date and time of day, `YYYY-MM-DD` and `HH:MM:SS` joined by `sep`, with the fraction when
`fraction` is set. -/
def renderWith (i : Instant) (sep : String) (fraction : Bool) : String :=
  let d := i.date
  let (h, m, s, n) := i.clock
  renderYear d.year ++ "-" ++ padded 2 d.month ++ "-" ++ padded 2 d.day ++ sep ++
    padded 2 h ++ ":" ++ padded 2 m ++ ":" ++ padded 2 s ++
    (if fraction then renderFraction n else "")

/-- An instant as `YYYY-MM-DDTHH:MM:SS[.fff]Z`. -/
def render (i : Instant) : String := i.renderWith "T" true ++ "Z"

/-- An instant as `YYYY-MM-DDTHH:MM:SS[.fff]+00:00`. -/
def rfc3339 (i : Instant) : String := i.renderWith "T" true ++ "+00:00"

/-- An instant as `YYYY-MM-DD HH:MM:SS`, without fraction. -/
def renderPlain (i : Instant) : String := i.renderWith " " false

end Instant

end Sift.Time
