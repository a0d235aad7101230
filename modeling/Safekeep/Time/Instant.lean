/-!
# Instants

An instant is a number of seconds since 1970-01-01T00:00:00 UTC with a count of nanoseconds. A
count of 10^9 or more marks a leap second: the instant then lies within the sixtieth second of
its minute, which is written as second 60.

Dates are proleptic Gregorian: a year divisible by 4 is a leap year unless it is divisible by
100 and not by 400, and year 0 is a leap year. The conversions between days since the epoch and
calendar dates are the usual era-based ones (eras of 400 years, 146097 days).
-/

namespace Safekeep.Time

/-- A moment in UTC. -/
structure Instant where
  -- Seconds since the epoch, a leap second counted as the second before it.
  seconds : Int
  -- Nanoseconds into the second; 10^9 and above inside a leap second.
  nanos : Nat
  -- A clock shows it: under a second of nanoseconds, or under two in the last second of a minute.
  inRange : nanos < 1000000000 ∨ nanos < 2000000000 ∧ (seconds % 86400).toNat % 60 = 59
  deriving DecidableEq, Repr

/-- A calendar date. -/
structure Date where
  year : Int
  month : Nat
  day : Nat
  deriving DecidableEq, Repr

def isLeapYear (y : Int) : Bool := y % 4 = 0 ∧ (y % 100 ≠ 0 ∨ y % 400 = 0)

def daysInMonth (y : Int) (m : Nat) : Nat :=
  match m with
  | 2 => if isLeapYear y then 29 else 28
  | 4 | 6 | 9 | 11 => 30
  | _ => 31

def Date.isValid (d : Date) : Bool := 1 ≤ d.month ∧ d.month ≤ 12 ∧ 1 ≤ d.day ∧ d.day ≤ daysInMonth d.year d.month

/-- Days since 1970-01-01 of a date. -/
def Date.toDays (d : Date) : Int :=
  let y : Int := if d.month ≤ 2 then d.year - 1 else d.year
  let era := y / 400
  let yoe := y - era * 400
  let mp : Int := if d.month > 2 then d.month - 3 else d.month + 9
  let doy := (153 * mp + 2) / 5 + d.day - 1
  let doe := yoe * 365 + yoe / 4 - yoe / 100 + doy
  era * 146097 + doe - 719468

/-- The date a number of days after 1970-01-01. -/
def Date.ofDays (z : Int) : Date :=
  let z := z + 719468
  let era := z / 146097
  let doe := z - era * 146097
  let yoe := (doe - doe / 1460 + doe / 36524 - doe / 146096) / 365
  let doy := doe - (365 * yoe + yoe / 4 - yoe / 100)
  let mp := (5 * doy + 2) / 153
  let day := doy - (153 * mp + 2) / 5 + 1
  let month := if mp < 10 then mp + 3 else mp - 9
  let year := yoe + era * 400 + (if month ≤ 2 then 1 else 0)
  ⟨year, month.toNat, day.toNat⟩

namespace Instant

/-- The instant of a count of seconds and nanoseconds; nanoseconds a clock cannot show carry
into the seconds. -/
def ofParts (seconds : Int) (nanos : Nat) : Instant :=
  if h : nanos < 1000000000 ∨ nanos < 2000000000 ∧ (seconds % 86400).toNat % 60 = 59 then
    ⟨seconds, nanos, h⟩
  else ⟨seconds + nanos / 1000000000, nanos % 1000000000, .inl (Nat.mod_lt _ (by decide))⟩

def ofSeconds (seconds : Int) : Instant := ⟨seconds, 0, .inl (by decide)⟩

def date (t : Instant) : Date := Date.ofDays (t.seconds / 86400)

def secondOfDay (t : Instant) : Nat := (t.seconds % 86400).toNat

end Instant

def padded (width n : Nat) : String :=
  let ds := Nat.toDigits 10 n
  String.ofList (List.replicate (width - ds.length) '0' ++ ds)

/-- A year with four digits when it lies in 0..=9999, otherwise with its sign and at least four
digits. -/
def yearText (y : Int) : String :=
  if 0 ≤ y ∧ y ≤ 9999 then padded 4 y.toNat
  else (if y < 0 then "-" else "+") ++ padded 4 y.natAbs

def Date.text (d : Date) : String := yearText d.year ++ "-" ++ padded 2 d.month ++ "-" ++ padded 2 d.day

/-- The fraction of a second with 3, 6 or 9 digits, the fewest that are exact; nothing for a whole
second. -/
def fractionText (nanos : Nat) : String :=
  if nanos = 0 then ""
  else if nanos % 1000000 = 0 then "." ++ padded 3 (nanos / 1000000)
  else if nanos % 1000 = 0 then "." ++ padded 6 (nanos / 1000)
  else "." ++ padded 9 nanos

/-- An instant in RFC 3339 form, in UTC, followed by `zone` (`Z` or `+00:00`). -/
def Instant.textWith (t : Instant) (zone : String) : String :=
  let s := t.secondOfDay
  let leap := t.nanos ≥ 1000000000
  let sec := s % 60 + (if leap then 1 else 0)
  let nanos := if leap then t.nanos - 1000000000 else t.nanos
  t.date.text ++ "T" ++ padded 2 (s / 3600) ++ ":" ++ padded 2 (s / 60 % 60) ++ ":" ++ padded 2 sec ++
    fractionText nanos ++ zone

def Instant.text (t : Instant) : String := t.textWith "Z"

end Safekeep.Time
