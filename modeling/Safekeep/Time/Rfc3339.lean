import Safekeep.Time.Instant
import Safekeep.Text.Blank

/-!
# Reading RFC 3339 timestamps

A relaxed RFC 3339 reader. A timestamp is a date, a separator (`T`, `t` or a space), a time and a
zone, with blanks allowed before each number and around each `-` and `:` of the date and time:

* the year has one to four digits, or a sign and any number of digits; month, day, hour, minute
  and second have one or two digits, and second 60 is a leap second;
* a fraction of a second, after a dot, has at least one digit; digits after the ninth are skipped;
* the zone, after optional blanks, is `Z`, `z`, `UTC` in any case, or a sign (`+`, `-` or the
  minus sign U+2212), two digits of hours, any run of colons and blanks, and two digits of minutes.

Blanks may follow the zone. Each field is checked as soon as it is read, the date and the zone
once all is read; the first fault found is the one reported. Years run from -262143 to 262142,
both for the date as written and for the instant it names once the zone is taken off.
-/

namespace Safekeep.Time

/-- Why a timestamp was refused. -/
inductive StampError
  -- A field is out of its range, or the date or zone does not exist.
  | outOfRange
  -- The date and time exist, but the instant they name at their zone lies outside the range of
  -- dates.
  | impossible
  -- A character is not what the format wants there.
  | invalid
  -- The text ends too early.
  | tooShort
  -- Something other than blanks follows the zone.
  | tooLong
  deriving DecidableEq, Repr

def StampError.message : StampError → String
  | .outOfRange => "input is out of range"
  | .impossible => "no possible date and time matching input"
  | .invalid => "input contains invalid characters"
  | .tooShort => "premature end of input"
  | .tooLong => "trailing input"

/-- A reader of part of a timestamp: a value and the rest of the text. -/
abbrev Scan (α : Type) := List Char → Except StampError (α × List Char)

def skipBlanks (cs : List Char) : List Char := cs.dropWhile Text.isBlank

/-- A decimal number of `lo` to `hi` digits; a value that passes the largest signed 64-bit word is
out of range. -/
def scanNumber (lo hi : Nat) : Scan Nat := fun cs =>
  if cs.isEmpty ∧ lo > 0 then .error .tooShort
  else
    let ds := (cs.takeWhile fun c => c.isDigit).take hi
    if ds.length < lo then .error .invalid
    else
      let v := ds.foldl (fun n c => 10 * n + (c.toNat - 48)) 0
      if v > Nat.pow 2 63 - 1 then .error .outOfRange else .ok (v, cs.drop ds.length)

def field (hi lo top : Nat) : Scan Nat := fun cs => do
  let (v, rest) ← scanNumber 1 hi (skipBlanks cs)
  if v < lo ∨ v > top then .error .outOfRange else .ok (v, rest)

/-- The year: a sign and any number of digits, or one to four digits. -/
def scanYear : Scan Int := fun cs => do
  let (y, rest) ← match skipBlanks cs with
    | '-' :: r => (scanNumber 1 r.length r).map fun (v, r) => (-(v : Int), r)
    | '+' :: r => (scanNumber 1 r.length r).map fun (v, r) => ((v : Int), r)
    | r => (scanNumber 1 4 r).map fun (v, r) => ((v : Int), r)
  if y < -(Int.pow 2 31) ∨ y > Int.pow 2 31 - 1 then .error .outOfRange else .ok (y, rest)

def literal (c : Char) : Scan Unit := fun cs =>
  match skipBlanks cs with
  | [] => .error .tooShort
  | d :: rest => if d = c then .ok ((), rest) else .error .invalid

/-- An optional fraction of a second, as nanoseconds. -/
def scanFraction : Scan Nat := fun cs =>
  match cs with
  | '.' :: rest => do
    let (v, after) ← scanNumber 1 9 rest
    let used := rest.length - after.length
    .ok (v * Nat.pow 10 (9 - used), after.dropWhile fun c => c.isDigit)
  | _ => .ok (0, cs)

/-- Two ASCII digits at the front, for the zone: too short with fewer than two bytes. -/
def twoDigits (cs : List Char) : Except StampError (Char × Char × List Char) :=
  match cs with
  | a :: b :: rest => .ok (a, b, rest)
  | [a] => if a.utf8Size ≥ 2 then .ok (a, a, []) else .error .tooShort
  | [] => .error .tooShort

/-- The zone's offset east of UTC in seconds. -/
def scanZone : Scan Int := fun cs =>
  match cs with
  | 'Z' :: rest | 'z' :: rest => .ok (0, rest)
  | u :: t :: c :: rest =>
    if u.toLower = 'u' ∧ t.toLower = 't' ∧ c.toLower = 'c' then .ok (0, rest) else signed cs
  | _ => signed cs
where
  signed (cs : List Char) : Except StampError (Int × List Char) := do
    let (negative, cs) ← match cs with
      | '+' :: r => .ok (false, r)
      | '-' :: r => .ok (true, r)
      | '−' :: r => .ok (true, r)
      | _ :: _ => .error .invalid
      | [] => .error .tooShort
    let (h1, h2, afterHours) ← twoDigits cs
    if ¬(h1.isDigit ∧ h2.isDigit) then .error .invalid
    else
      let hours := (h1.toNat - 48) * 10 + (h2.toNat - 48)
      let afterColon := afterHours.dropWhile fun c => c = ':' ∨ Text.isBlank c
      match twoDigits afterColon with
      | .error _ => .error .tooShort
      | .ok (m1, m2, rest) =>
        if '0' ≤ m1 ∧ m1 ≤ '5' ∧ m2.isDigit then
          let secs : Int := hours * 3600 + ((m1.toNat - 48) * 10 + (m2.toNat - 48)) * 60
          .ok (if negative then -secs else secs, rest)
        else if '6' ≤ m1 ∧ m1 ≤ '9' ∧ m2.isDigit then .error .outOfRange
        else .error .invalid

def yearRange : Int × Int := (-262143, 262142)

/-- Read a timestamp. -/
def parseStamp (s : String) : Except StampError Instant := do
  let cs := s.toList
  let (year, cs) ← scanYear cs
  let ((), cs) ← literal '-' cs
  let (month, cs) ← field 2 1 12 cs
  let ((), cs) ← literal '-' cs
  let (day, cs) ← field 2 1 31 cs
  let cs ← match cs with
    | [] => .error .tooShort
    | c :: rest => if c = 'T' ∨ c = 't' ∨ c = ' ' then .ok rest else .error .invalid
  let (hour, cs) ← field 2 0 23 cs
  let ((), cs) ← literal ':' cs
  let (minute, cs) ← field 2 0 59 cs
  let ((), cs) ← literal ':' cs
  let (second, cs) ← field 2 0 60 cs
  let (nanos, cs) ← scanFraction cs
  let (offset, cs) ← scanZone (skipBlanks cs)
  if ¬(skipBlanks cs).isEmpty then .error .tooLong
  let date : Date := ⟨year, month, day⟩
  if ¬date.isValid ∨ year < yearRange.1 ∨ year > yearRange.2 then .error .outOfRange
  if offset.natAbs ≥ 86400 then .error .outOfRange
  let leap := second = 60
  let secs := date.toDays * 86400 + hour * 3600 + minute * 60 + (if leap then 59 else second) - offset
  let t := Instant.ofParts secs (nanos + if leap then 1000000000 else 0)
  if t.date.year < yearRange.1 ∨ t.date.year > yearRange.2 then .error .impossible
  .ok t

/-! ## The strict form -/

def afterDigits : Nat → List Char → Option (List Char)
  | 0, cs => some cs
  | n + 1, c :: cs => if c.isDigit then afterDigits n cs else none
  | _ + 1, [] => none

def afterChar (c : Char) : List Char → Option (List Char)
  | d :: cs => if d = c then some cs else none
  | [] => none

/-- Whether a text is a zone of the strict form and nothing more: `Z`, `z`, or a sign, two digits,
a colon and two digits. -/
def isStrictZone : List Char → Bool
  | ['Z'] | ['z'] => true
  | s :: cs =>
    (s == '+' || s == '-') && (afterDigits 2 cs >>= afterChar ':' >>= afterDigits 2) == some []
  | [] => false

/-- Whether what follows the seconds of a strict timestamp is a fraction of at least one digit,
or none, and then a strict zone. -/
def isStrictTail : List Char → Bool
  | '.' :: c :: cs => c.isDigit && isStrictZone (cs.dropWhile Char.isDigit)
  | cs => isStrictZone cs

/-- Whether a text has the strict RFC 3339 form: a year of four digits, a month and a day of two,
`T` (or `t` or a space), an hour, a minute and a second of two digits, with `-` and `:` between
them, then `isStrictTail`. -/
def isStrictStamp (cs : List Char) : Bool :=
  match afterDigits 4 cs >>= afterChar '-' >>= afterDigits 2 >>= afterChar '-' >>= afterDigits 2 with
  | some (sep :: cs) =>
    (sep == 'T' || sep == 't' || sep == ' ') &&
      match afterDigits 2 cs >>= afterChar ':' >>= afterDigits 2 >>= afterChar ':' >>=
          afterDigits 2 with
      | some tail => isStrictTail tail
      | none => false
  | _ => false

/-- Read a timestamp in the strict RFC 3339 form; a text of any other form is refused. Within the
form, the fields are checked and read as `parseStamp` does. -/
def parseStrictStamp (s : String) : Option Instant :=
  if isStrictStamp s.toList then (parseStamp s).toOption else none

end Safekeep.Time
