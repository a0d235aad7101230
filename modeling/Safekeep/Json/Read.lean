import Safekeep.Json.Shape

/-!
# Reading JSON text

`Source.read shape` reads a JSON document from bytes, checking it against a shape as it goes, so
the first fault in reading order wins, whether a slip of syntax or a value of the wrong kind.
Every fault is placed at a line and a byte column: a fault about a byte that was looked at but
not taken is placed just past that byte, one found after taking a value is placed where the
reader stands. Objects read as plain values keep one member per key, sorted, the last written
winning. At most 127 arrays and objects may be open at once.

Numbers: a whole literal is an unsigned word if it fits, a negative one a signed word if it fits,
and anything else (`-0` included) a float; a float too large for binary64 is a fault (section 1).
-/

namespace Safekeep.Json

/-- A JSON text as bytes; positions are byte indices. -/
structure Source where
  bytes : ByteArray

namespace Source

def byte? (src : Source) (i : Nat) : Option UInt8 :=
  if h : i < src.bytes.size then some src.bytes[i] else none

/-- Line (from 1) and column (bytes since the last line feed) of the index `i`. -/
def placeOf (src : Source) (i : Nat) : Nat × Nat :=
  (List.range (min i src.bytes.size)).foldl
    (fun lc k => if src.byte? k == some 10 then (lc.1 + 1, 0) else (lc.1, lc.2 + 1)) (1, 0)

def failAt (src : Source) (i : Nat) (f : Fault) : Failure := ⟨f, some (src.placeOf i)⟩

/-- A fault about the byte at `i`, looked at but not taken: placed just past it. -/
def failPeek (src : Source) (i : Nat) (f : Fault) : Failure :=
  ⟨f, some (src.placeOf (min src.bytes.size (i + 1)))⟩

def skipBlank (src : Source) (i : Nat) : Nat :=
  if h : i < src.bytes.size then
    let b := src.bytes[i]
    if b == 32 || b == 10 || b == 9 || b == 13 then src.skipBlank (i + 1) else i
  else i
  termination_by src.bytes.size - i

def skipDigits (src : Source) (i : Nat) : Nat :=
  if h : i < src.bytes.size then
    let b := src.bytes[i]
    if 48 ≤ b && b ≤ 57 then src.skipDigits (i + 1) else i
  else i
  termination_by src.bytes.size - i

def digitAt (src : Source) (i : Nat) : Bool :=
  match src.byte? i with
  | some b => 48 ≤ b && b ≤ 57
  | none => false

def expectWord (src : Source) (i : Nat) : List UInt8 → Except Failure Nat
  | [] => .ok i
  | b :: rest =>
    match src.byte? i with
    | none => .error (src.failAt i .eofValue)
    | some c => if c == b then src.expectWord (i + 1) rest else .error (src.failAt (i + 1) .expectedIdent)

end Source

/-! ## Numbers

A number's digits build a significand as long as it fits in 64 bits; later digits of the whole
part count as powers of ten and later digits of the fraction are dropped. A literal with a
fraction or an exponent, or too long for a word, becomes binary64: the significand rounded to
binary64, then multiplied or divided once by the binary64 power of ten nearest to the exponent's
power (divided by 1e308 first while the exponent is below -308). -/

/-- The binary64 value nearest to a natural number, a tie going to the even neighbour. -/
def nearestFloat (n : Nat) : Float :=
  if n < Nat.pow 2 53 then n.toUInt64.toFloat
  else
    let e := n.log2 - 52
    let q := n / Nat.pow 2 e
    let r := n % Nat.pow 2 e
    let half := Nat.pow 2 (e - 1)
    let q := if r > half ∨ (r = half ∧ q % 2 = 1) then q + 1 else q
    Float.scaleB q.toUInt64.toFloat e

def tenPower (k : Nat) : Float := nearestFloat (Nat.pow 10 k)

/-- Scale by a power of ten as the number rule says; `none` when the result is infinite. -/
def scaleByTen : Nat → Float → Int → Option Float
  | 0, f, _ => some f
  | fuel + 1, f, e =>
    if e.natAbs ≤ 308 then
      if 0 ≤ e then
        let g := f * tenPower e.natAbs
        if g.isInf then none else some g
      else some (f / tenPower e.natAbs)
    else if f == 0 then some f
    else if 0 ≤ e then none
    else scaleByTen fuel (f / tenPower 308) (e + 308)

def clampWord32 (e : Int) : Int := max (-(Int.pow 2 31)) (min (Int.pow 2 31 - 1) e)

/-- The binary64 value of `± sig × 10^e`, or `none` when it is too large. -/
def floatOfParts (positive : Bool) (sig : Nat) (e : Int) : Option Number :=
  (scaleByTen 4 (nearestFloat sig) e).map fun f => .float (if positive then f else -f).toBits

def signedZero (positive : Bool) : Number := .float (if positive then (0 : Float) else -0).toBits

/-- How a number is named when it is not what a decoder expects. -/
def Number.unexpected : Number → Unexpected
  | .nat n => .unsigned n
  | .neg i => .signed i
  | .float b => .float b

namespace Source

/-- The digits of a whole part from `i`: the significand while it fits in 64 bits, the index past
the digits, and how many digits did not fit. -/
def wholeDigits (src : Source) (i sig dropped : Nat) : Nat × Nat × Nat :=
  if h : i < src.bytes.size then
    let b := src.bytes[i]
    if 48 ≤ b ∧ b ≤ 57 then
      let d := b.toNat - 48
      if dropped = 0 ∧ 10 * sig + d ≤ Safekeep.Number.u64Max then src.wholeDigits (i + 1) (10 * sig + d) 0
      else src.wholeDigits (i + 1) sig (dropped + 1)
    else (sig, i, dropped)
  else (sig, i, dropped)
  termination_by src.bytes.size - i

/-- The digits of a fraction from `i`: the significand while it fits in 64 bits, the index past
the digits, and how many digits joined the significand. -/
def fractionDigits (src : Source) (i sig places : Nat) (full : Bool) : Nat × Nat × Nat :=
  if h : i < src.bytes.size then
    let b := src.bytes[i]
    if 48 ≤ b ∧ b ≤ 57 then
      let d := b.toNat - 48
      if !full ∧ 10 * sig + d ≤ Safekeep.Number.u64Max then
        src.fractionDigits (i + 1) (10 * sig + d) (places + 1) false
      else src.fractionDigits (i + 1) sig places true
    else (sig, i, places)
  else (sig, i, places)
  termination_by src.bytes.size - i

/-- The digits of an exponent from `i`: its value, or `none` as soon as it passes the largest
signed 32-bit value (the index then stands just past the digit that passed it). -/
def exponentDigits (src : Source) (i v : Nat) : Option Nat × Nat :=
  if h : i < src.bytes.size then
    let b := src.bytes[i]
    if 48 ≤ b ∧ b ≤ 57 then
      let w := 10 * v + (b.toNat - 48)
      if w > Nat.pow 2 31 - 1 then (none, i + 1) else src.exponentDigits (i + 1) w
    else (some v, i)
  else (some v, i)
  termination_by src.bytes.size - i

/-- A float from its parts, placed at `stop` when it is out of range. -/
def floatAt (src : Source) (positive : Bool) (sig : Nat) (e : Int) (stop : Nat) :
    Except Failure (Number × Nat) :=
  match floatOfParts positive sig e with
  | some n => .ok (n, stop)
  | none => .error (src.failAt stop .numberOutOfRange)

/-- An optional exponent at `k`, then the float of the parts. -/
def exponentPart (src : Source) (positive : Bool) (sig : Nat) (start : Int) (k : Nat) :
    Except Failure (Number × Nat) :=
  match src.byte? k with
  | some 101 | some 69 =>
    let (negative, k1) := match src.byte? (k + 1) with
      | some 43 => (false, k + 2)
      | some 45 => (true, k + 2)
      | _ => (false, k + 1)
    match src.byte? k1 with
    | none => .error (src.failAt k1 .eofValue)
    | some b =>
      if 48 ≤ b ∧ b ≤ 57 then
        match src.exponentDigits (k1 + 1) (b.toNat - 48) with
        | (some v, stop) =>
          src.floatAt positive sig (clampWord32 (if negative then start - v else start + v)) stop
        | (none, stop) =>
          if sig ≠ 0 ∧ !negative then .error (src.failAt stop .numberOutOfRange)
          else .ok (signedZero positive, src.skipDigits stop)
      else .error (src.failAt (k1 + 1) .invalidNumber)
  | _ => src.floatAt positive sig start k

/-- Read a number whose sign has been read; `i` is at its first digit. -/
def readNumber (src : Source) (positive : Bool) (i : Nat) : Except Failure (Number × Nat) := do
  let (sig, j, dropped) ← match src.byte? i with
    | none => .error (src.failAt i .eofValue)
    | some 48 =>
      if src.digitAt (i + 1) then .error (src.failPeek (i + 1) .invalidNumber) else .ok (0, i + 1, 0)
    | some b =>
      if 49 ≤ b ∧ b ≤ 57 then .ok (src.wholeDigits (i + 1) (b.toNat - 48) 0)
      else .error (src.failAt (i + 1) .invalidNumber)
  match src.byte? j with
  | some 46 =>
    if src.digitAt (j + 1) then
      let (sig, k, places) := src.fractionDigits (j + 1) sig 0 false
      src.exponentPart positive sig ((dropped : Int) - places) k
    else
      match src.byte? (j + 1) with
      | some _ => .error (src.failPeek (j + 1) .invalidNumber)
      | none => .error (src.failPeek (j + 1) .eofValue)
  | some 101 | some 69 => src.exponentPart positive sig dropped j
  | _ =>
    if dropped > 0 then src.floatAt positive sig dropped j
    else if positive then .ok (.nat sig, j)
    else if sig = 0 then .ok (signedZero false, j)
    else if sig ≤ Nat.pow 2 63 then .ok (.neg (-(sig : Int)), j)
    else .ok (.float (-(nearestFloat sig)).toBits, j)

/-- Four hexadecimal digits at `i`. -/
def hex4 (src : Source) (i : Nat) : Except Failure (Nat × Nat) :=
  if i + 4 ≤ src.bytes.size then
    let digit (b : UInt8) : Option Nat :=
      if 48 ≤ b && b ≤ 57 then some (b.toNat - 48)
      else if 97 ≤ b && b ≤ 102 then some (b.toNat - 87)
      else if 65 ≤ b && b ≤ 70 then some (b.toNat - 55)
      else none
    match (List.range 4).mapM (fun k => (src.byte? (i + k)).bind digit) with
    | some ds => .ok (ds.foldl (fun n d => 16 * n + d) 0, i + 4)
    | none => .error (src.failAt (i + 4) .invalidEscape)
  else .error (src.failAt src.bytes.size .eofString)

def utf8Of (n : Nat) : ByteArray := (Char.ofNat n).toString.toUTF8

/-- The bytes an escape stands for; `i` is just past the backslash. -/
def readEscape (src : Source) (i : Nat) : Except Failure (ByteArray × Nat) :=
  match src.byte? i with
  | none => .error (src.failAt i .eofString)
  | some 34 => .ok (⟨#[34]⟩, i + 1)
  | some 92 => .ok (⟨#[92]⟩, i + 1)
  | some 47 => .ok (⟨#[47]⟩, i + 1)
  | some 98 => .ok (⟨#[8]⟩, i + 1)
  | some 102 => .ok (⟨#[12]⟩, i + 1)
  | some 110 => .ok (⟨#[10]⟩, i + 1)
  | some 114 => .ok (⟨#[13]⟩, i + 1)
  | some 116 => .ok (⟨#[9]⟩, i + 1)
  | some 117 => do
    let (n, j) ← src.hex4 (i + 1)
    if 0xDC00 ≤ n ∧ n ≤ 0xDFFF then .error (src.failAt j .loneLeadingSurrogate)
    else if 0xD800 ≤ n ∧ n ≤ 0xDBFF then
      match src.byte? j, src.byte? (j + 1) with
      | none, _ => .error (src.failAt j .eofString)
      | some 92, none => .error (src.failAt (j + 1) .eofString)
      | some 92, some 117 => do
        let (n2, k) ← src.hex4 (j + 2)
        if 0xDC00 ≤ n2 ∧ n2 ≤ 0xDFFF then
          .ok (utf8Of ((n - 0xD800) * 1024 + (n2 - 0xDC00) + 0x10000), k)
        else .error (src.failAt k .loneLeadingSurrogate)
      | some 92, some _ => .error (src.failAt (j + 2) .unexpectedEndOfHexEscape)
      | some _, _ => .error (src.failAt (j + 1) .unexpectedEndOfHexEscape)
    else .ok (utf8Of n, j)
  | some _ => .error (src.failAt (i + 1) .invalidEscape)

/-- The bytes of a string up to its closing quote; `i` is inside the string. -/
def stringBytes (src : Source) (i : Nat) (acc : ByteArray) : Except Failure (ByteArray × Nat) :=
  if _hi : i < src.bytes.size then
    match src.byte? i with
    | none => .error (src.failAt i .eofString)
    | some 34 => .ok (acc, i + 1)
    | some 92 =>
      match src.readEscape (i + 1) with
      | .ok (bs, j) =>
        if i < j then src.stringBytes j (acc ++ bs) else .error (src.failAt j .invalidEscape)
      | .error e => .error e
    | some b =>
      if b < 32 then .error (src.failAt (i + 1) .controlCharacter)
      else src.stringBytes (i + 1) (acc.push b)
  else .error (src.failAt i .eofString)
  termination_by src.bytes.size - i

/-- A string whose opening quote was taken; its bytes must be UTF-8. -/
def readString (src : Source) (i : Nat) : Except Failure (String × Nat) := do
  let (bs, j) ← src.stringBytes i ByteArray.empty
  match String.fromUTF8? bs with
  | some s => .ok (s, j)
  | none => .error (src.failAt j .invalidCodePoint)

/-! ## Arrays and objects -/

/-- What comes next inside an array or object. -/
inductive Next
  -- An element (or a key) starting at this index.
  | item (i : Nat)
  -- The closing bracket, at this index and not yet taken.
  | close (i : Nat)

/-- Find the next element of an array from `i`; before the first one no comma is wanted. -/
def nextItem (src : Source) (i : Nat) (first : Bool) : Except Failure Next :=
  let j := src.skipBlank i
  let after (k : Nat) : Except Failure Next :=
    match src.byte? k with
    | some 93 => .error (src.failPeek k .trailingComma)
    | some _ => .ok (.item k)
    | none => .error (src.failPeek k .eofValue)
  match src.byte? j with
  | some 93 => .ok (.close j)
  | some 44 => if first then .ok (.item j) else after (src.skipBlank (j + 1))
  | some _ => if first then .ok (.item j) else .error (src.failPeek j .expectedListCommaOrEnd)
  | none => .error (src.failPeek j .eofList)

/-- Find the next key of an object from `i`; an item stands at the key's opening quote. -/
def nextKey (src : Source) (i : Nat) (first : Bool) : Except Failure Next :=
  let j := src.skipBlank i
  let key (k : Nat) : Except Failure Next :=
    match src.byte? k with
    | some 34 => .ok (.item k)
    | some 125 => .error (src.failPeek k .trailingComma)
    | some _ => .error (src.failPeek k .keyMustBeString)
    | none => .error (src.failPeek k .eofValue)
  match src.byte? j with
  | some 125 => .ok (.close j)
  | some 44 => if first then key j else key (src.skipBlank (j + 1))
  | some _ => if first then key j else .error (src.failPeek j .expectedObjectCommaOrEnd)
  | none => .error (src.failPeek j .eofObject)

def colon (src : Source) (i : Nat) : Except Failure Nat :=
  let j := src.skipBlank i
  match src.byte? j with
  | some 58 => .ok (j + 1)
  | some _ => .error (src.failPeek j .expectedColon)
  | none => .error (src.failPeek j .eofObject)

/-- Close an array whose wanted elements have been read. -/
def closeList (src : Source) (i : Nat) : Except Failure Nat :=
  let j := src.skipBlank i
  match src.byte? j with
  | some 93 => .ok (j + 1)
  | some 44 =>
    let k := src.skipBlank (j + 1)
    if src.byte? k == some 93 then .error (src.failPeek k .trailingComma)
    else .error (src.failPeek k .trailingCharacters)
  | some _ => .error (src.failPeek j .trailingCharacters)
  | none => .error (src.failPeek j .eofList)

/-- The fault for a value that is not of the expected kind, named after reading it if it is a
scalar; the reader stands at its first byte. -/
def invalidAt (src : Source) (i : Nat) (expecting : String) : Failure :=
  let scalar (r : Except Failure (Unexpected × Nat)) : Failure :=
    match r with
    | .ok (u, k) => src.failAt k (.invalidType u expecting)
    | .error e => e
  match src.byte? i with
  | some 110 => scalar ((src.expectWord (i + 1) [117, 108, 108]).map fun k => (.unit, k))
  | some 116 => scalar ((src.expectWord (i + 1) [114, 117, 101]).map fun k => (.bool true, k))
  | some 102 => scalar ((src.expectWord (i + 1) [97, 108, 115, 101]).map fun k => (.bool false, k))
  | some 45 => scalar ((src.readNumber false (i + 1)).map fun (n, k) => (n.unexpected, k))
  | some 34 => scalar ((src.readString (i + 1)).map fun (s, k) => (.str s, k))
  | some 91 => src.failAt i (.invalidType .seq expecting)
  | some 123 => src.failAt i (.invalidType .map expecting)
  | some b =>
    if 48 ≤ b ∧ b ≤ 57 then scalar ((src.readNumber true i).map fun (n, k) => (n.unexpected, k))
    else src.failPeek i .expectedValue
  | none => src.failPeek i .expectedValue

/-! ## Skipping a value

A member that no field names is skipped by syntax alone: its numbers are not range-checked, its
strings are not checked for UTF-8 or paired surrogates, and its nesting has no limit. -/

/-- Skip a number from its first digit. -/
def skipNumber (src : Source) (i : Nat) : Except Failure Nat :=
  let exponent (k : Nat) : Except Failure Nat :=
    let k1 := match src.byte? (k + 1) with
      | some 43 | some 45 => k + 2
      | _ => k + 1
    match src.byte? k1 with
    | some b => if 48 ≤ b ∧ b ≤ 57 then .ok (src.skipDigits (k1 + 1)) else .error (src.failAt (k1 + 1) .invalidNumber)
    | none => .error (src.failAt k1 .invalidNumber)
  let rest (j : Nat) : Except Failure Nat :=
    match src.byte? j with
    | some 46 =>
      let k := src.skipDigits (j + 1)
      if k == j + 1 then .error (src.failPeek (j + 1) .invalidNumber)
      else if src.byte? k == some 101 || src.byte? k == some 69 then exponent k else .ok k
    | some 101 | some 69 => exponent j
    | _ => .ok j
  match src.byte? i with
  | some 48 => if src.digitAt (i + 1) then .error (src.failPeek (i + 1) .invalidNumber) else rest (i + 1)
  | some b => if 49 ≤ b ∧ b ≤ 57 then rest (src.skipDigits (i + 1)) else .error (src.failAt (i + 1) .invalidNumber)
  | none => .error (src.failAt i .invalidNumber)

/-- Skip an escape; `i` is just past the backslash. -/
def skipEscape (src : Source) (i : Nat) : Except Failure Nat :=
  match src.byte? i with
  | none => .error (src.failAt i .eofString)
  | some 117 => (src.hex4 (i + 1)).map Prod.snd
  | some b =>
    if b == 34 || b == 92 || b == 47 || b == 98 || b == 102 || b == 110 || b == 114 || b == 116 then
      .ok (i + 1)
    else .error (src.failAt (i + 1) .invalidEscape)

/-- Skip the rest of a string; `i` is inside it. -/
def skipString (src : Source) (i : Nat) : Except Failure Nat :=
  if _hi : i < src.bytes.size then
    match src.byte? i with
    | some 34 => .ok (i + 1)
    | some 92 =>
      match src.skipEscape (i + 1) with
      | .ok j => if i < j then src.skipString j else .error (src.failAt j .invalidEscape)
      | .error e => .error e
    | some b => if b < 32 then .error (src.failAt i .controlCharacter) else src.skipString (i + 1)
    | none => .error (src.failAt i .eofString)
  else .error (src.failAt i .eofString)
  termination_by src.bytes.size - i

/-- Where a skip stands: before a value, just inside a bracket, after a value, or before a key. -/
inductive SkipAt
  | value
  | opened
  | after
  | key

/-- Skip values inside the open brackets of `stack` (`true` for an object), until all are closed. -/
def skipLoop (src : Source) : Nat → SkipAt → List Bool → Nat → Except Failure Nat
  | 0, _, _, i => .error (src.failAt i .eofValue)
  | fuel + 1, .value, stack, i =>
    let j := src.skipBlank i
    let next (r : Except Failure Nat) : Except Failure Nat :=
      match r with
      | .ok k => src.skipLoop fuel .after stack k
      | .error e => .error e
    match src.byte? j with
    | none => .error (src.failPeek j .eofValue)
    | some 110 => next (src.expectWord (j + 1) [117, 108, 108])
    | some 116 => next (src.expectWord (j + 1) [114, 117, 101])
    | some 102 => next (src.expectWord (j + 1) [97, 108, 115, 101])
    | some 45 => next (src.skipNumber (j + 1))
    | some 34 => next (src.skipString (j + 1))
    | some 91 => src.skipLoop fuel .opened (false :: stack) (j + 1)
    | some 123 => src.skipLoop fuel .opened (true :: stack) (j + 1)
    | some b =>
      if 48 ≤ b ∧ b ≤ 57 then next (src.skipNumber j) else .error (src.failPeek j .expectedValue)
  | fuel + 1, .opened, stack, i =>
    match stack with
    | [] => .ok i
    | isObject :: rest =>
      let j := src.skipBlank i
      match src.byte? j with
      | some 93 => if isObject then src.skipLoop fuel .key stack j else src.skipLoop fuel .after rest (j + 1)
      | some 125 => if isObject then src.skipLoop fuel .after rest (j + 1) else src.skipLoop fuel .value stack j
      | some _ => src.skipLoop fuel (if isObject then .key else .value) stack j
      | none => .error (src.failPeek j (if isObject then .eofObject else .eofList))
  | fuel + 1, .after, stack, i =>
    match stack with
    | [] => .ok i
    | isObject :: rest =>
      let j := src.skipBlank i
      let noComma : Fault := if isObject then .expectedObjectCommaOrEnd else .expectedListCommaOrEnd
      match src.byte? j with
      | some 44 => src.skipLoop fuel (if isObject then .key else .value) stack (j + 1)
      | some 93 => if isObject then .error (src.failPeek j noComma) else src.skipLoop fuel .after rest (j + 1)
      | some 125 => if isObject then src.skipLoop fuel .after rest (j + 1) else .error (src.failPeek j noComma)
      | some _ => .error (src.failPeek j noComma)
      | none => .error (src.failPeek j (if isObject then .eofObject else .eofList))
  | fuel + 1, .key, stack, i =>
    let j := src.skipBlank i
    match src.byte? j with
    | some 34 =>
      match src.skipString (j + 1) with
      | .ok k =>
        match src.colon k with
        | .ok m => src.skipLoop fuel .value stack m
        | .error e => .error e
      | .error e => .error e
    | some _ => .error (src.failPeek j .keyMustBeString)
    | none => .error (src.failPeek j .eofObject)

def skipValue (src : Source) (i : Nat) : Except Failure Nat :=
  src.skipLoop (4 * (src.bytes.size + 2)) .value [] i

/-! ## Reading against a shape -/

/-- Where a duplicate field is reported: past the blanks after its key, and past a closing brace
found there. -/
def afterDuplicate (src : Source) (m : Nat) : Nat :=
  let j := src.skipBlank m
  if src.byte? j == some 125 then j + 1 else j

mutual
/-- Read any value from `i`, with `depth` more arrays and objects allowed to open. -/
def readValue (src : Source) : Nat → Nat → Nat → Except Failure (Value × Nat)
  | 0, _, i => .error (src.failAt i .eofValue)
  | fuel + 1, depth, i =>
    let j := src.skipBlank i
    match src.byte? j with
    | none => .error (src.failPeek j .eofValue)
    | some 110 => (src.expectWord (j + 1) [117, 108, 108]).map fun k => (.null, k)
    | some 116 => (src.expectWord (j + 1) [114, 117, 101]).map fun k => (.bool true, k)
    | some 102 => (src.expectWord (j + 1) [97, 108, 115, 101]).map fun k => (.bool false, k)
    | some 45 => (src.readNumber false (j + 1)).map fun (n, k) => (.num n, k)
    | some 34 => (src.readString (j + 1)).map fun (s, k) => (.str s, k)
    | some 91 =>
      if depth ≤ 1 then .error (src.failPeek j .recursionLimit)
      else
        match src.readItems fuel (depth - 1) (j + 1) true [] with
        | .ok (items, k) => .ok (.arr items, k + 1)
        | .error e => .error e
    | some 123 =>
      if depth ≤ 1 then .error (src.failPeek j .recursionLimit)
      else
        match src.readMembers fuel (depth - 1) (j + 1) true [] with
        | .ok (members, k) => .ok (Value.object members, k + 1)
        | .error e => .error e
    | some b =>
      if 48 ≤ b ∧ b ≤ 57 then (src.readNumber true j).map fun (n, k) => (.num n, k)
      else .error (src.failPeek j .expectedValue)

/-- Read the elements of an array up to its closing bracket, which is left in place. -/
def readItems (src : Source) : Nat → Nat → Nat → Bool → List Value → Except Failure (List Value × Nat)
  | 0, _, i, _, _ => .error (src.failAt i .eofValue)
  | fuel + 1, depth, i, first, acc =>
    match src.nextItem i first with
    | .error e => .error e
    | .ok (.close j) => .ok (acc.reverse, j)
    | .ok (.item k) =>
      match src.readValue fuel depth k with
      | .ok (v, m) => src.readItems fuel depth m false (v :: acc)
      | .error e => .error e

/-- Read the members of an object up to its closing brace, which is left in place. -/
def readMembers (src : Source) : Nat → Nat → Nat → Bool → List (String × Value) →
    Except Failure (List (String × Value) × Nat)
  | 0, _, i, _, _ => .error (src.failAt i .eofValue)
  | fuel + 1, depth, i, first, acc =>
    match src.nextKey i first with
    | .error e => .error e
    | .ok (.close j) => .ok (acc.reverse, j)
    | .ok (.item k) =>
      match src.readString (k + 1) with
      | .error e => .error e
      | .ok (key, m) =>
        match src.colon m with
        | .error e => .error e
        | .ok n =>
          match src.readValue fuel depth n with
          | .ok (v, p) => src.readMembers fuel depth p false ((key, v) :: acc)
          | .error e => .error e
end

mutual
/-- Read a value of a shape from `i`, with `depth` more arrays and objects allowed to open. -/
def readAs (src : Source) : Nat → Nat → Shape → Nat → Except Failure (Value × Nat)
  | 0, _, _, i => .error (src.failAt i .eofValue)
  | fuel + 1, depth, shape, i =>
    let j := src.skipBlank i
    match shape, src.byte? j with
    | .any, _ => src.readValue (fuel + 1) depth i
    | _, none => .error (src.failPeek j .eofValue)
    | .bool, some 116 => (src.expectWord (j + 1) [114, 117, 101]).map fun k => (.bool true, k)
    | .bool, some 102 => (src.expectWord (j + 1) [97, 108, 115, 101]).map fun k => (.bool false, k)
    | .word lo hi name, some b =>
      let number := if b == 45 then src.readNumber false (j + 1)
        else if 48 ≤ b ∧ b ≤ 57 then src.readNumber true j
        else .error (src.invalidAt j name)
      match number with
      | .ok (n, k) =>
        match wordFault lo hi name n with
        | some f => .error (src.failAt k f)
        | none => .ok (.num n, k)
      | .error e => .error e
    | .text _ refuse, some 34 =>
      match src.readString (j + 1) with
      | .ok (s, k) =>
        match refuse s with
        | some msg => .error (src.failAt k (.custom msg))
        | none => .ok (.str s, k)
      | .error e => .error e
    | .opt _, some 110 => (src.expectWord (j + 1) [117, 108, 108]).map fun k => (.null, k)
    | .opt inner, some _ => src.readAs fuel depth inner i
    | .seq elem, some 91 =>
      if depth ≤ 1 then .error (src.failPeek j .recursionLimit)
      else
        match src.readItemsAs fuel (depth - 1) elem (j + 1) true [] with
        | .ok (items, k) => .ok (.arr items, k + 1)
        | .error e => .error e
    | .record _ defaulted fields, some 123 =>
      if depth ≤ 1 then .error (src.failPeek j .recursionLimit)
      else
        match src.readFields fuel (depth - 1) fields (j + 1) true [] with
        | .ok (present, k) =>
          match firstMissing defaulted fields present with
          | some f => .error (src.failAt (k + 1) (.missingField f))
          | none => .ok (.obj (inFieldOrder fields present), k + 1)
        | .error e => .error e
    | .record name defaulted fields, some 91 =>
      if depth ≤ 1 then .error (src.failPeek j .recursionLimit)
      else
        match src.readPositional fuel (depth - 1) name defaulted fields.length 0 fields (j + 1) true [] with
        | .ok (v, k) => (src.closeList k).map fun e => (v, e)
        | .error e => .error e
    | .variants names, some 34 =>
      match src.readString (j + 1) with
      | .ok (s, k) => if names.contains s then .ok (.str s, k) else .error (src.failAt k (.unknownVariant s names))
      | .error e => .error e
    | .variants names, some 123 =>
      if depth ≤ 1 then .error (src.failPeek j .recursionLimit)
      else src.variantMember names (j + 1)
    | .variants _, some _ => .error (src.failPeek j .expectedValue)
    | shape, some _ => .error (src.invalidAt j shape.expecting)

/-- Read the elements of a sequence of one shape up to its closing bracket, left in place. -/
def readItemsAs (src : Source) : Nat → Nat → Shape → Nat → Bool → List Value →
    Except Failure (List Value × Nat)
  | 0, _, _, i, _, _ => .error (src.failAt i .eofValue)
  | fuel + 1, depth, elem, i, first, acc =>
    match src.nextItem i first with
    | .error e => .error e
    | .ok (.close j) => .ok (acc.reverse, j)
    | .ok (.item k) =>
      match src.readAs fuel depth elem k with
      | .ok (v, m) => src.readItemsAs fuel depth elem m false (v :: acc)
      | .error e => .error e

/-- Read the members of a record's object up to its closing brace, left in place: a member that
names a field is read against the field's shape, any other is skipped, and a field named twice is
a fault. -/
def readFields (src : Source) : Nat → Nat → List (String × Shape) → Nat → Bool →
    List (String × Value) → Except Failure (List (String × Value) × Nat)
  | 0, _, _, i, _, _ => .error (src.failAt i .eofValue)
  | fuel + 1, depth, fields, i, first, present =>
    match src.nextKey i first with
    | .error e => .error e
    | .ok (.close j) => .ok (present.reverse, j)
    | .ok (.item k) =>
      match src.readString (k + 1) with
      | .error e => .error e
      | .ok (key, m) =>
        match fields.find? (fun f => f.1 == key) with
        | some f =>
          if present.any (fun p => p.1 == key) then
            .error (src.failAt (src.afterDuplicate m) (.duplicateField key))
          else
            match src.colon m with
            | .error e => .error e
            | .ok n =>
              match src.readAs fuel depth f.2 n with
              | .ok (v, p) => src.readFields fuel depth fields p false ((key, v) :: present)
              | .error e => .error e
        | none =>
          match src.colon m with
          | .error e => .error e
          | .ok n =>
            match src.skipValue n with
            | .ok p => src.readFields fuel depth fields p false present
            | .error e => .error e

/-- Read a record written as an array: the elements fill the fields in order. -/
def readPositional (src : Source) : Nat → Nat → String → Bool → Nat → Nat → List (String × Shape) →
    Nat → Bool → List (String × Value) → Except Failure (Value × Nat)
  | 0, _, _, _, _, _, _, i, _, _ => .error (src.failAt i .eofValue)
  | _ + 1, _, _, _, _, _, [], i, _, acc => .ok (.obj acc.reverse, i)
  | fuel + 1, depth, name, defaulted, count, index, f :: fs, i, first, acc =>
    match src.nextItem i first with
    | .error e => .error e
    | .ok (.close j) =>
      if defaulted then .ok (.obj acc.reverse, j)
      else .error (src.failAt (j + 1)
        (.invalidLength index ("struct " ++ name ++ " with " ++ toString count ++ " elements")))
    | .ok (.item k) =>
      match src.readAs fuel depth f.2 k with
      | .ok (v, m) =>
        src.readPositional fuel depth name defaulted count (index + 1) fs m false ((f.1, v) :: acc)
      | .error e => .error e

/-- Read a name written as an object with one member whose value is null; `i` is inside the brace. -/
def variantMember (src : Source) (names : List String) (i : Nat) : Except Failure (Value × Nat) :=
  let k := src.skipBlank i
  match src.byte? k with
  | none => .error (src.failPeek k .eofValue)
  | some 34 =>
    match src.readString (k + 1) with
    | .error e => .error e
    | .ok (s, m) =>
      if !names.contains s then .error (src.failAt m (.unknownVariant s names))
      else
        match src.colon m with
        | .error e => .error e
        | .ok n =>
          let p := src.skipBlank n
          let unit : Except Failure Nat :=
            match src.byte? p with
            | none => .error (src.failPeek p .eofValue)
            | some 110 => src.expectWord (p + 1) [117, 108, 108]
            | some _ => .error (src.invalidAt p "unit")
          match unit with
          | .error e => .error e
          | .ok q =>
            let r := src.skipBlank q
            match src.byte? r with
            | some 125 => .ok (.str s, r + 1)
            | some _ => .error (src.failAt r .expectedValue)
            | none => .error (src.failAt r .eofObject)
  | some _ => .error (src.invalidAt k "variant identifier")
end

/-- Read a whole document of a shape: after the value only blanks may follow. -/
def read (src : Source) (shape : Shape) : Except Failure Value :=
  match src.readAs (16 * (src.bytes.size + 2)) 128 shape 0 with
  | .error e => .error e
  | .ok (v, i) =>
    let j := src.skipBlank i
    if j < src.bytes.size then .error (src.failPeek j .trailingCharacters) else .ok v

end Source

def readBytes (shape : Shape) (bytes : ByteArray) : Except Failure Value := (Source.mk bytes).read shape

def parse (text : String) : Except Failure Value := readBytes .any text.toUTF8

end Safekeep.Json
