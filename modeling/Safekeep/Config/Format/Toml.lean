import Safekeep.Config.Format.TomlLex
import Safekeep.Config.Tree
import Safekeep.Number.Nearest

/-!
# Configuration files in TOML

Reading TOML goes in three stages: tokens (`Config.Format.TomlLex`), lines, then tables.

## 1. Values

A value is a string, `true` or `false`, a number or date-time (a bare word starting with a digit
or `-`, or `inf` and `nan`), a `+` before a number, an inline table `{k = v, …}` on one line, or
an array `[v, …]` across lines with comments and a trailing comma allowed. Any other bare word is
an unquoted string, refused.

Numbers: `0x`, `0o` and `0b` integers; decimal integers with an optional sign, no leading zero,
and single `_` between digits; floats with a fraction and/or an exponent (the fraction and a
`+` exponent are separate tokens), `inf` and `nan` with a sign. Integers must fit a signed
64-bit word, floats must be finite.

A bare word with a `T` (or `t`), or a `-` after its first character but no `e-`, is a date-time,
as is a number followed by `:`. The date-time takes a time after one blank, then `:` minutes,
`:` seconds, a `.` fraction, a `+` and a `:` part of an offset; it is checked and spelled again
as `YYYY-MM-DD`, `THH:MM:SS` with the fraction's significant digits, and `Z` or `±HH:MM`.

## 2. Lines

Lines are blanks, comments, key-value pairs `k.k = v` (then only a comment or the end of the
line), and table headers `[k.k]` or `[[k.k]]` (the rest of the header's line checked when the
header is read). Dotted keys build tables inside the current one; extending a key that holds
anything but such a table is refused.

## 3. Tables

The tables are then visited as nested maps: each header's keys lead into its table, tables that
share a prefix are visited under it, an array of tables collects one map per `[[…]]` header.
A header given twice is a redefinition, a table header over an array of tables is refused, and
a key given twice in one map is a duplicate; a failure found inside a member names the keys that
lead to it. Failures with no place of their own are placed at their value, or else at the last
table header.
-/

namespace Safekeep.Config.Toml

open Safekeep.Number

/-! ## 1. Values -/

/-- A value as read, with the byte offset it starts at. -/
inductive Parsed
  | int (start : Nat) (i : Int)
  | float (start : Nat) (bits : UInt64)
  | bool (start : Nat) (b : Bool)
  | str (start : Nat) (s : String)
  | date (start : Nat) (s : String)
  | array (start : Nat) (xs : List Parsed)
  -- An inline table, or one built by dotted keys (`dotted`).
  | table (start : Nat) (dotted : Bool) (pairs : List (String × Parsed))
  deriving Repr, Inhabited

/-- The byte offset a value starts at. -/
def Parsed.start : Parsed → Nat
  | .int s _ => s
  | .float s _ => s
  | .bool s _ => s
  | .str s _ => s
  | .date s _ => s
  | .array s _ => s
  | .table s _ _ => s

def replaceFirst (k : String) (v : Parsed) : List (String × Parsed) → List (String × Parsed)
  | [] => []
  | (k', v') :: rest => if k' = k then (k, v) :: rest else (k', v') :: replaceFirst k v rest

/-- Add a value under a dotted key to a table's pairs. -/
def addDotted (v : Parsed) : List String → List (String × Parsed) → Except Failure (List (String × Parsed))
  | [], pairs => .ok pairs
  | [k], pairs => .ok (pairs ++ [(k, v)])
  | k :: rest, pairs =>
    match pairs.find? (·.1 == k) with
    | some (_, .table s true inner) =>
      (addDotted v rest inner).map fun inner' => replaceFirst k (.table s true inner') pairs
    | some (_, other) => .error (failAt .dottedKeyInvalidType other.start)
    | none => (addDotted v rest []).map fun inner => pairs ++ [(k, .table v.start true inner)]

/-- Whether a character is a digit of a radix (2, 8, 10 or 16). -/
def isRadixDigit (radix : Nat) (c : Char) : Bool :=
  if radix = 16 then c.isDigit || ('a' ≤ c && c ≤ 'f') || ('A' ≤ c && c ≤ 'F')
  else c.isDigit && c.toNat - '0'.toNat < radix

def digitValue (c : Char) : Nat :=
  if c.isDigit then c.toNat - '0'.toNat
  else if 'a' ≤ c ∧ c ≤ 'f' then c.toNat - 'a'.toNat + 10 else c.toNat - 'A'.toNat + 10

/-- Walk a numeral's characters: the position where its digits end, whether no digit was met,
and whether it ended on `_`. -/
def integerEnd (off : Nat) (allowSign allowLeadingZeros : Bool) (radix : Nat) :
    List Char → Nat → Bool → Bool → Bool → Except Failure (Nat × Bool × Bool)
  | [], i, first, _, under => .ok (i, first, under)
  | c :: rest, i, first, zero, under =>
    if i = 0 ∧ (c = '+' ∨ c = '-') ∧ allowSign then integerEnd off allowSign allowLeadingZeros radix rest (i + 1) first zero under
    else if c = '0' ∧ first then integerEnd off allowSign allowLeadingZeros radix rest (i + 1) false true under
    else if isRadixDigit radix c then
      if ¬first ∧ zero ∧ ¬allowLeadingZeros then .error (failAt .numberInvalid (off + i))
      else integerEnd off allowSign allowLeadingZeros radix rest (i + 1) false zero false
    else if c = '_' ∧ first then .error (failAt .numberInvalid (off + i))
    else if c = '_' ∧ ¬under then integerEnd off allowSign allowLeadingZeros radix rest (i + 1) false zero true
    else .ok (i, first, under)

/-- Split a numeral at `off` into its digits and the rest, checking signs, zeros and `_`. -/
def splitInteger (s : String) (off : Nat) (allowSign allowLeadingZeros : Bool) (radix : Nat) :
    Except Failure (String × String) :=
  let cs := s.toList
  match integerEnd off allowSign allowLeadingZeros radix cs 0 true false false with
  | .error e => .error e
  | .ok (e, first, under) =>
    if first ∨ under then .error (failAt .numberInvalid off)
    else .ok (String.ofList (cs.take e), String.ofList (cs.drop e))

/-- A whole numeral of a radix at `off`, which must fit a signed 64-bit word. -/
def readInteger (s : String) (off : Nat) (radix : Nat) : Except Failure Int := do
  let (digits, rest) ← splitInteger s off (radix = 10) (radix ≠ 10) radix
  if ¬rest.isEmpty then throw (failAt .numberInvalid off)
  let body := (digits.toList.filter (· ≠ '_')).dropWhile (· = '+')
  let (neg, ds) := match body with
    | '-' :: r => (true, r)
    | '+' :: r => (false, r)
    | r => (false, r)
  if ds.isEmpty ∨ !ds.all (isRadixDigit radix) then throw (failAt .numberInvalid off)
  let v : Int := ds.foldl (fun n c => radix * n + digitValue c) 0
  let v := if neg then -v else v
  if i64Min ≤ v ∧ v ≤ i64Max then pure v else throw (failAt .numberInvalid off)

namespace Src

def eatTok (t : Src) (tok : Token) (i : Nat) : Except Failure (Bool × Nat) := do
  match ← t.lex i with
  | some l => if l.token = tok then pure (true, l.next) else pure (false, i)
  | none => pure (false, i)

def expectTok (t : Src) (tok : Token) (i : Nat) : Except Failure Nat := do
  match ← t.lex i with
  | some l =>
    if l.token = tok then pure l.next
    else throw (failAt (.wanted tok.describe l.token.describe) (t.offset i))
  | none => throw (failAt (.wanted tok.describe "eof") t.size)

def eatNewlineOrEof (t : Src) (i : Nat) : Except Failure Nat := do
  match ← t.lex i with
  | none => pure i
  | some l =>
    if l.token = .newline then pure l.next
    else throw (failAt (.wanted "newline" l.token.describe) (t.offset i))

def eatComment (t : Src) (i : Nat) : Except Failure (Bool × Nat) :=
  if t.charAt? i = some '#' then
    (t.eatNewlineOrEof (t.skipWhile (fun c => c = '\t' || 0x20 ≤ c.toNat) (i + 1))).map fun j => (true, j)
  else .ok (false, i)

/-- One key of a dotted key: a bare word or a one-line string. -/
def tableKey (t : Src) (i : Nat) : Except Failure (String × Nat) := do
  match ← t.lex i with
  | some ⟨_, .word k, j⟩ => pure (k, j)
  | some ⟨o, .str s multiline, j⟩ => if multiline then throw (failAt .multilineStringKey o) else pure (s, j)
  | some l => throw (failAt (.wanted "a table key" l.token.describe) (t.offset i))
  | none => throw (failAt (.wanted "a table key" "eof") t.size)

/-- The further keys of a dotted key. -/
def moreKeys (t : Src) : Nat → List String → Nat → Except Failure (List String × Nat)
  | 0, acc, i => .ok (acc, i)
  | fuel + 1, acc, i => do
    let (dot, j) ← t.eatTok .period i
    if dot then
      let (k, j) ← t.tableKey (t.skipBlanks j)
      t.moreKeys fuel (acc ++ [k]) (t.skipBlanks j)
    else pure (acc, i)

def dottedKey (t : Src) (i : Nat) : Except Failure (List String × Nat) := do
  let (k, j) ← t.tableKey i
  t.moreKeys (t.chars.size + 1) [k] (t.skipBlanks j)

/-- A float from its whole part at `off`, the word after its point (if any), and an exponent
that may continue in later tokens. -/
def readFloatAt (t : Src) (s : String) (off : Nat) (after : Option (String × Nat)) (i : Nat) :
    Except Failure (UInt64 × Nat) := do
  let (integral, suffix) ← splitInteger s off true false 10
  let (fraction, suffix, sufOff) ← match after with
    | some (a, aoff) =>
      if ¬suffix.isEmpty then throw (failAt .numberInvalid off)
      else do
        let (fa, fb) ← splitInteger a aoff false true 10
        pure (some fa, fb, aoff + fa.length)
    | none => pure (none, suffix, off + integral.length)
  let (exponent, i) ← (if suffix.startsWith "e" ∨ suffix.startsWith "E" then
      if suffix.length = 1 then do
        let (_, i) ← t.eatTok .plus i
        match ← t.lex i with
        | some ⟨o, .word w, j⟩ =>
          let (a, b) ← splitInteger w o false true 10
          if ¬b.isEmpty then throw (failAt .numberInvalid off)
          pure (some a, j)
        | _ => throw (failAt .numberInvalid off)
      else do
        let (a, b) ← splitInteger (String.ofList (suffix.toList.drop 1)) (sufOff + 1) true true 10
        if ¬b.isEmpty then throw (failAt .numberInvalid off)
        pure (some a, i)
    else if ¬suffix.isEmpty then throw (failAt .numberInvalid off)
    else pure (none, i) : Except Failure (Option String × Nat))
  let clean (x : String) : String := String.ofList (x.toList.filter (· ≠ '_'))
  let number := clean (String.ofList (integral.toList.dropWhile (· = '+'))) ++
    (match fraction with
      | some f => "." ++ clean f
      | none => "") ++
    (match exponent with
      | some e => "E" ++ clean e
      | none => "")
  match readFloat number with
  | some bits =>
    if (bits.toNat / Nat.pow 2 52) % Nat.pow 2 11 = 2047 then throw (failAt .numberInvalid off) else pure (bits, i)
  | none => throw (failAt .numberInvalid off)

/-- A number whose first word `s` is at `off`, for a value starting at `start`. -/
def number (t : Src) (start : Nat) (s : String) (off : Nat) (i : Nat) : Except Failure (Parsed × Nat) := do
  if s.startsWith "0x" then pure (.int start (← readInteger (String.ofList (s.toList.drop 2)) (off + 2) 16), i)
  else if s.startsWith "0o" then pure (.int start (← readInteger (String.ofList (s.toList.drop 2)) (off + 2) 8), i)
  else if s.startsWith "0b" then pure (.int start (← readInteger (String.ofList (s.toList.drop 2)) (off + 2) 2), i)
  else if s.contains 'e' ∨ s.contains 'E' then
    let (b, j) ← t.readFloatAt s off none i
    pure (.float start b, j)
  else
    let (dot, j) ← t.eatTok .period i
    if dot then
      let here := t.offset j
      match ← t.lex j with
      | some ⟨o, .word w, k⟩ =>
        let (b, k) ← t.readFloatAt s off (some (w, o)) k
        pure (.float start b, k)
      | _ => throw (failAt .numberInvalid here)
    else if s = "inf" then pure (.float start infinityBits, i)
    else if s = "-inf" then pure (.float start (infinityBits + 0x8000000000000000), i)
    else if s = "nan" then pure (.float start nanBits, i)
    else if s = "-nan" then pure (.float start (nanBits + 0x8000000000000000), i)
    else pure (.int start (← readInteger s off 10), i)

def dateWord (t : Src) (start : Nat) (i : Nat) : Except Failure Nat := do
  match ← t.lex i with
  | some ⟨_, .word _, j⟩ => pure j
  | _ => throw (failAt .dateInvalid start)

def datePart (t : Src) (start : Nat) (tok : Token) (i : Nat) : Except Failure Nat := do
  let (here, j) ← t.eatTok tok i
  if here then t.dateWord start j else pure i

/-- The text of a date-time whose first word is at position `first`; `i` is after that word. -/
def datetime (t : Src) (first : Nat) (colonEaten : Bool) (i : Nat) : Except Failure (String × Nat) := do
  let start := t.offset first
  let i := match t.lex i with
    | .ok (some ⟨_, .blank " ", j⟩) =>
      match t.lex j with
      | .ok (some ⟨_, .word _, k⟩) => k
      | _ => i
    | _ => i
  let (colon, i) ← if colonEaten then pure (true, i) else t.eatTok .colon i
  let i ← if colon then do
      let i ← t.dateWord start i
      let i ← t.expectTok .colon i
      let i ← t.dateWord start i
      let i ← t.datePart start .period i
      let i ← t.datePart start .plus i
      t.datePart start .colon i
    else pure i
  pure (t.slice first i, i)

/-- A number or date-time whose word `s` is at position `first` (byte offset `off`). -/
def numberOrDate (t : Src) (start : Nat) (first : Nat) (s : String) (off : Nat) (i : Nat) : Except Failure (Parsed × Nat) := do
  let rest := s.toList.drop 1
  if s.contains 'T' ∨ s.contains 't' ∨
      (s.length > 1 ∧ rest.contains '-' ∧ ¬(s.splitOn "e-").length > 1 ∧ ¬(s.splitOn "E-").length > 1) then
    let (d, j) ← t.datetime first false i
    pure (.date start d, j)
  else
    let (colon, j) ← t.eatTok .colon i
    if colon then
      let (d, k) ← t.datetime first true j
      pure (.date start d, k)
    else t.number start s off i

/-- Skip blanks, line feeds and comments between array elements. -/
def betweenElements (t : Src) : Nat → Nat → Except Failure Nat
  | 0, i => .ok i
  | fuel + 1, i => do
    let i := t.skipBlanks i
    let (nl, j) ← t.eatTok .newline i
    if nl then t.betweenElements fuel j
    else
      let (c, j) ← t.eatComment i
      if c then t.betweenElements fuel j else pure i

mutual
/-- A value at position `i`. -/
def value (t : Src) : Nat → Nat → Except Failure (Parsed × Nat)
  | 0, i => .error (failAt .unexpectedEof (t.offset i))
  | fuel + 1, i => do
    let here := t.offset i
    match ← t.lex i with
    | some ⟨o, .str s _, j⟩ => pure (.str o s, j)
    | some ⟨o, .word w, j⟩ =>
      if w = "true" then pure (.bool o true, j)
      else if w = "false" then pure (.bool o false, j)
      else if w = "inf" ∨ w = "nan" then t.numberOrDate o i w o j
      else
        match w.toList.head? with
        | some c => if c = '-' ∨ c.isDigit then t.numberOrDate o i w o j else throw (failAt .unquotedString here)
        | none => throw (failAt .unquotedString here)
    | some ⟨o, .plus, j⟩ =>
      let here' := t.offset j
      match ← t.lex j with
      | some ⟨o2, .word w, k⟩ => t.number o w o2 k
      | _ => throw (failAt .numberInvalid here')
    | some ⟨o, .leftBrace, j⟩ =>
      let (pairs, k) ← t.inlineTable fuel (t.skipBlanks j)
      pure (.table o false pairs, k)
    | some ⟨o, .leftBracket, j⟩ =>
      let (xs, k) ← t.arrayItems fuel [] j
      pure (.array o xs, k)
    | some l => throw (failAt (.wanted "a value" l.token.describe) here)
    | none => throw (failAt .unexpectedEof t.size)

def inlineTable (t : Src) : Nat → Nat → Except Failure (List (String × Parsed) × Nat)
  | 0, i => .error (failAt .unexpectedEof (t.offset i))
  | fuel + 1, i => do
    let (closed, j) ← t.eatTok .rightBrace i
    if closed then pure ([], j)
    else t.inlineMembers fuel [] i

/-- Members of an inline table, one after another. -/
def inlineMembers (t : Src) : Nat → List (String × Parsed) → Nat → Except Failure (List (String × Parsed) × Nat)
  | 0, _, i => .error (failAt .unexpectedEof (t.offset i))
  | fuel + 1, acc, i => do
    let (keys, i) ← t.dottedKey i
    let i ← t.expectTok .equals (t.skipBlanks i)
    let (v, i) ← t.value fuel (t.skipBlanks i)
    let acc ← addDotted v keys acc
    let i := t.skipBlanks i
    let (closed, j) ← t.eatTok .rightBrace i
    if closed then pure (acc, j)
    else
      let i ← t.expectTok .comma i
      t.inlineMembers fuel acc (t.skipBlanks i)

/-- The elements of an array after its opening bracket. -/
def arrayItems (t : Src) : Nat → List Parsed → Nat → Except Failure (List Parsed × Nat)
  | 0, _, i => .error (failAt .unexpectedEof (t.offset i))
  | fuel + 1, acc, i => do
    let i ← t.betweenElements (t.chars.size + 1) i
    let (closed, j) ← t.eatTok .rightBracket i
    if closed then pure (acc, j)
    else
      let (v, i) ← t.value fuel i
      let i ← t.betweenElements (t.chars.size + 1) i
      let (comma, i) ← t.eatTok .comma i
      if comma then t.arrayItems fuel (acc ++ [v]) i
      else
        let i ← t.betweenElements (t.chars.size + 1) i
        let i ← t.expectTok .rightBracket i
        pure (acc ++ [v], i)
end

end Src

/-! ## 2. Lines -/

/-- A table as the lines give it: where its header starts, the header's keys, its pairs (none
for a table that has no header and no pairs yet) and whether it is an element of an array. -/
structure Table where
  start : Nat
  header : List String
  values : Option (List (String × Parsed))
  array : Bool
  deriving Repr, Inhabited

def Table.started (tb : Table) : Bool := !tb.header.isEmpty || tb.values.isSome

/-- A line of a TOML text. -/
inductive Line
  -- A header at byte `start`, its keys read from position `keys`.
  | header (start : Nat) (keys : Nat) (array : Bool)
  | pair (keys : List String) (v : Parsed)

namespace Src

/-- Skip blank lines and comment lines. -/
def skipEmptyLines (t : Src) : Nat → Nat → Except Failure Nat
  | 0, i => .ok i
  | fuel + 1, i => do
    let i := t.skipBlanks i
    let (c, j) ← t.eatComment i
    if c then t.skipEmptyLines fuel j
    else
      let (nl, j) ← t.eatTok .newline i
      if nl then t.skipEmptyLines fuel j else pure i

/-- The next line that holds something, if any. -/
def line (t : Src) (i : Nat) : Except Failure (Option Line × Nat) := do
  let i ← t.skipEmptyLines (t.chars.size + 1) i
  match ← t.lex i with
  | none => pure (none, i)
  | some ⟨_, .leftBracket, _⟩ =>
    let start := t.offset i
    let i ← t.expectTok .leftBracket i
    let (array, i) ← t.eatTok .leftBracket i
    let stop := t.skipWhile (· ≠ '\n') i
    pure (some (.header start i array), if stop < t.chars.size then stop + 1 else stop)
  | some _ =>
    let (keys, i) ← t.dottedKey i
    let i ← t.expectTok .equals (t.skipBlanks i)
    let (v, i) ← t.value (t.chars.size + 1) (t.skipBlanks i)
    let i := t.skipBlanks i
    let (c, i) ← t.eatComment i
    let i ← if c then pure i else t.eatNewlineOrEof i
    pure (some (.pair keys v), i)

/-- The keys of a header read from position `i`, and the check of the rest of its line. -/
def headerKeys (t : Src) (array : Bool) : Nat → List String → Nat → Except Failure (List String)
  | 0, acc, _ => .ok acc
  | fuel + 1, acc, i => do
    let i := t.skipBlanks i
    if acc.isEmpty then
      let (k, j) ← t.tableKey (t.skipBlanks i)
      t.headerKeys array fuel [k] j
    else
      let (dot, j) ← t.eatTok .period i
      if dot then
        let (k, j) ← t.tableKey (t.skipBlanks j)
        t.headerKeys array fuel (acc ++ [k]) j
      else
        let i ← t.expectTok .rightBracket i
        let i ← if array then t.expectTok .rightBracket i else pure i
        let i := t.skipBlanks i
        let (c, i) ← t.eatComment i
        if ¬c then
          let _ ← t.eatNewlineOrEof i
        pure acc

/-- Read the lines from `i` into tables, `cur` the table being filled. -/
def tables (t : Src) : Nat → Table → List Table → Nat → Except Failure (List Table)
  | 0, cur, acc, _ => .ok (if cur.started then acc ++ [cur] else acc)
  | fuel + 1, cur, acc, i => do
    match ← t.line i with
    | (none, _) => pure (if cur.started then acc ++ [cur] else acc)
    | (some (.header start keys array), j) =>
      let acc := if cur.started then acc ++ [cur] else acc
      let header ← t.headerKeys array (t.chars.size + 1) [] keys
      t.tables fuel ⟨start, header, some [], array⟩ acc j
    | (some (.pair keys v), j) =>
      let values ← addDotted v keys (cur.values.getD [])
      t.tables fuel { cur with values := some values } acc j

end Src

/-! ## 3. Tables -/

def twoDigits : List Char → Option (Nat × List Char)
  | a :: b :: rest => if a.isDigit ∧ b.isDigit then some (digitValue a * 10 + digitValue b, rest) else none
  | _ => none

def padded (width n : Nat) : String :=
  let ds := Nat.toDigits 10 n
  String.ofList (List.replicate (width - ds.length) '0' ++ ds)

/-- The fraction digits of a time: their nanoseconds (the first nine digits count) and the rest
of the text; none without a digit. -/
def fractionNanos (cs : List Char) : Option (Nat × List Char) :=
  let ds := cs.takeWhile Char.isDigit
  if ds.isEmpty then none
  else
    let nine := (ds.take 9) ++ List.replicate (9 - min 9 ds.length) '0'
    some (nine.foldl (fun n c => 10 * n + digitValue c) 0, cs.drop ds.length)

/-- A time `HH:MM:SS[.fraction]` spelled again, and the rest of the text. -/
def readTime (cs : List Char) : Option (String × List Char) := do
  let (h, cs) ← twoDigits cs
  let cs ← match cs with
    | ':' :: r => some r
    | _ => none
  let (m, cs) ← twoDigits cs
  let cs ← match cs with
    | ':' :: r => some r
    | _ => none
  let (s, cs) ← twoDigits cs
  let (ns, cs) ← match cs with
    | '.' :: r => fractionNanos r
    | _ => some (0, cs)
  if h > 24 ∨ m > 59 ∨ s > 59 then none
  let frac := if ns = 0 then "" else
    "." ++ String.ofList ((padded 9 ns).toList.reverse.dropWhile (· = '0')).reverse
  pure (padded 2 h ++ ":" ++ padded 2 m ++ ":" ++ padded 2 s ++ frac, cs)

/-- A date-time checked and spelled again: `YYYY-MM-DD`, `THH:MM:SS` and an offset. -/
def datetimeText (s : String) : Option String := do
  if s.utf8ByteSize < 3 then none
  let cs := s.toList
  let hasDate := cs[2]? ≠ some ':'
  let (date, cs) ← if hasDate then do
      let (y1, cs) ← twoDigits cs
      let (y2, cs) ← twoDigits cs
      let cs ← match cs with
        | '-' :: r => some r
        | _ => none
      let (mo, cs) ← twoDigits cs
      let cs ← match cs with
        | '-' :: r => some r
        | _ => none
      let (d, cs) ← twoDigits cs
      if mo < 1 ∨ mo > 12 ∨ d < 1 ∨ d > 31 then none
      pure (some (padded 4 (100 * y1 + y2) ++ "-" ++ padded 2 mo ++ "-" ++ padded 2 d), cs)
    else pure (none, cs)
  let (time, cs) ← match date, cs with
    | some _, c :: r =>
      if c = 'T' ∨ c = 't' ∨ c = ' ' then (readTime r).map fun (x, r) => (some x, r) else some (none, cs)
    | some _, [] => some (none, cs)
    | none, _ => (readTime cs).map fun (x, r) => (some x, r)
  let (offset, cs) ← match date, time with
    | some _, some _ =>
      match cs with
      | [] => some ("", [])
      | c :: r =>
        if c = 'Z' ∨ c = 'z' then some ("Z", r)
        else if c = '+' ∨ c = '-' then do
          let (h, r) ← twoDigits r
          let r ← match r with
            | ':' :: r => some r
            | _ => none
          let (m, r) ← twoDigits r
          let sign := if c = '-' ∧ h ≠ 0 then "-" else "+"
          pure (sign ++ padded 2 h ++ ":" ++ padded 2 m, r)
        else none
    | _, _ => some ("", cs)
  if ¬cs.isEmpty then none
  pure ((date.getD "") ++ (if date.isSome ∧ time.isSome then "T" else "") ++ (time.getD "") ++ offset)

def Failure.under (k : String) (f : Failure) : Failure := { f with keys := k :: f.keys }

/-- Place a failure at an offset unless it has a place. -/
def Failure.placeAt (o : Option Nat) (f : Failure) : Failure :=
  match f.offset with
  | some _ => f
  | none => { f with offset := o }

def duplicateKey (k : String) : Failure := ⟨.custom ("duplicate key: `" ++ k ++ "`"), none, []⟩

def insertSorted (k : String) (v : Item) : List (String × Item) → List (String × Item)
  | [] => [(k, v)]
  | (k', v') :: rest => if k < k' then (k, v) :: (k', v') :: rest else (k', v') :: insertSorted k v rest

mutual
/-- A value read as a tree; failures are placed at the value. -/
def itemOf (o : Option String) : Parsed → Except Failure Item
  | .int _ i => .ok (.leaf o (.int i))
  | .float _ b => .ok (.leaf o (.float b))
  | .bool _ b => .ok (.leaf o (.bool b))
  | .str _ s => .ok (.leaf o (.text s))
  | .date st s =>
    match datetimeText s with
    | some d => .ok (.leaf o (.text d))
    | none => .error ⟨.custom "failed to parse datetime", some st, []⟩
  | .array _ xs => (itemsOf o xs).map (.list o)
  | .table st _ pairs => ((membersOf o [] pairs).map (.table o)).mapError (·.placeAt (some st))

def itemsOf (o : Option String) : List Parsed → Except Failure (List Item)
  | [] => .ok []
  | x :: rest => do
    let it ← itemOf o x
    let more ← itemsOf o rest
    pure (it :: more)

/-- Table pairs as members, sorted by key; a key given twice fails. -/
def membersOf (o : Option String) (acc : List (String × Item)) : List (String × Parsed) →
    Except Failure (List (String × Item))
  | [] => .ok acc
  | (k, v) :: rest =>
    if acc.any (·.1 == k) then .error (duplicateKey k)
    else do
      let it ← itemOf o v
      membersOf o (insertSorted k it acc) rest
end

/-- How the tables are being visited: the pairs left of the table being read, the pair whose
value comes next, the depth of the keys, the next table to look at, the table whose keys lead
here, the end of the tables in view, and whether the visit collects an array of tables. -/
structure Visit where
  values : List (String × Parsed)
  pending : Option (String × Parsed)
  depth : Nat
  cur : Nat
  parent : Nat
  max : Nat
  array : Bool

def headerAt (ts : Array Table) (i : Nat) : List String := (ts[i]?.map (·.header)).getD []

/-- The next key of a visit: the next pair of the table being read, else the next key of the
next table in view under the same prefix. -/
def nextKey (ts : Array Table) : Nat → Visit → Except Failure (Array Table × Visit × Option String)
  | 0, v => .ok (ts, v, none)
  | fuel + 1, v =>
    if v.parent = v.max ∨ v.cur = v.max then .ok (ts, v, none)
    else
      match v.values with
      | (k, x) :: rest => .ok (ts, { v with values := rest, pending := some (k, x) }, some k)
      | [] =>
        let pre := (headerAt ts v.parent).take v.depth
        let found := (List.range ts.size).find? fun i =>
          v.cur ≤ i ∧ i < v.max ∧ pre.isPrefixOf (headerAt ts i) ∧ (ts[i]?.bind (·.values)).isSome
        match found with
        | none => .ok (ts, v, none)
        | some pos =>
          let tb := ts[pos]?.getD default
          let v := { v with cur := pos }
          if v.parent ≠ pos ∧ headerAt ts v.parent = tb.header then
            .error (failAt (.duplicateTable (".".intercalate tb.header)) tb.start)
          else
            let v := if v.parent ≠ pos ∧ tb.header.length < (headerAt ts v.parent).length then
              { v with parent := pos } else v
            if v.depth ≠ tb.header.length then .ok (ts, v, tb.header[v.depth]?)
            else if tb.array then .error (failAt .redefineAsArray tb.start)
            else
              nextKey (ts.set! pos { tb with values := none }) fuel { v with values := tb.values.getD [] }

mutual
/-- Visit a map: keys and values until the keys run out; a key given twice fails. -/
def visitMap (o : Option String) : Nat → Array Table → Visit → List (String × Item) →
    Except Failure (Array Table × Item)
  | 0, ts, _, acc => .ok (ts, .table o acc)
  | fuel + 1, ts, v, acc => do
    let (ts, v, key) ← nextKey ts (ts.size + 2) v
    match key with
    | none => pure (ts, .table o acc)
    | some k =>
      if acc.any (·.1 == k) then throw (duplicateKey k)
      let (ts, v, it) ← nextValue o fuel ts v
      visitMap o fuel ts v (insertSorted k it acc)

/-- The value of the key just given: its pair's value, or the map (or array of maps) of the
tables under it. -/
def nextValue (o : Option String) : Nat → Array Table → Visit → Except Failure (Array Table × Visit × Item)
  | 0, ts, v => .ok (ts, v, .table o [])
  | fuel + 1, ts, v =>
    match v.pending with
    | some (k, x) =>
      match itemOf o x with
      | .ok it => .ok (ts, { v with pending := none }, it)
      | .error e => .error (e.under k)
    | none =>
      let tb := ts[v.cur]?.getD default
      let array := tb.array ∧ v.depth + 1 = tb.header.length
      let v := { v with cur := v.cur + 1 }
      let inner : Visit := ⟨[], none, v.depth + (if array then 0 else 1), 0, v.cur - 1, v.max, array⟩
      let r := if array then visitSeq o fuel ts inner [] else visitMap o fuel ts inner []
      match r with
      | .ok (ts, it) => .ok (ts, v, it)
      | .error e => .error (e.under (((headerAt ts (v.cur - 1))[v.depth]?).getD ""))

/-- Visit an array of tables: one map per header of it, each with the tables under it. -/
def visitSeq (o : Option String) : Nat → Array Table → Visit → List Item → Except Failure (Array Table × Item)
  | 0, ts, _, acc => .ok (ts, .list o acc)
  | fuel + 1, ts, v, acc => do
    if v.parent = v.max then return (ts, .list o acc)
    let header := headerAt ts v.parent
    let next := ((List.range ts.size).find? fun i =>
      v.parent + 1 ≤ i ∧ i < v.max ∧ headerAt ts i = header ∧ (ts[i]?.map (·.array)).getD false).getD v.max
    let tb := ts[v.parent]?.getD default
    let ts := ts.set! v.parent { tb with values := none }
    let (ts, it) ← visitMap o fuel ts ⟨tb.values.getD [], none, v.depth + 1, 0, v.parent, next, false⟩ []
    visitSeq o fuel ts { v with parent := next } (acc ++ [it])
end

/-- The whole document as a tree; a failure with no place of its own is placed at the last
table header. -/
def document (o : Option String) (t : Src) : Except Failure Item := do
  let ts ← t.tables (t.chars.size + 1) ⟨0, [], none, false⟩ [] 0
  let ts := ts.toArray
  let fuel := 2 * (ts.size + t.chars.size) + 4
  match visitMap o fuel ts ⟨[], none, 0, 0, 0, ts.size, false⟩ [] with
  | .ok (_, it) => pure it
  | .error e => throw (e.placeAt (ts.back?.map (·.start)))

end Safekeep.Config.Toml

namespace Safekeep.Config

def readTomlFile (origin : String) (text : String) : Except String (List (String × Item)) :=
  match Toml.document (some origin) (Toml.Src.ofString text) with
  | .ok it => .ok it.members
  | .error f => .error (f.text text)

end Safekeep.Config
