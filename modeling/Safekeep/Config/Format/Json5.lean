import Safekeep.Config.Decode
import Safekeep.Number.Decimal
import Safekeep.Number.Nearest
import Safekeep.Text.Category

/-!
# JSON5 settings files

JSON5 extends JSON with comments, unquoted keys, single-quoted strings, trailing commas,
hexadecimal numbers, `Infinity` and `NaN`, and more escapes.

## 1. Grammar

A text is one value between blanks and comments (`//` to the end of the line, `/* … */`). A
value is `null`, `true` or `false`, a string, a number, an object or an array, tried in this
order. Blanks and comments may stand between any two tokens of an object or an array, but not
inside a string or a number.

A failed parse reports the furthest place where one of the named rules below failed, and the
rules that failed there. A rule that fails after exactly one rule inside it failed at its own
start is reported by that inner rule instead; a rule that fails at a place where inner rules
failed replaces them.

## 2. Values

Numbers without `.`, and without `e` unless hexadecimal, are integers (a sign before `0x` makes
them unreadable); other numbers are floats, and a float that overflows is refused. A `\u` escape
of a leading surrogate pairs with the piece after it, which must read as a trailing surrogate;
a trailing surrogate alone is refused. The document must be an object; its members become
settings, a repeated key keeping its last value.

Names start with a letter, a letter number, `$`, `_` or a `\u` escape, and go on with those or
with nonspacing marks, diacritics, decimal digits, connector punctuation and the zero-width
joiners.
-/

namespace Safekeep.Config.Json5

open Safekeep.Number

/-! ## 1. Grammar -/

/-- The rules a failed parse may name, in the order the grammar lists them. -/
inductive Rule
  | eoi
  | array
  | boolean
  | charEscapeSequence
  | charLiteral
  | hexEscapeSequence
  | identifier
  | nulEscapeSequence
  | null
  | number
  | object
  | string
  | unicodeEscapeSequence
  deriving DecidableEq, Repr

namespace Rule

/-- The place of a rule in the grammar's order. -/
def rank : Rule → Nat
  | .eoi => 0
  | .array => 1
  | .boolean => 2
  | .charEscapeSequence => 3
  | .charLiteral => 4
  | .hexEscapeSequence => 5
  | .identifier => 6
  | .nulEscapeSequence => 7
  | .null => 8
  | .number => 9
  | .object => 10
  | .string => 11
  | .unicodeEscapeSequence => 12

/-- The name of a rule in a failure message. -/
def name : Rule → String
  | .eoi => "EOI"
  | .array => "array"
  | .boolean => "boolean"
  | .charEscapeSequence => "char_escape_sequence"
  | .charLiteral => "char_literal"
  | .hexEscapeSequence => "hex_escape_sequence"
  | .identifier => "identifier"
  | .nulEscapeSequence => "nul_escape_sequence"
  | .null => "null"
  | .number => "number"
  | .object => "object"
  | .string => "string"
  | .unicodeEscapeSequence => "unicode_escape_sequence"

end Rule

/-- The furthest place where a named rule failed, and the rules that failed there in order. -/
structure Tracker where
  place : Nat
  failed : List Rule

def Tracker.failuresAt (t : Tracker) (pos : Nat) : Nat :=
  if t.place = pos then t.failed.length else 0

/-- Record that a rule started at `pos` failed; `before` rules had failed at `pos` when it
started. -/
def Tracker.fail (t : Tracker) (r : Rule) (pos before : Nat) : Tracker :=
  let now := t.failuresAt pos
  if now > before ∧ now - before = 1 then t
  else
    let t := if pos = t.place then { t with failed := t.failed.take before } else t
    let t := if pos > t.place then ⟨pos, []⟩ else t
    if pos = t.place then { t with failed := t.failed ++ [r] } else t

/-- Parsing steps: they record failed rules. -/
abbrev Scan := StateM Tracker

def rule {α : Type} (r : Rule) (pos : Nat) (body : Scan (Option α)) : Scan (Option α) := do
  let before := (← get).failuresAt pos
  let res ← body
  if res.isNone then modify fun t => t.fail r pos before
  pure res

def orElse {α : Type} (a b : Scan (Option α)) : Scan (Option α) := do
  match ← a with
  | some x => pure (some x)
  | none => b

/-- A piece of a string or a name, as written: a character, a one-character escape (the character
after the backslash), the escape `\0`, or the hexadecimal digits of a `\x` or `\u` escape. -/
inductive Piece
  | char (c : Char)
  | escape (c : Char)
  | nul
  | hex (digits : List Char)
  | unicode (digits : List Char)
  deriving DecidableEq, Repr

def Piece.text : Piece → List Char
  | .char c => [c]
  | .escape c => [c]
  | .nul => ['0']
  | .hex ds => ds
  | .unicode ds => ds

/-- A parsed value. -/
inductive Parsed
  | null
  | bool (b : Bool)
  | str (pieces : List Piece)
  | num (text : String)
  | arr (items : List Parsed)
  | obj (pairs : List (List Piece × Parsed))
  deriving Repr, Inhabited

def isLineTerminator (c : Char) : Bool :=
  c = '\n' || c = '\r' || c.toNat = 0x2028 || c.toNat = 0x2029

def isWhite (c : Char) : Bool :=
  let n := c.toNat
  n = 0x09 || n = 0x0B || n = 0x0C || n = 0x20 || n = 0xA0 || n = 0xFEFF || n = 0x1680 ||
    (0x2000 ≤ n && n ≤ 0x200A) || n = 0x202F || n = 0x205F || n = 0x3000 || isLineTerminator c

def isHexDigit (c : Char) : Bool :=
  ('0' ≤ c && c ≤ '9') || ('a' ≤ c && c ≤ 'f') || ('A' ≤ c && c ≤ 'F')

def hexValue (c : Char) : Nat :=
  if '0' ≤ c ∧ c ≤ '9' then c.toNat - '0'.toNat
  else if 'a' ≤ c ∧ c ≤ 'f' then c.toNat - 'a'.toNat + 10 else c.toNat - 'A'.toNat + 10

/-- Whether a character may start an identifier: a letter, a letter number, `$` or `_`. -/
def isIdentifierStart (c : Char) : Bool := Text.isLetter c || c = '$' || c = '_'

/-- Whether a character may continue an identifier without starting one: a nonspacing mark, a
diacritic, a decimal digit, connector punctuation, or a zero-width non-joiner or joiner. -/
def isIdentifierMark (c : Char) : Bool :=
  Text.isNonspacingMark c || Text.isDiacritic c || Text.isDecimalDigit c || Text.isConnector c ||
    c.toNat = 0x200C || c.toNat = 0x200D

section Input

variable (cs : Array Char)

def litAt (i : Nat) (s : List Char) : Bool :=
  (s.zipIdx.all fun (c, k) => cs[i + k]? = some c)

def slice (i j : Nat) : List Char := (cs.extract i j).toList

/-- The end of a comment starting at a place. -/
def commentEnd (i : Nat) : Option Nat :=
  if litAt cs i ['/', '*'] then
    ((List.range (cs.size + 1)).find? fun j => i + 2 ≤ j && litAt cs j ['*', '/']).map (· + 2)
  else if litAt cs i ['/', '/'] then
    some (((List.range (cs.size + 1)).find? fun j => i + 2 ≤ j &&
      (match cs[j]? with
        | some c => isLineTerminator c
        | none => true)).getD cs.size)
  else none

/-- Skip blanks and comments. -/
def skipFrom : Nat → Nat → Nat
  | 0, i => i
  | fuel + 1, i =>
    match cs[i]? with
    | some c =>
      if isWhite c then skipFrom fuel (i + 1)
      else match commentEnd cs i with
        | some j => skipFrom fuel j
        | none => i
    | none => i

def skip (i : Nat) : Nat := skipFrom cs (cs.size + 1) i

def spanEnd (p : Char → Bool) (i : Nat) : Nat :=
  ((List.range (cs.size + 1)).find? fun j => i ≤ j && !(cs[j]?.map p).getD false).getD cs.size

def isAt (p : Char → Bool) (i : Nat) : Bool := (cs[i]?.map p).getD false

/-- The end of a decimal integer literal: `0`, or a nonzero digit and digits. -/
def decimalIntegerEnd (i : Nat) : Option Nat :=
  match cs[i]? with
  | some '0' => some (i + 1)
  | some c => if '1' ≤ c ∧ c ≤ '9' then some (spanEnd cs Number.isDigit (i + 1)) else none
  | none => none

def exponentEnd (i : Nat) : Nat :=
  if isAt cs (fun c => c = 'e' || c = 'E') i then
    let j := if isAt cs (fun c => c = '+' || c = '-') (i + 1) then i + 2 else i + 1
    if isAt cs Number.isDigit j then spanEnd cs Number.isDigit j else i
  else i

/-- The end of a number without its sign. -/
def numericEnd (i : Nat) : Option Nat :=
  if isAt cs (· = '0') i ∧ isAt cs (fun c => c = 'x' || c = 'X') (i + 1) ∧ isAt cs isHexDigit (i + 2) then
    some (spanEnd cs isHexDigit (i + 2))
  else
    match decimalIntegerEnd cs i with
    | some k =>
      if isAt cs (· = '.') k then some (exponentEnd cs (spanEnd cs Number.isDigit (k + 1)))
      else some (exponentEnd cs k)
    | none =>
      if isAt cs (· = '.') i ∧ isAt cs Number.isDigit (i + 1) then
        some (exponentEnd cs (spanEnd cs Number.isDigit (i + 1)))
      else if litAt cs i "Infinity".toList then some (i + 8)
      else if litAt cs i "NaN".toList then some (i + 3)
      else none

def numberEnd (i : Nat) : Option Nat :=
  numericEnd cs (if isAt cs (fun c => c = '+' || c = '-') i then i + 1 else i)

def charLiteral (i : Nat) : Scan (Option (Piece × Nat)) :=
  rule .charLiteral i (pure (match cs[i]? with
    | some c => if c = '\\' || isLineTerminator c then none else some (.char c, i + 1)
    | none => none))

/-- Hexadecimal digits of a fixed count after an escape: two after `\x`, four after `\u`. -/
def hexEscape (r : Rule) (count i : Nat) : Scan (Option (Piece × Nat)) :=
  rule r i (pure (
    let ds := slice cs i (i + count)
    if ds.length = count ∧ ds.all isHexDigit then
      some (if count = 2 then .hex ds else .unicode ds, i + count)
    else none))

/-- The character a one-character escape stands for. -/
def escapedChar (c : Char) : Char :=
  match c with
  | 'b' => '\x08'
  | 'f' => '\x0C'
  | 'n' => '\n'
  | 'r' => '\r'
  | 't' => '\t'
  | 'v' => '\x0B'
  | other => other

/-- An escape after its backslash. -/
def escapeSequence (i : Nat) : Scan (Option (Piece × Nat)) :=
  orElse (rule .charEscapeSequence i (pure (match cs[i]? with
      | some c =>
        let single := "'\"\\bfnrtv".toList.contains c
        let escapeChar := single || Number.isDigit c || c = 'x' || c = 'u'
        if single || !(escapeChar || isLineTerminator c) then some (.escape c, i + 1)
        else none
      | none => none)))
    (orElse (rule .nulEscapeSequence i (pure (if isAt cs (· = '0') i then some (.nul, i + 1) else none)))
      (orElse (if isAt cs (· = 'x') i then hexEscape cs .hexEscapeSequence 2 (i + 1) else pure none)
        (if isAt cs (· = 'u') i then hexEscape cs .unicodeEscapeSequence 4 (i + 1) else pure none)))

def lineEndAt (i : Nat) : Option Nat :=
  if litAt cs i ['\r', '\n'] then some (i + 2)
  else if isAt cs isLineTerminator i then some (i + 1) else none

/-- One character of a string body quoted by `q`: an escape, a continued line, or a plain
character. -/
def quotedChar (q : Char) (i : Nat) : Scan (Option (Option Piece × Nat)) :=
  orElse (if isAt cs (· = '\\') i then do
        match ← escapeSequence cs (i + 1) with
        | some (p, j) => pure (some (some p, j))
        | none => pure none
      else pure none)
    (orElse (pure (if isAt cs (· = '\\') i then (lineEndAt cs (i + 1)).map fun j => (none, j) else none))
      (if isAt cs (· = q) i then pure none
        else do
          match ← charLiteral cs i with
          | some (p, j) => pure (some (some p, j))
          | none => pure none))

/-- The characters of a string body up to the closing quote. -/
def quotedChars (q : Char) : Nat → Nat → List Piece → Scan (List Piece × Nat)
  | 0, i, acc => pure (acc.reverse, i)
  | fuel + 1, i, acc => do
    match ← quotedChar cs q i with
    | some (p, j) => quotedChars q fuel j (match p with
        | some x => x :: acc
        | none => acc)
    | none => pure (acc.reverse, i)

/-- A string in double or single quotes. -/
def stringRule (i : Nat) : Scan (Option (List Piece × Nat)) :=
  rule .string i (match cs[i]? with
    | some q =>
      if q = '"' ∨ q = '\'' then do
        let (ps, j) ← quotedChars cs q (cs.size + 1) (i + 1) []
        pure (if isAt cs (· = q) j then some (ps, j + 1) else none)
      else pure none
    | none => pure none)

def identifierStart (i : Nat) : Scan (Option (Piece × Nat)) :=
  orElse (if isAt cs isIdentifierStart i then charLiteral cs i else pure none)
    (if litAt cs i ['\\', 'u'] then hexEscape cs .unicodeEscapeSequence 4 (i + 2) else pure none)

def identifierPart (i : Nat) : Scan (Option (Piece × Nat)) :=
  orElse (identifierStart cs i)
    (if isAt cs isIdentifierMark i then charLiteral cs i else pure none)

def identifierParts : Nat → Nat → List Piece → Scan (List Piece × Nat)
  | 0, i, acc => pure (acc.reverse, i)
  | fuel + 1, i, acc => do
    match ← identifierPart cs i with
    | some (p, j) => identifierParts fuel j (p :: acc)
    | none => pure (acc.reverse, i)

/-- An unquoted key. -/
def identifierRule (i : Nat) : Scan (Option (List Piece × Nat)) :=
  rule .identifier i (do
    match ← identifierStart cs i with
    | some (p, j) => do
      let (ps, k) ← identifierParts cs (cs.size + 1) j []
      pure (some (p :: ps, k))
    | none => pure none)

mutual
/-- A value. -/
def value : Nat → Nat → Scan (Option (Parsed × Nat))
  | 0, _ => pure none
  | fuel + 1, i =>
    orElse (rule .null i (pure (if litAt cs i "null".toList then some (.null, i + 4) else none)))
      (orElse (rule .boolean i (pure (
          if litAt cs i "true".toList then some (.bool true, i + 4)
          else if litAt cs i "false".toList then some (.bool false, i + 5) else none)))
        (orElse (do
            match ← stringRule cs i with
            | some (ps, j) => pure (some (.str ps, j))
            | none => pure none)
          (orElse (rule .number i (pure ((numberEnd cs i).map fun j =>
              (.num (String.ofList (slice cs i j)), j))))
            (orElse (rule .object i (objectBody fuel i)) (rule .array i (arrayBody fuel i))))))

/-- An object after its name was tried: `{}`, or pairs separated by commas. -/
def objectBody : Nat → Nat → Scan (Option (Parsed × Nat))
  | 0, _ => pure none
  | fuel + 1, i =>
    if !isAt cs (· = '\x7b') i then pure none
    else
      let k := skip cs (i + 1)
      if isAt cs (· = '\x7d') k then pure (some (.obj [], k + 1))
      else do
        match ← pair fuel k with
        | some (p, j) => objectRest fuel j [p]
        | none => pure none

/-- The pairs after the first, then an optional comma and the closing brace. -/
def objectRest : Nat → Nat → List (List Piece × Parsed) → Scan (Option (Parsed × Nat))
  | 0, _, _ => pure none
  | fuel + 1, j, acc => do
    let close : Option (Parsed × Nat) :=
      let k := skip cs j
      let k := if isAt cs (· = ',') k then skip cs (k + 1) else k
      if isAt cs (· = '\x7d') k then some (.obj acc.reverse, k + 1) else none
    let k := skip cs j
    if isAt cs (· = ',') k then do
      match ← pair fuel (skip cs (k + 1)) with
      | some (p, j2) => objectRest fuel j2 (p :: acc)
      | none => pure close
    else pure close

/-- A key, a colon and a value. -/
def pair : Nat → Nat → Scan (Option ((List Piece × Parsed) × Nat))
  | 0, _ => pure none
  | fuel + 1, i => do
    match ← orElse (identifierRule cs i) (stringRule cs i) with
    | none => pure none
    | some (key, j) =>
      let k := skip cs j
      if !isAt cs (· = ':') k then pure none
      else do
        match ← value fuel (skip cs (k + 1)) with
        | some (v, e) => pure (some ((key, v), e))
        | none => pure none

/-- An array after its name was tried: `[]`, or values separated by commas. -/
def arrayBody : Nat → Nat → Scan (Option (Parsed × Nat))
  | 0, _ => pure none
  | fuel + 1, i =>
    if !isAt cs (· = '[') i then pure none
    else
      let k := skip cs (i + 1)
      if isAt cs (· = ']') k then pure (some (.arr [], k + 1))
      else do
        match ← value fuel k with
        | some (v, j) => arrayRest fuel j [v]
        | none => pure none

/-- The values after the first, then an optional comma and the closing bracket. -/
def arrayRest : Nat → Nat → List Parsed → Scan (Option (Parsed × Nat))
  | 0, _, _ => pure none
  | fuel + 1, j, acc => do
    let close : Option (Parsed × Nat) :=
      let k := skip cs j
      let k := if isAt cs (· = ',') k then skip cs (k + 1) else k
      if isAt cs (· = ']') k then some (.arr acc.reverse, k + 1) else none
    let k := skip cs j
    if isAt cs (· = ',') k then do
      match ← value fuel (skip cs (k + 1)) with
      | some (v, j2) => arrayRest fuel j2 (v :: acc)
      | none => pure close
    else pure close
end

/-- A whole text: one value between blanks and comments. -/
def document : Scan (Option Parsed) := do
  match ← value cs (4 * (cs.size + 2)) (skip cs 0) with
  | none => pure none
  | some (v, j) =>
    let k := skip cs j
    let atEnd ← rule .eoi k (pure (if k = cs.size then some () else none))
    pure (atEnd.map fun _ => v)

/-- Line and column (both from 1) of a place, counting from `i` at `line` and `col`; a carriage
return and line feed end one line. -/
def lineCol (pos : Nat) : Nat → Nat → Nat → Nat → Nat × Nat
  | 0, _, line, col => (line, col)
  | fuel + 1, i, line, col =>
    if i ≥ pos then (line, col)
    else match cs[i]? with
      | some '\r' =>
        if isAt cs (· = '\n') (i + 1) then lineCol pos fuel (i + 2) (line + 1) 1
        else lineCol pos fuel (i + 1) line (col + 1)
      | some '\n' => lineCol pos fuel (i + 1) (line + 1) 1
      | _ => lineCol pos fuel (i + 1) line (col + 1)

/-- The text of the line holding a place, its line end shown as a symbol when the place is at
it and dropped otherwise. -/
def lineText (pos : Nat) : String :=
  let start := ((List.range pos).reverse.find? fun j => cs[j]? = some '\n').map (· + 1) |>.getD 0
  let stop := ((List.range (cs.size + 1)).find? fun j => pos ≤ j && cs[j]? = some '\n').map (· + 1)
    |>.getD cs.size
  let line := slice cs start stop
  if isAt cs (fun c => c = '\n' || c = '\r') pos then
    String.ofList (line.map fun c => if c = '\r' then '␍' else if c = '\n' then '␊' else c)
  else String.ofList (line.filter fun c => c ≠ '\r' && c ≠ '\n')

end Input

def sortRules (rs : List Rule) : List Rule :=
  ((List.range 13).filterMap fun k => rs.find? (·.rank = k))

/-- A list of names: `a`, `a or b`, `a, b, or c`. -/
def enumerate : List String → String
  | [] => ""
  | [a] => a
  | [a, b] => a ++ " or " ++ b
  | names => ", ".intercalate names.dropLast ++ ", or " ++ names.getLastD ""

/-- The message of a failed parse: the place shown in its line, and the rules that failed. -/
def failureText (cs : Array Char) (t : Tracker) : String :=
  let (line, col) := lineCol cs t.place (cs.size + 1) 0 1 1
  let text := lineText cs t.place
  let num := toString line
  let pad := String.ofList (List.replicate num.length ' ')
  let under := String.ofList ((text.toList.take (col - 1)).map fun c => if c = '\t' then '\t' else ' ')
  let rules := sortRules t.failed
  let message := if rules.isEmpty then "unknown parsing error"
    else "expected " ++ enumerate (rules.map Rule.name)
  pad ++ "--> " ++ num ++ ":" ++ toString col ++ "\n" ++
    pad ++ " |\n" ++
    num ++ " | " ++ text ++ "\n" ++
    pad ++ " | " ++ under ++ "^---\n" ++
    pad ++ " |\n" ++
    pad ++ " = " ++ message

def parse (text : String) : Except String Parsed :=
  let cs := text.toList.toArray
  match (document cs).run ⟨0, []⟩ with
  | (some v, _) => .ok v
  | (none, t) => .error (failureText cs t)

/-! ## 2. Values -/

/-- A hexadecimal numeral of an unsigned 32-bit number, an optional `+` before its digits. -/
def readHex (ds : List Char) : Except String Nat :=
  let digits := match ds with
    | '+' :: rest => rest
    | _ => ds
  if !digits.isEmpty ∧ digits.all isHexDigit then
    let n := digits.foldl (fun n c => 16 * n + hexValue c) 0
    if n < Nat.pow 2 32 then .ok n else .error "error parsing hex"
  else .error "error parsing hex"

/-- The characters of a string's pieces. A `\u` escape of a leading surrogate takes the piece
after it as the trailing one, whatever kind of piece it is; a trailing surrogate alone is
refused. -/
def piecesChars : List Piece → Except String (List Char)
  | [] => .ok []
  | .char c :: rest => (c :: ·) <$> piecesChars rest
  | .escape c :: rest => (escapedChar c :: ·) <$> piecesChars rest
  | .nul :: rest => ('\x00' :: ·) <$> piecesChars rest
  | .hex ds :: rest => do
    let n ← readHex ds
    let more ← piecesChars rest
    .ok (Char.ofNat n :: more)
  | .unicode ds :: rest => do
    let n ← readHex ds
    if 0xDC00 ≤ n ∧ n ≤ 0xDFFF then .error "unexpected unicode trail surrogate"
    else if 0xD800 ≤ n ∧ n ≤ 0xDBFF then
      match rest with
      | [] => .error "missing unicode trail surrogate"
      | p :: rest' => do
        let m ← readHex p.text
        if m < 0xDC00 ∨ 0xDFFF < m then .error "expecting unicode trail surrogate"
        else
          let more ← piecesChars rest'
          .ok (Char.ofNat (((n - 0xD800) * 0x400 + (m - 0xDC00)) + 0x10000) :: more)
    else
      let more ← piecesChars rest
      .ok (Char.ofNat n :: more)

def piecesText (ps : List Piece) : Except String String :=
  String.ofList <$> piecesChars ps

/-- The scalar a number's text stands for. A number without a point or an exponent, other than
`Infinity`, `-Infinity`, `NaN` and `-NaN`, is an integer: after `0x` an unsigned 32-bit
hexadecimal numeral, else a signed 64-bit decimal one. Any other number is a float, which must
be finite unless it is spelled `Infinity`. -/
def numberScalar (s : String) : Except String Scalar :=
  let cs := s.toList
  let hex := cs.length > 2 ∧ (cs.take 2 = ['0', 'x'] ∨ cs.take 2 = ['0', 'X'])
  let infinite := s = "Infinity" ∨ s = "-Infinity"
  let nan := s = "NaN" ∨ s = "-NaN"
  let isInt := !cs.contains '.' ∧ (hex ∨ (!cs.contains 'e' ∧ !cs.contains 'E')) ∧ !infinite ∧ !nan
  if isInt then
    if hex then (readHex (cs.drop 2)).map fun n => .int n
    else match readSigned i64Min i64Max s with
      | some i => .ok (.int i)
      | none => .error "error parsing integer"
  else if s = "Infinity" then .ok (.float infinityBits)
  else if s = "-Infinity" then .ok (.float (infinityBits + 0x8000000000000000))
  else if nan then .ok (.float nanBits)
  else match readFloat s with
    | some bits =>
      if bits.toNat % Nat.pow 2 63 ≥ infinityBits.toNat then .error "error parsing number: too large"
      else .ok (.float bits)
    | none => .error "error parsing number"

mutual
/-- The settings tree of a parsed value, every node with the file's origin. -/
def Parsed.toItem (o : String) : Parsed → Except String Item
  | .null => .ok (.leaf (some o) .nil)
  | .bool b => .ok (.leaf (some o) (.bool b))
  | .str ps => do
    let s ← piecesText ps
    .ok (.leaf (some o) (.text s))
  | .num s => do
    let v ← numberScalar s
    .ok (.leaf (some o) v)
  | .arr xs => do
    let items ← Parsed.itemsOf o xs
    .ok (.list (some o) items)
  | .obj ps => do
    let members ← Parsed.membersOf o ps []
    .ok (.table (some o) members)

def Parsed.itemsOf (o : String) : List Parsed → Except String (List Item)
  | [] => .ok []
  | x :: rest => do
    let i ← Parsed.toItem o x
    let is ← Parsed.itemsOf o rest
    .ok (i :: is)

/-- The members of an object's pairs, added to `acc` in order, a repeated key replacing. -/
def Parsed.membersOf (o : String) : List (List Piece × Parsed) → List (String × Item) →
    Except String (List (String × Item))
  | [], acc => .ok acc
  | (k, v) :: rest, acc => do
    let key ← piecesText k
    let item ← Parsed.toItem o v
    Parsed.membersOf o rest (upsert acc key item)
end

end Safekeep.Config.Json5

namespace Safekeep.Config

/-- The top-level settings of a JSON5 settings file's text; `origin` names the file. The
document must be an object. -/
def readJson5File (origin text : String) : Except String (List (String × Item)) := do
  let v ← Json5.parse text
  let item ← v.toItem origin
  match item with
  | .table _ es => .ok es
  | other => .error (DecodeError.mismatch other.found "a map" none (some origin)).text

end Safekeep.Config
