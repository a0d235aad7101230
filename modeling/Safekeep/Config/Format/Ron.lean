import Safekeep.Config.Decode
import Safekeep.Number.Decimal
import Safekeep.Number.Nearest
import Safekeep.Text.Quoted

/-!
# RON settings files

RON writes structures as `(field: value, …)`, tuples as `(a, b)`, lists
as `[…]`, maps as `{key: value, …}`, options as `Some(…)` and `None`, the unit as `()`, strings
in double quotes (or raw, `r"…"`, `r#"…"#`), characters in single quotes, and numbers in decimal,
hexadecimal (`0x`), octal (`0o`) or binary (`0b`), with `_` between digits.

## 1. Reading

The text is read byte by byte; line and column (both from 1, the column counting bytes) name
the place of a failure. Blanks, `//` comments and nested `/* … */` comments may stand between
tokens. A value is recognised by its first bytes: the words `true`, `false`, `Some`, `None`,
`inf`, `-inf`, `NaN`, the unit `()`, a name (which introduces a structure or tuple when `(`
follows, and is a unit otherwise), `(`, `[`, `{`, a digit or sign, `.`, a quote or `r`.
Elements are separated by commas, a trailing comma allowed. Nothing but blanks and comments may
follow the value.

A number is a float when its run of float characters (`0-9 . + - e E`) is longer than its run of
digit characters (`0-9 a-f A-F _`). Otherwise it is an integer, signed after a sign and unsigned
without; one that does not read as an integer is read again as a float. The column keeps counting
the bytes the integer went over, so a later failure is placed that much further on. An unsigned
integer beyond the signed 64-bit range becomes a float.

## 2. Settings

Options stand for their content (nothing for `None`), the unit for nothing, characters for
texts. Map keys must be texts or characters. A document that is not a map or a structure has no
settings.
-/

namespace Safekeep.Config.Ron

open Safekeep.Number

/-! ## 1. Reading -/

/-- Why a text does not read. -/
inductive Code
  | eof
  | expectedArrayEnd
  | expectedComma
  | expectedChar
  | expectedFloat
  | expectedInteger
  | expectedOption
  | expectedOptionEnd
  | expectedMapColon
  | expectedMapEnd
  | expectedStructEnd
  | expectedString
  | expectedStringEnd
  | expectedIdentifier
  | invalidEscape (why : String)
  | integerOutOfBounds
  | unclosedBlockComment
  | underscoreAtBeginning
  | unexpectedByte (c : Char)
  | trailingCharacters
  | utf8
  deriving DecidableEq, Repr

/-- The message of a reading failure. -/
def Code.text : Code → String
  | .eof => "Unexpected end of RON"
  | .expectedArrayEnd => "Expected closing `]`"
  | .expectedComma => "Expected comma"
  | .expectedChar => "Expected char"
  | .expectedFloat => "Expected float"
  | .expectedInteger => "Expected integer"
  | .expectedOption => "Expected option"
  | .expectedOptionEnd => "Expected closing `)`"
  | .expectedMapColon => "Expected colon"
  | .expectedMapEnd => "Expected closing `\x7d`"
  | .expectedStructEnd => "Expected closing `)`"
  | .expectedString => "Expected string"
  | .expectedStringEnd => "Expected end of string"
  | .expectedIdentifier => "Expected identifier"
  | .invalidEscape why => "Invalid escape sequence '" ++ why ++ "'"
  | .integerOutOfBounds => "Integer is out of bounds"
  | .unclosedBlockComment => "Unclosed block comment"
  | .underscoreAtBeginning => "Unexpected leading underscore in an integer"
  | .unexpectedByte c => "Unexpected byte " ++ Text.quoteSingle c
  | .trailingCharacters => "Non-whitespace trailing characters"
  | .utf8 => "invalid utf-8 sequence"

/-- A reading failure at a line and column. -/
structure RonError where
  line : Nat
  col : Nat
  code : Code
  deriving DecidableEq, Repr

/-- The text of a reading failure: the place, then the message. -/
def RonError.text (e : RonError) : String :=
  toString e.line ++ ":" ++ toString e.col ++ ": " ++ e.code.text

/-- A RON value. -/
inductive Value
  | bool (b : Bool)
  | char (c : Char)
  | map (entries : List (Value × Value))
  | int (i : Int)
  -- A float, by its bits.
  | float (bits : UInt64)
  | option (v : Option Value)
  | str (s : String)
  | seq (items : List Value)
  | unit
  deriving Repr, Inhabited

/-- The reader's state: the bytes, the place and its line and column. -/
structure Cur where
  bytes : Array UInt8
  pos : Nat
  line : Nat
  col : Nat

abbrev RonM := StateT Cur (Except RonError)

def fail {α : Type} (c : Code) : RonM α := do
  let s ← get
  throw ⟨s.line, s.col, c⟩

def peekAt (k : Nat) : RonM (Option UInt8) := do
  let s ← get
  pure s.bytes[s.pos + k]?

/-- The current byte; the end of the text is a failure. -/
def peekOrEof : RonM UInt8 := do
  match ← peekAt 0 with
  | some b => pure b
  | none => fail .eof

def advanceOne : RonM Unit := modify fun s =>
  match s.bytes[s.pos]? with
  | some b => if b = 10 then { s with pos := s.pos + 1, line := s.line + 1, col := 1 }
    else { s with pos := s.pos + 1, col := s.col + 1 }
  | none => s

def advance : Nat → RonM Unit
  | 0 => pure ()
  | n + 1 => do
    advanceOne
    advance n

def testFor (t : String) : RonM Bool := do
  let s ← get
  pure (t.toUTF8.toList.zipIdx.all fun (b, k) => s.bytes[s.pos + k]? = some b)

/-- Move past some text when it comes next. -/
def consume (t : String) : RonM Bool := do
  if ← testFor t then
    advance t.utf8ByteSize
    pure true
  else pure false

def isIdentChar (b : UInt8) : Bool :=
  (48 ≤ b && b ≤ 57) || (65 ≤ b && b ≤ 90) || (97 ≤ b && b ≤ 122) || b = 95

def isIdentFirst (b : UInt8) : Bool := (65 ≤ b && b ≤ 90) || (97 ≤ b && b ≤ 122) || b = 95

def identCharAt (k : Nat) : RonM Bool := do
  pure ((← peekAt k).map isIdentChar |>.getD false)

def checkIdent (t : String) : RonM Bool := do
  pure ((← testFor t) && !(← identCharAt t.utf8ByteSize))

/-- Move past a word when it comes next, not followed by a name character. -/
def consumeIdent (t : String) : RonM Bool := do
  if ← checkIdent t then
    advance t.utf8ByteSize
    pure true
  else pure false

def runLength (p : UInt8 → Bool) (k : Nat) : RonM Nat := do
  let s ← get
  let rest := (s.bytes.extract (s.pos + k) s.bytes.size).toList
  pure (rest.takeWhile p).length

/-- Skip a comment after its `/`, at most `fuel` bytes of it. -/
def skipCommentBody : Nat → Nat → RonM Unit
  | 0, _ => pure ()
  | _, 0 => pure ()
  | fuel + 1, level + 1 => do
    let n ← runLength (fun b => b ≠ 47 && b ≠ 42) 0
    if (← peekAt 0).isNone then fail .unclosedBlockComment
    advance n
    if ← consume "/*" then skipCommentBody fuel (level + 2)
    else if ← consume "*/" then skipCommentBody fuel level
    else do
      match ← peekAt 0 with
      | some _ => do
        advanceOne
        skipCommentBody fuel (level + 1)
      | none => fail .unclosedBlockComment

/-- Skip blanks and comments, at most `fuel` of them. -/
def skipWsFrom : Nat → RonM Unit
  | 0 => pure ()
  | fuel + 1 => do
    let n ← runLength (fun b => b = 32 || b = 9 || b = 10 || b = 13) 0
    advance n
    if ← consume "/" then do
      let b ← peekOrEof
      advanceOne
      if b = 47 then do
        let m ← runLength (· ≠ 10) 0
        advance m
      else if b = 42 then skipCommentBody ((← get).bytes.size + 1) 1
      else fail (.unexpectedByte (Char.ofNat b.toNat))
      skipWsFrom fuel
    else pure ()

def skipWs : RonM Unit := do skipWsFrom ((← get).bytes.size + 1)

/-- Move past a comma and the blanks around it; whether there was one. -/
def comma : RonM Bool := do
  skipWs
  if ← consume "," then do
    skipWs
    pure true
  else pure false

/-- A name. -/
def identifier : RonM String := do
  let b ← peekOrEof
  if !isIdentFirst b then fail .expectedIdentifier
  if b = 114 then do
    let second ← peekAt 1
    if second.isNone then fail .eof
    if second = some 34 || second = some 35 then fail .expectedIdentifier
  let n ← runLength isIdentChar 0
  let s ← get
  let name := String.fromUTF8? (ByteArray.mk (s.bytes.extract s.pos (s.pos + n))) |>.getD ""
  advance n
  pure name

/-- A name when one comes next; the state is unchanged otherwise. -/
def identifier? : RonM (Option String) := do
  let s ← get
  match identifier.run s with
  | .ok (name, s') => do
    set s'
    pure (some name)
  | .error _ => pure none

def hexDigit (b : UInt8) : RonM Nat :=
  if 48 ≤ b ∧ b ≤ 57 then pure (b.toNat - 48)
  else if 97 ≤ b ∧ b ≤ 102 then pure (b.toNat - 87)
  else if 65 ≤ b ∧ b ≤ 70 then pure (b.toNat - 55)
  else fail (.invalidEscape "Non-hex digit found")

def eatByte : RonM UInt8 := do
  let b ← peekOrEof
  advanceOne
  pure b

/-- Up to six hexadecimal digits before `}`, as a number. -/
def unicodeDigits : Nat → Nat → Nat → RonM (Nat × Nat)
  | 0, n, count => pure (n, count)
  | k + 1, n, count => do
    let b ← peekOrEof
    if b = 125 then pure (n, count)
    else do
      advanceOne
      let d ← hexDigit b
      unicodeDigits k (16 * n + d) (count + 1)

/-- An escape after its backslash. -/
def escape : RonM Char := do
  let b ← eatByte
  if b = 39 then pure '\''
  else if b = 34 then pure '"'
  else if b = 92 then pure '\\'
  else if b = 110 then pure '\n'
  else if b = 114 then pure '\r'
  else if b = 116 then pure '\t'
  else if b = 48 then pure '\x00'
  else if b = 120 then do
    let h ← hexDigit (← eatByte)
    let l ← hexDigit (← eatByte)
    pure (Char.ofNat (16 * h + l))
  else if b = 117 then do
    if (← peekOrEof) ≠ 123 then fail (.invalidEscape "Missing \x7b")
    advanceOne
    let (n, count) ← unicodeDigits 6 0 0
    if count = 0 then fail (.invalidEscape "Expected 1-6 digits, got 0 digits")
    if (← peekOrEof) ≠ 125 then fail (.invalidEscape "No \x7d at the end")
    advanceOne
    if n < 0xD800 ∨ (0xE000 ≤ n ∧ n < 0x110000) then pure (Char.ofNat n)
    else fail (.invalidEscape "Not a valid char")
  else fail (.invalidEscape "Unknown escape character")

def textOf (bs : List UInt8) : RonM String :=
  match String.fromUTF8? (ByteArray.mk bs.toArray) with
  | some s => pure s
  | none => fail .utf8

/-- The rest of a quoted string after its opening quote, `acc` holding what was read. -/
def quotedRest : Nat → List UInt8 → RonM String
  | 0, _ => fail .eof
  | fuel + 1, acc => do
    let n ← runLength (fun b => b ≠ 92 && b ≠ 34) 0
    match ← peekAt n with
    | none => fail .expectedStringEnd
    | some b => do
      let s ← get
      let chunk := (s.bytes.extract s.pos (s.pos + n)).toList
      advance (n + 1)
      if b = 34 then textOf (acc ++ chunk)
      else do
        let c ← escape
        quotedRest fuel (acc ++ chunk ++ c.toString.toUTF8.toList)

/-- A raw string after its `r`. -/
def rawString : RonM String := do
  let hashes ← runLength (· = 35) 0
  advance hashes
  if !(← consume "\"") then fail .expectedString
  let s ← get
  let rest := (s.bytes.extract s.pos s.bytes.size).toList
  let ending : List UInt8 := 34 :: List.replicate hashes 35
  let at? := (List.range (rest.length + 1)).find? fun i => (rest.drop i).take (hashes + 1) = ending
  match at? with
  | none => fail .expectedStringEnd
  | some i => do
    let t ← textOf (rest.take i)
    advance (i + hashes + 1)
    pure t

def string : RonM String := do
  if ← consume "\"" then quotedRest ((← get).bytes.size + 1) []
  else if ← consume "r" then rawString
  else fail .expectedString

/-- A character in single quotes. -/
def character : RonM Char := do
  if !(← consume "'") then fail .expectedChar
  let b ← peekOrEof
  let c ← if b = 92 then do
      advanceOne
      escape
    else do
      let s ← get
      let window := (s.bytes.extract s.pos (s.pos + 5)).toList
      match window.idxOf? 39 with
      | none => fail .expectedChar
      | some i =>
        let t ← textOf (window.take i)
        match t.toList with
        | [c] => do
          advance i
          pure c
        | _ => fail .expectedChar
  if !(← consume "'") then fail .expectedChar
  pure c

def isFloatChar (b : UInt8) : Bool := (48 ≤ b && b ≤ 57) || b = 46 || b = 43 || b = 45 || b = 101 || b = 69

def isDigitChar (b : UInt8) : Bool :=
  (48 ≤ b && b ≤ 57) || (97 ≤ b && b ≤ 102) || (65 ≤ b && b ≤ 70) || b = 95

/-- A float. -/
def float : RonM UInt64 := do
  for (word, bits) in [("inf", infinityBits), ("+inf", infinityBits),
      ("-inf", infinityBits + 0x8000000000000000), ("NaN", nanBits), ("+NaN", nanBits), ("-NaN", nanBits)] do
    if ← consumeIdent word then return bits
  let n ← runLength isFloatChar 0
  let s ← get
  let t ← textOf (s.bytes.extract s.pos (s.pos + n)).toList
  match readFloat t with
  | some bits => do
    advance n
    pure bits
  | none => fail .expectedFloat

/-- The value of an integer's digit bytes in a radix, underscores skipped; none when a digit is
out of the radix or the value leaves `lo … hi`. -/
def digitsValue (radix : Nat) (negative : Bool) (lo hi : Int) : List UInt8 → Int → Option Int
  | [], acc => some acc
  | b :: rest, acc =>
    if b = 95 then digitsValue radix negative lo hi rest acc
    else
      let d := if 48 ≤ b ∧ b ≤ 57 then b.toNat - 48 else if 97 ≤ b ∧ b ≤ 102 then b.toNat - 87
        else b.toNat - 55
      let next := radix * acc + (if negative then -(d : Int) else d)
      if d ≥ radix ∨ next < lo ∨ hi < next then none
      else digitsValue radix negative lo hi rest next

/-- Read an integer within `lo … hi` after its sign, in the radix its prefix names: its value, or
the reason it is not one. The reader moves past the prefix, and past the digits whenever there
are some and the first is not `_`, even when they do not make a value. -/
def integer (negative : Bool) (lo hi : Int) : RonM (Except Code Int) := do
  let radix ← if (← peekAt 0) = some 48 then do
      match ← peekAt 1 with
      | some 120 => pure 16
      | some 98 => pure 2
      | some 111 => pure 8
      | _ => pure 10
    else pure 10
  if radix ≠ 10 then advance 2
  let n ← runLength isDigitChar 0
  if n = 0 then return .error .expectedInteger
  let s ← get
  let ds := (s.bytes.extract s.pos (s.pos + n)).toList
  if ds.head? = some 95 then return .error .underscoreAtBeginning
  advance n
  pure (match digitsValue radix negative lo hi ds 0 with
    | some v => .ok v
    | none => .error .expectedInteger)

/-- A number. It is a float when its float characters run further than its integer characters;
otherwise it is read as an integer (signed 64-bit after a sign, unsigned 64-bit without), and
when that fails it is read again from its start as a float, the line and column staying where
the integer left them. An unsigned integer beyond the signed range becomes the nearest float. -/
def number : RonM Value := do
  let first ← peekOrEof
  let signed := first = 45 || first = 43
  let skip := if signed then 1 else 0
  let flen ← runLength isFloatChar skip
  let ilen ← runLength isDigitChar skip
  if flen > ilen then return .float (← float)
  let start := (← get).pos
  let attempt ← if signed then do
      advanceOne
      integer (first = 45) i64Min i64Max
    else integer false 0 u64Max
  match attempt with
  | .ok i =>
    if i > i64Max then pure (.float ((readFloat (toString i)).getD 0))
    else pure (.int i)
  | .error _ => do
    modify fun s => { s with pos := start }
    pure (.float (← float))

mutual
/-- A value. -/
def value : Nat → RonM Value
  | 0 => fail .eof
  | fuel + 1 => do
    if ← consumeIdent "true" then return .bool true
    if ← consumeIdent "false" then return .bool false
    if ← checkIdent "Some" then return (← option fuel)
    if ← consumeIdent "None" then return .option none
    if ← consume "()" then return .unit
    if ← consumeIdent "inf" then return .float infinityBits
    if ← consumeIdent "-inf" then return .float (infinityBits + 0x8000000000000000)
    if ← consumeIdent "NaN" then return .float nanBits
    if (← identifier?).isSome then do
      skipWs
      return (← anyStruct fuel)
    let b ← peekOrEof
    if b = 40 then anyStruct fuel
    else if b = 91 then do
      advanceOne
      let xs ← elements fuel 93 true []
      let _ ← comma
      if ← consume "]" then pure (.seq xs) else fail .expectedArrayEnd
    else if b = 123 then do
      advanceOne
      let es ← entries fuel 125 false true []
      let _ ← comma
      if ← consume "\x7d" then pure (.map es) else fail .expectedMapEnd
    else if (48 ≤ b ∧ b ≤ 57) ∨ b = 43 ∨ b = 45 then number
    else if b = 46 then pure (.float (← float))
    else if b = 34 ∨ b = 114 then pure (.str (← string))
    else if b = 39 then pure (.char (← character))
    else fail (.unexpectedByte (Char.ofNat b.toNat))

/-- `Some(…)`. -/
def option : Nat → RonM Value
  | 0 => fail .eof
  | fuel + 1 => do
    let _ ← consume "Some"
    skipWs
    if !(← consume "(") then fail .expectedOption
    skipWs
    let v ← value fuel
    skipWs
    if ← consume ")" then pure (.option (some v)) else fail .expectedOptionEnd

/-- A structure or tuple after its name, or a unit when no `(` follows. -/
def anyStruct : Nat → RonM Value
  | 0 => fail .eof
  | fuel + 1 => do
    let saved ← get
    if !(← consume "(") then return .unit
    skipWs
    let tuple ← do
      match ← identifier? with
      | none => pure true
      | some _ => do
        skipWs
        pure ((← peekOrEof) ≠ 58)
    set saved
    let _ ← consume "("
    if tuple then do
      let xs ← elements fuel 41 true []
      let _ ← comma
      if ← consume ")" then pure (.seq xs) else fail .expectedArrayEnd
    else do
      let es ← entries fuel 41 true true []
      let _ ← comma
      if ← consume ")" then pure (.map es) else fail .expectedStructEnd

def hasElement (close : UInt8) (hadComma : Bool) : RonM Bool := do
  skipWs
  let more := (← peekOrEof) ≠ close
  if hadComma then pure more
  else if more then fail .expectedComma
  else pure false

/-- The elements of a list or tuple up to the closing byte. -/
def elements : Nat → UInt8 → Bool → List Value → RonM (List Value)
  | 0, _, _, _ => fail .eof
  | fuel + 1, close, hadComma, acc => do
    if ← hasElement close hadComma then do
      let v ← value fuel
      let c ← comma
      elements fuel close c (v :: acc)
    else pure acc.reverse

/-- The entries of a map or structure up to the closing byte; a structure's keys are names. -/
def entries : Nat → UInt8 → Bool → Bool → List (Value × Value) → RonM (List (Value × Value))
  | 0, _, _, _, _ => fail .eof
  | fuel + 1, close, named, hadComma, acc => do
    if ← hasElement close hadComma then do
      let k ← if named then pure (Value.str (← identifier)) else value fuel
      skipWs
      if !(← consume ":") then fail .expectedMapColon
      skipWs
      let v ← value fuel
      let c ← comma
      entries fuel close named c ((k, v) :: acc)
    else pure acc.reverse
end

/-- A whole text: one value, then only blanks and comments. -/
def document : RonM Value := do
  skipWs
  let v ← value (4 * ((← get).bytes.size + 2))
  skipWs
  if (← peekAt 0).isSome then fail .trailingCharacters
  pure v

def parse (text : String) : Except RonError Value :=
  (document.run' ⟨text.toUTF8.data, 0, 1, 1⟩)

/-! ## 2. Settings -/

/-- What a map key that is not a text was, for the message refusing it. -/
def Value.found : Value → String
  | .bool b => Found.plainName (.bool b)
  | .int i => Found.plainName (.int i)
  | .float f => Found.plainName (.float f)
  | .option _ => "Option value"
  | .unit => "unit value"
  | .seq _ => "sequence"
  | .map _ => "map"
  | .char c => "character " ++ Text.quoteSingle c
  | .str s => Found.plainName (.text s)

mutual
/-- The settings tree of a value, every node with the file's origin. -/
def Value.toItem (o : String) : Value → Except String Item
  | .option (some v) => v.toItem o
  | .option none => .ok (.leaf (some o) .nil)
  | .unit => .ok (.leaf (some o) .nil)
  | .bool b => .ok (.leaf (some o) (.bool b))
  | .int i => .ok (.leaf (some o) (.int i))
  | .float f => .ok (.leaf (some o) (.float f))
  | .char c => .ok (.leaf (some o) (.text c.toString))
  | .str s => .ok (.leaf (some o) (.text s))
  | .seq xs => do
    let items ← Value.itemsOf o xs
    .ok (.list (some o) items)
  | .map es => do
    let members ← Value.membersOf o es []
    .ok (.table (some o) members)

def Value.itemsOf (o : String) : List Value → Except String (List Item)
  | [] => .ok []
  | x :: rest => do
    let i ← x.toItem o
    let is ← Value.itemsOf o rest
    .ok (i :: is)

/-- The members of a map's entries, added to `acc` in order, a repeated key replacing. -/
def Value.membersOf (o : String) : List (Value × Value) → List (String × Item) →
    Except String (List (String × Item))
  | [], acc => .ok acc
  | (k, v) :: rest, acc => do
    let key ← match k with
      | .str s => .ok s
      | .char c => .ok c.toString
      | other => .error ("invalid type: " ++ other.found ++ ", expected a string")
    let item ← v.toItem o
    Value.membersOf o rest (upsert acc key item)
end

end Safekeep.Config.Ron

namespace Safekeep.Config

/-- The top-level settings of a RON settings file's text; `origin` names the file. -/
def readRonFile (origin text : String) : Except String (List (String × Item)) := do
  let v ← (Ron.parse text).mapError Ron.RonError.text
  let item ← v.toItem origin
  .ok item.members

end Safekeep.Config
