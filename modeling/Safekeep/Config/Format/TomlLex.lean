/-!
# TOML tokens

The first stage of reading TOML: the text is cut into tokens one at a time, each read from a
position of the text.

## 1. The text

A text is read as its characters with their byte offsets; a carriage return just before a line
feed is folded into the line feed. A leading byte order mark is skipped. Every failure is placed
at a byte offset and shown with the line and byte column it falls in.

## 2. Tokens

Blanks (spaces and tabs), a line feed, a comment (`#` up to the first control character other
than a tab), the punctuation `= . , : + { } [ ]`, a bare word (ASCII letters, digits, `-`, `_`),
and strings:

* a literal string `'…'` takes every character but control characters (a tab is fine) and DEL;
* a basic string `"…"` takes the same and the escapes `\b \t \n \f \r \" \\`, `\uXXXX` and
  `\UXXXXXXXX` (a Unicode scalar value);
* a multi-line string (three quotes) may hold line feeds, the first one dropped when it comes
  right after the opening quotes, and may end with up to two more quotes before the closing
  three; in a multi-line basic string a backslash at the end of a line skips the line feed and
  all blanks and line feeds after it.

Any other character is unexpected.
-/

namespace Safekeep.Config.Toml

/-! ## 1. The text -/

def indexed : List Char → Nat → List (Nat × Char)
  | [], _ => []
  | '\r' :: '\n' :: rest, off => (off, '\n') :: indexed rest (off + 2)
  | c :: rest, off => (off, c) :: indexed rest (off + c.utf8Size)

/-- A TOML text: its characters with byte offsets, its byte length and the text itself. -/
structure Src where
  chars : Array (Nat × Char)
  size : Nat
  text : String

def Src.ofString (s : String) : Src :=
  let cs := indexed s.toList 0
  let cs := match cs with
    | (_, c) :: rest => if c.toNat = 0xfeff then rest else cs
    | _ => cs
  ⟨cs.toArray, s.utf8ByteSize, s⟩

/-- Why a TOML text does not read. -/
inductive Fault
  | unexpectedEof
  | invalidCharInString (c : Char)
  | invalidEscape (c : Char)
  | invalidHexEscape (c : Char)
  | invalidEscapeValue (v : Nat)
  | newlineInString
  | unexpected (c : Char)
  | unterminatedString
  | numberInvalid
  | dateInvalid
  | duplicateTable (name : String)
  | redefineAsArray
  | multilineStringKey
  | dottedKeyInvalidType
  | unquotedString
  | wanted (expected found : String)
  | custom (text : String)
  deriving DecidableEq, Repr

/-- A character as an escaped literal shows it: named escapes for tab, return, line feed,
quotes and backslash, printable ASCII as it is, anything else as `\u{hex}`. -/
def escapeDefault (c : Char) : String :=
  if c = '\t' then "\\t"
  else if c = '\r' then "\\r"
  else if c = '\n' then "\\n"
  else if c = '\'' then "\\'"
  else if c = '"' then "\\\""
  else if c = '\\' then "\\\\"
  else if 0x20 ≤ c.toNat ∧ c.toNat ≤ 0x7e then c.toString
  else "\\u\x7b" ++ String.ofList (Nat.toDigits 16 c.toNat) ++ "\x7d"

/-- The message of a fault. -/
def Fault.message : Fault → String
  | .unexpectedEof => "unexpected eof encountered"
  | .invalidCharInString c => "invalid character in string: `" ++ escapeDefault c ++ "`"
  | .invalidEscape c => "invalid escape character in string: `" ++ escapeDefault c ++ "`"
  | .invalidHexEscape c => "invalid hex escape character in string: `" ++ escapeDefault c ++ "`"
  | .invalidEscapeValue v => "invalid escape value: `" ++ toString v ++ "`"
  | .newlineInString => "newline in string found"
  | .unexpected c => "unexpected character found: `" ++ escapeDefault c ++ "`"
  | .unterminatedString => "unterminated string"
  | .numberInvalid => "invalid number"
  | .dateInvalid => "invalid date"
  | .duplicateTable name => "redefinition of table `" ++ name ++ "`"
  | .redefineAsArray => "table redefined as array"
  | .multilineStringKey => "multiline strings are not allowed for key"
  | .dottedKeyInvalidType => "dotted key attempted to extend non-table type"
  | .unquotedString => "invalid TOML value, did you mean to use a quoted string?"
  | .wanted e f => "expected " ++ e ++ ", found " ++ f
  | .custom t => t

/-- A fault, the byte offset it is placed at (if known) and the keys it was found under. -/
structure Failure where
  fault : Fault
  offset : Option Nat
  keys : List String
  deriving DecidableEq, Repr

def failAt (f : Fault) (o : Nat) : Failure := ⟨f, some o, []⟩

/-- Line and byte column (both from 0) of a byte offset: lines end at line feeds, and an offset
past the last line is the start of the line after it. -/
def lineCol (text : String) (offset : Nat) : Nat × Nat :=
  let pieces := text.splitOn "\n"
  let lines := if pieces.getLast? = some "" then pieces.dropLast else pieces
  let rec go : List String → Nat → Nat → Nat × Nat
    | [], i, _ => (i, 0)
    | l :: rest, i, cur =>
      if cur + l.utf8ByteSize + 1 > offset then (i, offset - cur) else go rest (i + 1) (cur + l.utf8ByteSize + 1)
  go lines 0 0

/-- The message of a failure: the fault, the keys it was found under, and its place. -/
def Failure.text (f : Failure) (source : String) : String :=
  let keys := if f.keys.isEmpty then "" else " for key `" ++ ".".intercalate f.keys ++ "`"
  let place := match f.offset with
    | some o =>
      let (l, c) := lineCol source o
      " at line " ++ toString (l + 1) ++ " column " ++ toString (c + 1)
    | none => ""
  f.fault.message ++ keys ++ place

/-! ## 2. Tokens -/

/-- A TOML token. -/
inductive Token
  | blank (s : String)
  | newline
  | comment
  | equals
  | period
  | comma
  | colon
  | plus
  | leftBrace
  | rightBrace
  | leftBracket
  | rightBracket
  -- A bare word.
  | word (s : String)
  | str (val : String) (multiline : Bool)
  deriving DecidableEq, Repr

/-- How an error message names a token. -/
def Token.describe : Token → String
  | .word _ => "an identifier"
  | .equals => "an equals"
  | .period => "a period"
  | .comment => "a comment"
  | .newline => "a newline"
  | .blank _ => "whitespace"
  | .comma => "a comma"
  | .rightBrace => "a right brace"
  | .leftBrace => "a left brace"
  | .rightBracket => "a right bracket"
  | .leftBracket => "a left bracket"
  | .str _ multiline => if multiline then "a multiline string" else "a string"
  | .colon => "a colon"
  | .plus => "a plus"

/-- A token, the byte offset it starts at, and the position after it. -/
structure Lexeme where
  start : Nat
  token : Token
  next : Nat

def isWordChar (c : Char) : Bool :=
  ('A' ≤ c && c ≤ 'Z') || ('a' ≤ c && c ≤ 'z') || ('0' ≤ c && c ≤ '9') || c = '-' || c = '_'

def isStringChar (c : Char) : Bool := c = '\t' || (0x20 ≤ c.toNat && c.toNat ≠ 0x7f)

namespace Src

def charAt? (t : Src) (i : Nat) : Option Char := (t.chars[i]?).map (·.2)

/-- The byte offset of a position: that of its character, or the text's length past the end. -/
def offset (t : Src) (i : Nat) : Nat :=
  match t.chars[i]? with
  | some (o, _) => o
  | none => t.size

def skipWhile (t : Src) (p : Char → Bool) (i : Nat) : Nat :=
  if h : i < t.chars.size then
    if p t.chars[i].2 then t.skipWhile p (i + 1) else i
  else i
  termination_by t.chars.size - i

def skipBlanks (t : Src) (i : Nat) : Nat := t.skipWhile (fun c => c = ' ' || c = '\t') i

def slice (t : Src) (i j : Nat) : String :=
  String.ofList (((t.chars.toList.drop i).take (j - i)).map (·.2))

/-- The value of the hexadecimal digits of an escape, `len` of them from `i`. -/
def hexDigits (t : Src) (start : Nat) : Nat → Nat → Nat → Except Failure (Nat × Nat)
  | 0, i, v => .ok (v, i)
  | len + 1, i, v =>
    match t.chars[i]? with
    | none => .error (failAt .unterminatedString start)
    | some (o, c) =>
      if c.toNat ≤ 0x7f ∧ (c.isDigit ∨ ('a' ≤ c ∧ c ≤ 'f') ∨ ('A' ≤ c ∧ c ≤ 'F')) then
        let d := if c.isDigit then c.toNat - '0'.toNat
          else if 'a' ≤ c ∧ c ≤ 'f' then c.toNat - 'a'.toNat + 10 else c.toNat - 'A'.toNat + 10
        t.hexDigits start len (i + 1) (16 * v + d)
      else .error (failAt (.invalidHexEscape c) o)

def isScalar (v : Nat) : Bool := v < 0xd800 || (0xdfff < v && v ≤ 0x10ffff)

/-- Read a string's body from `i` up to and past its closing quotes: `start` is the offset of the
opening quote; `first` holds on the first character. -/
def stringBody (t : Src) (delim : Char) (basic multiline : Bool) (start : Nat) :
    Nat → Bool → Nat → List Char → Except Failure (Nat × String)
  | 0, _, _, _ => .error (failAt .unterminatedString start)
  | fuel + 1, first, i, acc =>
    match t.chars[i]? with
    | none => .error (failAt .unterminatedString start)
    | some (o, c) =>
      if c = '\n' then
        if multiline then t.stringBody delim basic multiline start fuel false (i + 1) (if first then acc else '\n' :: acc)
        else .error (failAt .newlineInString o)
      else if c = delim then
        if multiline then
          if t.charAt? (i + 1) ≠ some delim then
            t.stringBody delim basic multiline start fuel false (i + 1) (delim :: acc)
          else if t.charAt? (i + 2) ≠ some delim then
            t.stringBody delim basic multiline start fuel false (i + 2) (delim :: delim :: acc)
          else
            let j := i + 3
            let (acc, j) := if t.charAt? j = some delim then (delim :: acc, j + 1) else (acc, j)
            let (acc, j) := if t.charAt? j = some delim then (delim :: acc, j + 1) else (acc, j)
            .ok (j, String.ofList acc.reverse)
        else .ok (i + 1, String.ofList acc.reverse)
      else if basic ∧ c = '\\' then
        match t.chars[i + 1]? with
        | none => .error (failAt .unterminatedString start)
        | some (o2, e) =>
          let simple : Option Char :=
            if e = '"' then some '"' else if e = '\\' then some '\\'
            else if e = 'b' then some '\x08' else if e = 'f' then some '\x0c'
            else if e = 'n' then some '\n' else if e = 'r' then some '\r'
            else if e = 't' then some '\t' else none
          match simple with
          | some x => t.stringBody delim basic multiline start fuel false (i + 2) (x :: acc)
          | none =>
            if e = 'u' ∨ e = 'U' then
              match t.hexDigits start (if e = 'u' then 4 else 8) (i + 2) 0 with
              | .error f => .error f
              | .ok (v, j) =>
                if isScalar v then t.stringBody delim basic multiline start fuel false j (Char.ofNat v :: acc)
                else .error (failAt (.invalidEscapeValue v) o2)
            else if multiline ∧ (e = ' ' ∨ e = '\t' ∨ e = '\n') then
              let after : Except Failure Nat :=
                if e = '\n' then .ok (i + 2)
                else
                  let k := t.skipBlanks (i + 2)
                  match t.charAt? k with
                  | some '\n' => .ok (k + 1)
                  | none => .ok k
                  | some _ => .error (failAt (.invalidEscape e) o2)
              match after with
              | .error f => .error f
              | .ok j =>
                let j := t.skipWhile (fun c => c = ' ' || c = '\t' || c = '\n') j
                t.stringBody delim basic multiline start fuel false j acc
            else .error (failAt (.invalidEscape e) o2)
      else if isStringChar c then t.stringBody delim basic multiline start fuel false (i + 1) (c :: acc)
      else .error (failAt (.invalidCharInString c) o)

/-- Read a string whose opening quote is at position `i`. -/
def readString (t : Src) (delim : Char) (basic : Bool) (i : Nat) : Except Failure Lexeme :=
  let start := t.offset i
  if t.charAt? (i + 1) = some delim then
    if t.charAt? (i + 2) = some delim then
      (t.stringBody delim basic true start (t.chars.size + 1) true (i + 3) []).map
        fun (j, s) => ⟨start, .str s true, j⟩
    else .ok ⟨start, .str "" false, i + 2⟩
  else
    (t.stringBody delim basic false start (t.chars.size + 1) true (i + 1) []).map
      fun (j, s) => ⟨start, .str s false, j⟩

/-- The token at position `i`, if the text goes on. -/
def lex (t : Src) (i : Nat) : Except Failure (Option Lexeme) :=
  match t.chars[i]? with
  | none => .ok none
  | some (o, c) =>
    let one (tok : Token) : Except Failure (Option Lexeme) := .ok (some ⟨o, tok, i + 1⟩)
    if c = '\n' then one .newline
    else if c = ' ' ∨ c = '\t' then
      let j := t.skipBlanks (i + 1)
      .ok (some ⟨o, .blank (t.slice i j), j⟩)
    else if c = '#' then
      .ok (some ⟨o, .comment, t.skipWhile (fun c => c = '\t' || 0x20 ≤ c.toNat) (i + 1)⟩)
    else if c = '=' then one .equals
    else if c = '.' then one .period
    else if c = ',' then one .comma
    else if c = ':' then one .colon
    else if c = '+' then one .plus
    else if c = '\x7b' then one .leftBrace
    else if c = '\x7d' then one .rightBrace
    else if c = '[' then one .leftBracket
    else if c = ']' then one .rightBracket
    else if c = '\'' then (t.readString '\'' false i).map some
    else if c = '"' then (t.readString '"' true i).map some
    else if isWordChar c then
      let j := t.skipWhile isWordChar (i + 1)
      .ok (some ⟨o, .word (t.slice i j), j⟩)
    else .error (failAt (.unexpected c) o)

end Src

end Safekeep.Config.Toml
