import Safekeep.Config.Tree
import Safekeep.Text.Blank
import Safekeep.Text.Quoted

/-!
# INI settings files

An INI file is a list of `key = value` (or `key: value`) properties, grouped under `[section]`
headers. Every value is a text.

## 1. Reading

Blanks (Unicode White_Space) between items are skipped, line breaks included. At each item:

* `;` or `#` starts a comment running to the end of its line; it must be the first character
  of its line;
* `[` starts a section name, running to the next `]`;
* `=` or `:` starts the value of the key read last (a key is required), which runs to the end of
  its line after leading blanks; a value opening with `"` or `'` runs to the matching quote,
  across lines, and what follows it on its line is added;
* anything else starts a key, running to the next `=` or `:`, across lines.

Names, keys and values are trimmed of blanks. A backslash escapes the next character: `\0`,
`\a`, `\b`, `\t`, `\r` and `\n` are control characters, a backslash before a line break
continues the line, `\x` takes four hexadecimal digits, and any other character stands for
itself. Running out of text inside a name, key, quoted value or escape is a failure, reported
with the line (from 0) and column of the last character read, counted as a cursor counts them:
a line break is column 0 of the line it starts, the characters after it columns 1, 2, ….

## 2. Settings

The properties before the first section are top-level settings; every section is a table of its
properties. A later property or section of the same name replaces an earlier one.
-/

namespace Safekeep.Config.Ini

/-! ## 1. Reading -/

/-- A reading position: the text from the current character on, with that character's line
(from 0) and column (from 1; 0 for a line break, which starts its line). -/
structure Cursor where
  rest : List Char
  line : Nat
  col : Nat

def Cursor.enter (line col : Nat) : List Char → Cursor
  | [] => ⟨[], line, col⟩
  | c :: more => if c = '\n' then ⟨c :: more, line + 1, 0⟩ else ⟨c :: more, line, col + 1⟩

def Cursor.start (cs : List Char) : Cursor := Cursor.enter 0 0 cs

/-- The current character, none at the end. -/
def Cursor.cur (p : Cursor) : Option Char := p.rest.head?

def Cursor.bump (p : Cursor) : Cursor :=
  match p.rest with
  | [] => p
  | _ :: more => Cursor.enter p.line p.col more

/-- A reading failure: the line (from 0) and column (from 1; 0 on a line break) of the position,
and the message. -/
structure IniError where
  line : Nat
  col : Nat
  message : String
  deriving DecidableEq, Repr

def IniError.text (e : IniError) : String :=
  toString e.line ++ ":" ++ toString e.col ++ " " ++ e.message

def Cursor.fail {α : Type} (p : Cursor) (message : String) : Except IniError α :=
  .error ⟨p.line, p.col, message⟩

def optionSpelling : Option Char → String
  | some c => "Some(" ++ Text.quoteSingle c ++ ")"
  | none => "None"

/-- The characters a run may end at, and how a diagnostic spells them. -/
structure Ends where
  chars : List (Option Char)
  spelling : String

def sectionEnds : Ends := ⟨[some ']'], "[Some(']')]"⟩

def keyEnds : Ends := ⟨[some '=', some ':'], "[Some('='), Some(':')]"⟩

/-- The end of a value: the end of its line or of the text. -/
def lineEnds : Ends := ⟨[some '\n', some '\r', none], "[Some('\\n'), Some('\\r'), None]"⟩

def quoteEnds (q : Char) : Ends := ⟨[some q], "[Some(" ++ Text.quoteSingle q ++ ")]"⟩

def Ends.eof {α : Type} (e : Ends) (p : Cursor) : Except IniError α :=
  p.fail ("expecting \"" ++ e.spelling ++ "\" but found EOF.")

/-- Whether a text is four hexadecimal digits, possibly after `+`, naming a character; the
character. -/
def hexChar (code : List Char) : Option Char :=
  let digits := match code with
    | '+' :: rest => rest
    | cs => cs
  let value (c : Char) : Option Nat :=
    if '0' ≤ c ∧ c ≤ '9' then some (c.toNat - '0'.toNat)
    else if 'a' ≤ c ∧ c ≤ 'f' then some (c.toNat - 'a'.toNat + 10)
    else if 'A' ≤ c ∧ c ≤ 'F' then some (c.toNat - 'A'.toNat + 10)
    else none
  if digits.isEmpty then none
  else
    (digits.mapM value).bind fun vs =>
      let n := vs.foldl (fun acc d => 16 * acc + d) 0
      if n < 0xD800 ∨ (0xE000 ≤ n ∧ n < 0x110000) then some (Char.ofNat n) else none

/-- Read the four characters of a `\x` escape; a backslash among them must escape a line break,
which then counts as one of them. -/
def hexCode (e : Ends) : Nat → Cursor → List Char → Except IniError (List Char × Cursor)
  | 0, p, code => .ok (code.reverse, p)
  | k + 1, p, code =>
    let p := p.bump
    match p.cur with
    | none => e.eof p
    | some '\\' =>
      let p := p.bump
      if p.cur = some '\n' then hexCode e k p ('\n' :: code)
      else p.fail ("expecting \"\\\\n\" but found \"" ++ optionSpelling p.cur ++ "\".")
    | some c => hexCode e k p (c :: code)

/-- The character an escape stands for (none for a continued line), or the failure of a bad
`\x` escape; the position is at the escape's last character. -/
def escape (e : Ends) (p : Cursor) (c : Char) : Except IniError (Option Char × Cursor) :=
  match c with
  | '0' => .ok (some '\x00', p)
  | 'a' => .ok (some '\x07', p)
  | 'b' => .ok (some '\x08', p)
  | 't' => .ok (some '\t', p)
  | 'r' => .ok (some '\r', p)
  | 'n' => .ok (some '\n', p)
  | '\n' => .ok (none, p)
  | 'x' => do
    let (code, p) ← hexCode e 4 p []
    match hexChar code with
    | some ch => .ok (some ch, p)
    | none => p.fail "unknown character in \\xHH form"
  | other => .ok (some other, p)

/-- Read a run up to one of its ends (not consumed); `acc` holds what was read, reversed. -/
def runUntil (e : Ends) : Nat → Cursor → List Char → Except IniError (String × Cursor)
  | 0, p, acc => .ok (String.ofList acc.reverse, p)
  | fuel + 1, p, acc =>
    if e.chars.contains p.cur then .ok (String.ofList acc.reverse, p)
    else match p.cur with
      | none => e.eof p
      | some '\\' =>
        let p := p.bump
        match p.cur with
        | none => e.eof p
        | some c => do
          let (ch, p) ← escape e p c
          runUntil e fuel p.bump (match ch with
            | some x => x :: acc
            | none => acc)
      | some c => runUntil e fuel p.bump (c :: acc)

def Cursor.until (p : Cursor) (e : Ends) : Except IniError (String × Cursor) :=
  runUntil e (p.rest.length + 1) p []

def skipBlanks : Nat → Cursor → Cursor
  | 0, p => p
  | fuel + 1, p =>
    match p.cur with
    | some c => if Text.isBlank c then skipBlanks fuel p.bump else p
    | none => p

/-- Skip blanks on the current line. -/
def skipLineBlanks : Nat → Cursor → Cursor
  | 0, p => p
  | fuel + 1, p =>
    match p.cur with
    | some c =>
      if c = '\t' ∨ (Text.isBlank c ∧ c ≠ '\n' ∧ c ≠ '\r') then skipLineBlanks fuel p.bump else p
    | none => p

def skipComment : Nat → Cursor → Cursor
  | 0, p => p
  | fuel + 1, p =>
    match p.cur with
    | some c => if c = '\n' then p.bump else skipComment fuel p.bump
    | none => p

/-- Read a value, the position at its `=` or `:`. -/
def readValue (p : Cursor) : Except IniError (String × Cursor) := do
  let p := skipLineBlanks p.rest.length p.bump
  match p.cur with
  | none => .ok ("", p)
  | some q =>
    if q = '"' ∨ q = '\'' then do
      let (s, p) ← p.bump.until (quoteEnds q)
      let (more, p) ← p.bump.until lineEnds
      .ok (s ++ more, p)
    else p.until lineEnds

/-- What has been read: the sections in order (none for the properties before the first
section), each with its properties in order, and the key waiting for its value. -/
structure Reading where
  sections : List (Option String × List (String × String))
  current : Option String
  key : String

def Reading.add (r : Reading) (k v : String) : Reading :=
  match r.sections.reverse with
  | (s, props) :: earlier =>
    if s = r.current then { r with sections := ((s, props ++ [(k, v)]) :: earlier).reverse }
    else { r with sections := r.sections ++ [(r.current, [(k, v)])] }
  | [] => { r with sections := [(r.current, [(k, v)])] }

/-- Read items until the end of the text. -/
def readItems : Nat → Cursor → Reading → Except IniError Reading
  | 0, _, r => .ok r
  | fuel + 1, p, r =>
    match p.cur with
    | none => .ok r
    | some c =>
      let step : Except IniError (Cursor × Reading) :=
        if c = ';' ∨ c = '#' then
          if p.col > 1 then p.fail "doesn't support inline comment"
          else .ok (skipComment p.rest.length p, r)
        else if c = '[' then do
          let (name, p) ← p.bump.until sectionEnds
          let name := Text.trim name
          .ok (p.bump, { r with sections := r.sections ++ [(some name, [])], current := some name })
        else if c = '=' ∨ c = ':' then
          if r.key.isEmpty then p.fail "missing key"
          else do
            let (v, p) ← readValue p
            .ok (p, { r.add r.key (Text.trim v) with key := "" })
        else do
          let (k, p) ← p.until keyEnds
          .ok (p, { r with key := Text.trim k })
      match step with
      | .error e => .error e
      | .ok (p, r) => readItems fuel (skipBlanks p.rest.length p) r

def readSections (text : String) : Except IniError (List (Option String × List (String × String))) := do
  let cs := text.toList
  let p := skipBlanks cs.length (Cursor.start cs)
  let r ← readItems (cs.length + 1) p ⟨[], none, ""⟩
  .ok r.sections

end Safekeep.Config.Ini

namespace Safekeep.Config

/-! ## 2. Settings -/

/-- The top-level settings of an INI settings file's text; `origin` names the file. -/
def readIniFile (origin text : String) : Except String (List (String × Item)) :=
  match Ini.readSections text with
  | .error e => .error e.text
  | .ok sections =>
    let text (v : String) : Item := .leaf (some origin) (.text v)
    .ok (sections.foldl (fun acc (s, props) =>
      match s with
      | none => props.foldl (fun acc (k, v) => upsert acc k (text v)) acc
      | some name =>
        upsert acc name (.table (some origin) (props.foldl (fun m (k, v) => upsert m k (text v)) [])))
      [])

end Safekeep.Config
