import Safekeep.Number.Printed
import Safekeep.Shell.Arith

/-!
# Shell scripts: `printf` and `echo`

`printf` writes its format, replacing each conversion `%[flags][width][.precision]letter` by
the next argument (or an empty text, or zero, when none is left) and reading backslash
escapes; while arguments remain and the last pass used one, the format is used again. Widths
and precisions count bytes; `*` takes them from the next argument, a negative width meaning
left alignment and a negative precision none. Neither can go beyond the largest C `int`: a
field asking for more is not written.

The letters: `d` `i` (signed), `o` `u` `x` `X` (unsigned, a negative argument wrapping
modulo 2^64), `c` (the first byte), `s`, `b` (the argument with escapes read; `\c` in it ends
all output), and `e` `E` `f` `F` `g` `G` `a` `A` (floats). A numeric argument is read as the system's
readers do (base prefixes `0x` and `0`, leading blanks, a sign), or as the code of the byte
after a leading quote; one that does not read completely, or is out of range, is used as far
as it reads and makes the status 1 with a warning.

Two dialects differ in the details, kept in one record each (`PrintfDialect`): the shell's
own command reads floats in double precision and knows the escapes of the format as octal
numbers, the usual letters and `\e`; the standalone utility reads floats in extended precision,
also knows `\"`, `\x`, `\c`, `\u` and `\U` in the format, skips length modifiers such as `l`,
quotes arguments in its warnings, refuses flags that do not apply to a letter, and knows `q`
(the argument quoted for the shell). A `*` argument of the shell's command is cut to the low
32 bits of an `int`; the utility refuses one out of range.

`echo` writes its arguments joined by blanks and a line end: the shell's own reads escapes as
`%b` does and knows only `-n`; the utility reads escapes only after `-e`, and takes any
argument made of `-` and the letters `n`, `e`, `E` as options.
-/

namespace Safekeep.Shell

open Safekeep.Number

/-- What a run of `printf` gives: the bytes, the warnings, its status, and whether output
stopped early. -/
structure Printed where
  out : List UInt8
  warnings : List String
  status : Nat
  stopped : Bool

/-- The escape of a byte that is not printable: a letter for the usual control characters,
else three octal digits. -/
def byteEscape (b : UInt8) : String :=
  match b.toNat with
  | 7 => "\\a" | 8 => "\\b" | 9 => "\\t" | 10 => "\\n" | 11 => "\\v" | 12 => "\\f" | 13 => "\\r"
  | n => String.ofList ['\\', Nat.digitChar (n / 64), Nat.digitChar (n / 8 % 8), Nat.digitChar (n % 8)]

/-- Text between single quotes as the utility's messages write it: a backslash or a single
quote in it gets a backslash before it, and a byte that is not printable is escaped. -/
def localeQuoted (s : String) : String :=
  let body := s.toUTF8.toList.foldl (fun acc b =>
    if b == 92 then acc ++ "\\\\"
    else if b == 39 then acc ++ "\\'"
    else if b < 32 || b ≥ 127 then acc ++ byteEscape b
    else acc.push (Char.ofNat b.toNat)) ""
  "'" ++ body ++ "'"

/-- How a `printf` reads its format and arguments. -/
structure PrintfDialect where
  -- The precision floats are read in.
  floats : FloatFormat
  -- Whether the format knows `\"`, `\x`, `\c`.
  richEscapes : Bool
  -- Whether length modifiers (`h l L j q t z Z`) are skipped.
  lengths : Bool
  -- How a warning names an argument.
  quoteArg : String → String
  -- The words of the warnings for an argument that does not read at all, or only in part.
  notNumeric : String
  partlyNumeric : String
  -- The status after a malformed conversion.
  badStatus : Nat
  -- The warning for a malformed conversion (given its text).
  badConversion : String → String
  -- Whether a lone quote is not a number, and text after a quoted character is warned of.
  strictQuote : Bool
  -- Whether a value taken by `*` keeps only its low 32 bits, as a cast to `int` does; otherwise a
  -- width outside the `int` range, or a precision above it, is refused.
  wrapsInt : Bool
  -- Whether conversions are refused with flags that do not apply to them, and `b` and `q` (the
  -- argument quoted for the shell) are known only right after the percent sign.
  checksFlags : Bool
  -- The message that ends the command when a field is too wide for the system's formatter; without
  -- one the field writes nothing and the output ends with a write error.
  overflow : Option String
  -- Whether `\c` ends the command with status 0, whatever went wrong before it.
  stopSucceeds : Bool
  -- Whether arguments left over when a pass of the format used none are warned of.
  warnsExcess : Bool

/-- The shell's own `printf`. -/
def PrintfDialect.builtin : PrintfDialect where
  floats := .double
  richEscapes := false
  lengths := false
  quoteArg := id
  notNumeric := "expected numeric value"
  partlyNumeric := "not completely converted"
  badStatus := 2
  badConversion := fun s => s ++ ": invalid directive"
  strictQuote := false
  wrapsInt := true
  checksFlags := false
  overflow := some "xvsnprintf failed"
  stopSucceeds := false
  warnsExcess := false

/-- The standalone `printf` utility. -/
def PrintfDialect.utility : PrintfDialect where
  floats := .extended
  richEscapes := true
  lengths := true
  quoteArg := localeQuoted
  notNumeric := "expected a numeric value"
  partlyNumeric := "value not completely converted"
  badStatus := 1
  badConversion := fun s => s ++ ": invalid conversion specification"
  strictQuote := true
  wrapsInt := false
  checksFlags := true
  overflow := none
  stopSucceeds := true
  warnsExcess := true

def utf8 (s : String) : List UInt8 := s.toUTF8.toList

def octalDigit? (c : Char) : Option Nat := if '0' ≤ c ∧ c ≤ '7' then some (c.toNat - 48) else none

/-- Read up to `n` octal digits. -/
def octalRun : Nat → List Char → Nat → Nat × List Char
  | 0, cs, acc => (acc, cs)
  | n + 1, cs, acc =>
    match cs with
    | c :: rest =>
      match octalDigit? c with
      | some v => octalRun n rest (8 * acc + v)
      | none => (acc, cs)
    | [] => (acc, cs)

/-- Read up to `n` hexadecimal digits: the value, how many, and what follows. -/
def hexRun : Nat → List Char → Nat → Nat → Nat × Nat × List Char
  | 0, cs, acc, k => (acc, k, cs)
  | n + 1, cs, acc, k =>
    match cs with
    | c :: rest =>
      match hexValue c with
      | some v => hexRun n rest (16 * acc + v) (k + 1)
      | none => (acc, k, cs)
    | [] => (acc, k, cs)

def escapeByte? (rich : Bool) (c : Char) : Option UInt8 :=
  if c = '\\' then some 92 else if c = 'a' then some 7 else if c = 'b' then some 8
  else if c = 'f' then some 12 else if c = 'n' then some 10 else if c = 'r' then some 13
  else if c = 't' then some 9 else if c = 'v' then some 11
  else if c = 'e' then some 27 else if rich ∧ c = '"' then some 34 else none

/-- What one escape gives: its bytes, whether all output stops there, the message of a
malformed escape that ends the program, and what follows. -/
structure Escape where
  bytes : List UInt8
  stop : Bool
  fatal : Option String
  rest : List Char

def hexUpper (width n : Nat) : String :=
  let ds := (Nat.toDigits 16 n).map upperHex
  String.ofList (List.replicate (width - min width ds.length) '0' ++ ds)
where
  upperHex (c : Char) : Char := if 'a' ≤ c ∧ c ≤ 'f' then Char.ofNat (c.toNat - 32) else c

/-- A universal character name `\u` (4 digits) or `\U` (8 digits) as the C locale writes it:
`$`, `@` and the backquote as themselves, other characters as the escape in upper case; the
control characters, the rest of ASCII and the surrogates are refused. -/
def universalChar (letter : Char) (cs : List Char) : Escape :=
  let width := if letter = 'u' then 4 else 8
  let (v, k, after) := hexRun width cs 0 0
  if k < width then ⟨[], false, some "missing hexadecimal number in escape", after⟩
  else if (v ≤ 0x9f ∧ v ≠ 0x24 ∧ v ≠ 0x40 ∧ v ≠ 0x60) ∨ (0xd800 ≤ v ∧ v ≤ 0xdfff) then
    let digits := (Nat.toDigits 16 v)
    let digits := String.ofList (List.replicate (width - min width digits.length) '0' ++ digits)
    ⟨[], false, some ("invalid universal character name \\" ++ String.singleton letter ++ digits), after⟩
  else if v < 0x80 then ⟨[v.toUInt8], false, none, after⟩
  else
    let text := if v < 0x10000 then "\\u" ++ hexUpper 4 v else "\\U" ++ hexUpper 8 v
    ⟨utf8 text, false, none, after⟩

/-- One escape after a backslash. `rich` knows `\"`, `\x` and `\c` in a format;
`bArg` reads it as in an argument of `%b` (where `\c` stops and `\0` may start an octal
number); `uni` knows `\u` and `\U` and refuses `\x` without a digit. -/
def readEscape (rich bArg uni : Bool) (cs : List Char) : Escape :=
  match cs with
  | [] => ⟨[92], false, none, []⟩
  | c :: rest =>
    if c = 'c' ∧ (bArg ∨ rich) then ⟨[], true, none, rest⟩
    else if bArg ∧ c = '0' then
      let (v, after) := octalRun 3 rest 0
      ⟨[v.toUInt8], false, none, after⟩
    else if (octalDigit? c).isSome then
      let (v, after) := octalRun 3 cs 0
      ⟨[v.toUInt8], false, none, after⟩
    else if rich ∧ c = 'x' then
      let (v, k, after) := hexRun 2 rest 0 0
      if k = 0 then
        if uni then ⟨[], false, some "missing hexadecimal number in escape", rest⟩
        else ⟨[92, 120], false, none, rest⟩
      else ⟨[v.toUInt8], false, none, after⟩
    else if uni ∧ (c = 'u' ∨ c = 'U') then universalChar c rest
    else
      match escapeByte? rich c with
      | some b => ⟨[b], false, none, rest⟩
      | none => ⟨[92], false, none, cs⟩

/-- Text with its escapes read: the bytes, whether a `\c` stopped it, and the message of a
malformed escape that ended it. -/
def readEscapes (rich bArg uni : Bool) : Nat → List Char → List UInt8 → List UInt8 × Bool × Option String
  | 0, _, acc => (acc, false, none)
  | fuel + 1, cs, acc =>
    match cs with
    | [] => (acc, false, none)
    | '\\' :: rest =>
      let e := readEscape rich bArg uni rest
      match e.fatal with
      | some m => (acc, true, some m)
      | none =>
        if e.stop then (acc ++ e.bytes, true, none)
        else readEscapes rich bArg uni fuel e.rest (acc ++ e.bytes)
    | c :: rest => readEscapes rich bArg uni fuel rest (acc ++ utf8 (String.singleton c))

/-- An integer argument read as the system's integer readers do: the value (clamped into the
range), what is left, and whether it was out of range; none when no digit starts it. -/
def readCInteger (signed : Bool) (s : String) : Option (Int × List Char × Bool) :=
  let cs := s.toList.dropWhile isCSpace
  let (neg, body) : Bool × List Char := match cs with
    | '-' :: more => (true, more)
    | '+' :: more => (false, more)
    | _ => (false, cs)
  (spanCNumber body).map fun (v, rest) =>
    if signed then
      let x : Int := if neg then -(v : Int) else v
      if x > 9223372036854775807 then (9223372036854775807, rest, true)
      else if x < -9223372036854775808 then (-9223372036854775808, rest, true)
      else (x, rest, false)
    else if v > 18446744073709551615 then (18446744073709551615, rest, true)
    else if neg ∧ v > 0 then (((Nat.pow 2 64 - v : Nat) : Int), rest, false)
    else ((v : Int), rest, false)

/-- The state of a `printf` run: the arguments left, whether a pass used one, the bytes and
warnings so far, and whether an argument failed to read. -/
structure PrintfRun where
  args : List String
  used : Bool
  out : List UInt8
  warnings : List String
  bad : Bool
  -- Whether a field failed to be written, which the utility reports when it ends.
  writeFailed : Bool

def PrintfRun.next (r : PrintfRun) : Option String × PrintfRun :=
  match r.args with
  | a :: more => (some a, { r with args := more, used := true })
  | [] => (none, r)

def PrintfRun.warn (r : PrintfRun) (msg : String) : PrintfRun :=
  { r with warnings := r.warnings ++ [msg], bad := true }

/-- The code of the byte after a leading quote, for a numeric argument written as a quoted
character. -/
def quotedChar? (a : String) : Option Nat :=
  match a.toList with
  | '\'' :: _ | '"' :: _ => some ((a.toUTF8.toList.drop 1).headD 0).toNat
  | _ => none

/-- A numeric argument written as a quote and a character: the code of the byte after the
quote. The utility reads a lone quote as a number (which fails) and warns of text after the
character; none when the argument does not start with a quote. -/
def PrintfRun.quoted (D : PrintfDialect) (r : PrintfRun) (a : String) : Option (Nat × PrintfRun) :=
  match quotedChar? a with
  | none => none
  | some c =>
    if D.strictQuote ∧ a.utf8ByteSize < 2 then none
    else if D.strictQuote ∧ a.utf8ByteSize > 2 then
      let tail := String.fromUTF8? ⟨(a.toUTF8.toList.drop 2).toArray⟩
      some (c, { r with warnings := r.warnings ++ ["warning: " ++ tail.getD "" ++
        ": character(s) following character constant have been ignored"] })
    else some (c, r)

/-- Read the next argument as an integer; an empty one is zero. -/
def PrintfRun.integer (D : PrintfDialect) (signed : Bool) (r : PrintfRun) : Int × PrintfRun :=
  let (a?, r) := r.next
  match a? with
  | none => (0, r)
  | some a =>
    if a.isEmpty then (0, r) else
    match r.quoted D a with
    | some (c, r) => (c, r)
    | none =>
      match readCInteger signed a with
      | none => (0, r.warn (D.quoteArg a ++ ": " ++ D.notNumeric))
      | some (v, rest, range) =>
        if ¬rest.isEmpty then (v, r.warn (D.quoteArg a ++ ": " ++ D.partlyNumeric))
        else if range then (v, r.warn (D.quoteArg a ++ ": Numerical result out of range"))
        else (v, r)

/-- Read the next argument as a float; an empty one is zero. -/
def PrintfRun.float (D : PrintfDialect) (r : PrintfRun) : FloatValue × PrintfRun :=
  let (a?, r) := r.next
  match a? with
  | none => (.finite false 0 0, r)
  | some a =>
    if a.isEmpty then (.finite false 0 0, r) else
    match r.quoted D a with
    | some (c, r) => (D.floats.round false c 1, r)
    | none =>
      match readCFloat D.floats a.toList with
      | none => (.finite false 0 0, r.warn (D.quoteArg a ++ ": " ++ D.notNumeric))
      | some res =>
        if ¬res.rest.isEmpty then (res.value, r.warn (D.quoteArg a ++ ": " ++ D.partlyNumeric))
        else if res.outOfRange then (res.value, r.warn (D.quoteArg a ++ ": Numerical result out of range"))
        else (res.value, r)

/-! ## Quoting for the shell -/

def isPrintableByte (b : UInt8) : Bool := 32 ≤ b && b < 127

/-- Whether the byte at position `i` of a word of `n` bytes makes the word need quotes: white
space, the quotes, the backslash, the characters special to the shell (`#` and `~` only at
the start, `{` and `}` only alone) and every byte that is not printable. -/
def forcesQuotes (n i : Nat) (b : UInt8) : Bool :=
  !isPrintableByte b || " !\"$&'()*;<=>?[\\^`|".toList.contains (Char.ofNat b.toNat) ||
    (i = 0 && (b == 35 || b == 126)) || (n = 1 && (b == 123 || b == 125))

/-- Whether the byte at position `i` of a word of `n` bytes reads the same between double
quotes as it does to the shell unquoted or in C: printable and none of the characters special
to either (though `#` and `~` at the start and `{` or `}` alone are). -/
def doubleQuoteSafe (n i : Nat) (b : UInt8) : Bool :=
  let c := Char.ofNat b.toNat
  isPrintableByte b && (!"!\"$&()*;<=>?[\\^`|#~{}".toList.contains c ||
    (i = 0 && (c = '#' || c = '~')) || (n = 1 && (c = '{' || c = '}')))

/-- A word between single quotes: a single quote is written `'\''`, and a run of bytes that
are not printable is written as escapes between dollar quotes. -/
def singleQuoted (bs : List UInt8) : String :=
  let step : String × Bool → UInt8 → String × Bool := fun (acc, inDollar) b =>
    if b == 39 then (acc ++ "'\\''", false)
    else if !isPrintableByte b then (acc ++ (if inDollar then "" else "'$'") ++ byteEscape b, true)
    else (acc ++ (if inDollar then "''" else "") ++ String.singleton (Char.ofNat b.toNat), false)
  (bs.foldl step ("'", false)).1 ++ "'"

/-- A word quoted for the shell only as far as it needs: as it is when no byte needs quotes;
between double quotes when it has a single quote and nothing else those would change; else
between single quotes. The empty word is `''`. -/
def shellQuoted (bs : List UInt8) : String :=
  let n := bs.length
  let indexed := (List.range n).zip bs
  if bs.isEmpty then "''"
  else if !indexed.any (fun (i, b) => forcesQuotes n i b) then String.ofList (bs.map fun b => Char.ofNat b.toNat)
  else if bs.contains 39 && indexed.all (fun (i, b) => doubleQuoteSafe n i b) then
    "\"" ++ String.ofList (bs.map fun b => Char.ofNat b.toNat) ++ "\""
  else singleQuoted bs

/-- The flags, width and precision of a conversion. -/
structure Spec where
  left : Bool
  zero : Bool
  plus : Bool
  space : Bool
  alt : Bool
  -- The grouping flag (`'` or `I`) of the utility, which in the C locale changes nothing.
  grouping : Bool
  width : Nat
  -- Whether a point was written, even when the precision it gives is taken as absent.
  point : Bool
  precision : Option Nat

def Spec.plain : Spec := ⟨false, false, false, false, false, false, 0, false, none⟩

/-- The largest C `int`: no width or precision can go beyond it. -/
def intMax : Nat := 2147483647

def Spec.overflows (s : Spec) : Bool := s.width > intMax || s.precision.getD 0 > intMax

/-- Pad a field to the width: spaces before (or after, when left-aligned), or zeros between the
sign and prefix and the digits when `zeroOk`. -/
def Spec.pad (s : Spec) (zeroOk : Bool) (lead body : List UInt8) : List UInt8 :=
  let len := lead.length + body.length
  if len ≥ s.width then lead ++ body
  else
    let fill := s.width - len
    if s.left then lead ++ body ++ List.replicate fill 32
    else if s.zero ∧ zeroOk then lead ++ List.replicate fill 48 ++ body
    else List.replicate fill 32 ++ lead ++ body

def Spec.sign (s : Spec) (negative : Bool) : List UInt8 :=
  if negative then [45] else if s.plus then [43] else if s.space then [32] else []

/-- The digits of a whole number in a base, with at least `precision` of them (none for a
zero with precision 0). -/
def wholeDigits (base : Nat) (upper : Bool) (precision : Option Nat) (n : Nat) : List Char :=
  let ds := (Nat.toDigits base n).map fun c => if upper then c.toUpper else c
  match precision with
  | some 0 => if n = 0 then [] else ds
  | some p => List.replicate (p - ds.length) '0' ++ ds
  | none => ds

/-- Format one conversion, reading its arguments. -/
def PrintfRun.convert (D : PrintfDialect) (r : PrintfRun) (s : Spec) (letter : Char) :
    PrintfRun × Bool :=
  let bytes (cs : List Char) : List UInt8 := utf8 (String.ofList cs)
  if letter = 's' ∨ letter = 'b' ∨ letter = 'c' then
    let (a?, r) := r.next
    let a := a?.getD ""
    if letter = 'c' then
      let b := (a.toUTF8.toList.take 1)
      let b := if b.isEmpty then [0] else b
      ({ r with out := r.out ++ s.pad false [] b }, false)
    else
      let (body, stop, fatal) := if letter = 'b' then
          readEscapes D.richEscapes true D.richEscapes (a.length + 1) a.toList []
        else (a.toUTF8.toList, false, none)
      let body := match s.precision with
        | some p => body.take p
        | none => body
      match fatal with
      | some m => ({ r with out := r.out ++ body, warnings := r.warnings ++ [m], bad := true }, true)
      | none => ({ r with out := r.out ++ s.pad false [] body }, stop)
  else if letter = 'q' then
    let (a?, r) := r.next
    match a? with
    | some a => ({ r with out := r.out ++ utf8 (shellQuoted a.toUTF8.toList) }, false)
    | none => (r, false)
  else if letter = 'd' ∨ letter = 'i' then
    let (v, r) := r.integer D true
    let ds := wholeDigits 10 false s.precision v.natAbs
    ({ r with out := r.out ++ s.pad s.precision.isNone (s.sign (v < 0)) (bytes ds) }, false)
  else if letter = 'o' ∨ letter = 'u' ∨ letter = 'x' ∨ letter = 'X' then
    let (v, r) := r.integer D false
    let n := v.toNat
    let base := if letter = 'o' then 8 else if letter = 'u' then 10 else 16
    let ds := wholeDigits base (letter = 'X') s.precision n
    let ds := if letter = 'o' ∧ s.alt ∧ ds.head? ≠ some '0' then '0' :: ds else ds
    let lead : List UInt8 :=
      if s.alt ∧ n ≠ 0 ∧ letter = 'x' then bytes ['0', 'x']
      else if s.alt ∧ n ≠ 0 ∧ letter = 'X' then bytes ['0', 'X']
      else []
    ({ r with out := r.out ++ s.pad s.precision.isNone lead (bytes ds) }, false)
  else
    let (v, r) := r.float D
    let body := (v.printed D.floats letter s.precision s.alt).toList
    let finite := match v with
      | .finite _ _ _ => true
      | _ => false
    -- zeros that fill a hexadecimal float go after its 0x
    let hexLead := finite && letter.toLower == 'a'
    let lead := s.sign v.negative ++ (if hexLead then bytes (body.take 2) else [])
    let body := if hexLead then body.drop 2 else body
    ({ r with out := r.out ++ s.pad finite lead (bytes body) }, false)

def readFlags (utility : Bool) (cs : List Char) (s : Spec) : Spec × List Char :=
  let flags := cs.takeWhile fun c =>
    c = '-' || c = '0' || c = '+' || c = ' ' || c = '#' || (utility && (c = '\'' || c = 'I'))
  ({ s with left := flags.contains '-', zero := flags.contains '0', plus := flags.contains '+',
            space := flags.contains ' ', alt := flags.contains '#',
            grouping := flags.contains '\'' || flags.contains 'I' }, cs.drop flags.length)

/-- Whether a conversion letter is known after the flags, width and precision read into `s`
(`bare` when nothing stands between the percent sign and the letter). The shell's command
knows `diouxXcsbeEfFgGaA` whatever comes before them. The utility also knows `q`, takes `b`
and `q` only bare, and refuses `c` after a point or the flags `#` or `0`, `s` after `#` or
`0`, `d`, `i` and `u` after `#`, and `a`, `A`, `c`, `e`, `E`, `o`, `s`, `x` and `X` after the
grouping flag. -/
def PrintfDialect.accepts (D : PrintfDialect) (s : Spec) (bare : Bool) (c : Char) : Bool :=
  if ¬D.checksFlags then "diouxXcsbeEfFgGaA".toList.contains c
  else if c = 'b' ∨ c = 'q' then bare
  else "diouxXcseEfFgGaA".toList.contains c &&
    !(s.grouping && "aAceEosxX".toList.contains c) && !(s.alt && "cdisu".toList.contains c) &&
    !(s.zero && "cs".toList.contains c) && !(s.point && c = 'c')

def wrapInt32 (v : Int) : Int :=
  let low := v % 4294967296
  if low ≥ 2147483648 then low - 4294967296 else low

/-- Read a width given by `*` from the next argument; a negative one aligns to the left. -/
def PrintfRun.starWidth (D : PrintfDialect) (r : PrintfRun) (s : Spec) :
    Except (PrintfRun × String) (Spec × PrintfRun) :=
  let arg := r.args.headD ""
  let (w, r) := r.integer D true
  let w := if D.wrapsInt then wrapInt32 w else w
  if D.wrapsInt ∨ (-(intMax : Int) - 1 ≤ w ∧ w ≤ intMax) then
    .ok (if w < 0 then { s with left := true, width := w.natAbs } else { s with width := w.toNat }, r)
  else .error (r, "invalid field width: " ++ D.quoteArg arg)

/-- Read a precision given by `*` from the next argument; a negative one is taken as absent. -/
def PrintfRun.starPrecision (D : PrintfDialect) (r : PrintfRun) (s : Spec) :
    Except (PrintfRun × String) (Spec × PrintfRun) :=
  let arg := r.args.headD ""
  let (p, r) := r.integer D true
  let p := if D.wrapsInt then wrapInt32 p else p
  if p > intMax then .error (r, "invalid precision: " ++ D.quoteArg arg)
  else .ok ({ s with precision := if p < 0 then none else some p.toNat }, r)

/-- Read the width and precision of a conversion after its flags, with what follows; or the
run and the message when a `*` argument is refused. -/
def PrintfRun.readSizes (D : PrintfDialect) (r : PrintfRun) (s : Spec) (cs : List Char) :
    Except (PrintfRun × String) (Spec × PrintfRun × List Char) := do
  let (s, r, cs) ← match cs with
    | '*' :: more => (r.starWidth D s).map fun (s, r) => (s, r, more)
    | _ =>
      let ds := cs.takeWhile Number.isDigit
      pure ({ s with width := digitsValue ds }, r, cs.drop ds.length)
  match cs with
  | '.' :: '*' :: more => (r.starPrecision D { s with point := true }).map fun (s, r) => (s, r, more)
  | '.' :: more =>
    let ds := more.takeWhile Number.isDigit
    pure ({ s with point := true, precision := some (digitsValue ds) }, r, more.drop ds.length)
  | _ => pure (s, r, cs)

/-- One pass of the format: the run after it, and whether output stopped (by `\c`) or broke
(at a malformed conversion, with its text). -/
def formatPass (D : PrintfDialect) : Nat → List Char → PrintfRun → PrintfRun × Bool × Option String
  | 0, _, r => (r, false, none)
  | fuel + 1, cs, r =>
    match cs with
    | [] => (r, false, none)
    | '\\' :: rest =>
      let e := readEscape D.richEscapes false D.richEscapes rest
      match e.fatal with
      | some m => (r, false, some m)
      | none =>
        let r := { r with out := r.out ++ e.bytes }
        if e.stop then (r, true, none) else formatPass D fuel e.rest r
    | '%' :: '%' :: rest => formatPass D fuel rest { r with out := r.out ++ [37] }
    | '%' :: rest =>
      let start := rest
      let (s, rest) := readFlags D.lengths rest Spec.plain
      match r.readSizes D s rest with
      | .error (r, msg) => (r, false, some msg)
      | .ok (s, r, rest) =>
      let rest := if D.lengths then rest.dropWhile fun c => "hlLjtz".toList.contains c else rest
      match rest with
      | c :: after =>
        if D.accepts s (start.length = after.length + 1) c then
          if s.overflows then
            -- the arguments are still read, but the field writes nothing
            let (r', _) := r.convert D Spec.plain c
            match D.overflow with
            | some msg => ({ r' with out := r.out }, false, some msg)
            | none => formatPass D fuel after { r' with out := r.out, writeFailed := true }
          else
            let (r, stop) := r.convert D s c
            if stop then (r, true, none) else formatPass D fuel after r
        else
          let text := String.ofList ('%' :: start.take (start.length - after.length))
          (r, false, some (D.badConversion text))
      | [] =>
        if D.lengths then (r, false, some (D.badConversion (String.ofList ('%' :: start))))
        else (r, false, some "missing format character")
    | c :: rest => formatPass D fuel rest { r with out := r.out ++ utf8 (String.singleton c) }

/-- How a run ends: its output and warnings, with `extra` after them, and the status; a field
that failed to be written adds a write error and makes the status 1. -/
def PrintfRun.result (r : PrintfRun) (extra : List String) (status : Nat) (stopped : Bool) :
    Printed :=
  if r.writeFailed then ⟨r.out, r.warnings ++ extra ++ ["write error"], 1, stopped⟩
  else ⟨r.out, r.warnings ++ extra, status, stopped⟩

/-- What `printf` writes for a format and arguments, its warnings and status. -/
def printfWith (D : PrintfDialect) (format : String) (args : List String) : Printed :=
  let cs := format.toList
  let rec go : Nat → PrintfRun → Printed
    | 0, r => r.result [] (if r.bad then 1 else 0) false
    | fuel + 1, r =>
      let (r', stop, broke) := formatPass D (4 * cs.length + 4) cs { r with used := false }
      match broke with
      | some msg => r'.result [msg] D.badStatus true
      | none =>
        if stop then r'.result [] (if r'.bad ∧ ¬D.stopSucceeds then 1 else 0) true
        else if r'.args.isEmpty ∨ ¬r'.used then
          let excess := match r'.args with
            | a :: _ =>
              if D.warnsExcess then ["warning: ignoring excess arguments, starting with " ++ D.quoteArg a]
              else []
            | [] => []
          r'.result excess (if r'.bad then 1 else 0) false
        else go fuel r'
  go (args.length + 1) ⟨args, false, [], [], false, false⟩

/-- What the shell's own `echo` writes: escapes read as for `%b`, no line end after `-n` first
or after `\c`. -/
def echoBuiltin (args : List String) : List UInt8 :=
  let (newline, args) := match args with
    | "-n" :: rest => (false, rest)
    | _ => (true, args)
  let text := " ".intercalate args
  let (bytes, stop, _) := readEscapes false true false (text.length + 1) text.toList []
  if stop ∨ ¬newline then bytes else bytes ++ [10]

def isEchoOptions (a : String) : Bool :=
  match a.toList with
  | '-' :: cs => ¬cs.isEmpty ∧ cs.all fun c => c = 'n' || c = 'e' || c = 'E'
  | _ => false

/-- What the `echo` utility writes: options `-n` (no line end), `-e` (read escapes), `-E` (do
not), the last one winning. -/
def echoUtility (args : List String) : List UInt8 :=
  let opts := args.takeWhile isEchoOptions
  let rest := args.drop opts.length
  let letters := opts.flatMap fun a => a.toList.drop 1
  let newline := ¬letters.contains 'n'
  let escapes := letters.foldl (fun e c => if c = 'e' then true else if c = 'E' then false else e) false
  let text := " ".intercalate rest
  if escapes then
    let (bytes, stop, _) := readEscapes true true false (text.length + 1) text.toList []
    if stop ∨ ¬newline then bytes else bytes ++ [10]
  else utf8 text ++ (if newline then [10] else [])

end Safekeep.Shell
