/-!
# YAML tokens

The scanner cuts a YAML text into tokens, one request at a time. It keeps the state YAML's
layout rules need: the current indentation and the ones it interrupted, the depth of flow
collections (`[…]`, `{…}`), and for each level whether a simple key (one written without `?`)
may start here and where the last one that could still be a key started.

## 1. Reading characters

Characters are read from a position that also carries the line (from 1) and column (from 0);
reading past the end gives NUL, which ends the stream. A failure names what was being read and
the place, shown with the column counted from 1.

## 2. Layout

Going back to a smaller column closes the block collections deeper than it (`BlockEnd`);
starting a block collection at a greater column opens one (`BlockSequenceStart` or
`BlockMappingStart`). A `:` after a possible simple key turns that key into a mapping key by
inserting `Key` (and, if needed, `BlockMappingStart`) before its first token. A simple key
stays possible only on its own line and within 1024 characters.

## 3. Tokens

Directives (`%YAML`, `%TAG`), document markers `---` and `...` at column 0, flow indicators,
`-` entries, `?` keys, `:` values, anchors `&a` and aliases `*a`, tags `!…`, block scalars
`|` and `>` with their chomping and indentation indicators, quoted scalars with their escapes
and line folding, and plain scalars, which end at `: `, ` #`, a flow indicator inside a flow
collection, or a line less indented than the block they belong to.
-/

namespace Safekeep.Config.Yaml

/-! ## 1. Reading characters -/

/-- A place in the text: character index, line (from 1) and column (from 0). -/
structure Mark where
  index : Nat
  line : Nat
  col : Nat
  deriving DecidableEq, Repr, Inhabited

/-- A failure to read YAML, at a place. -/
structure ScanError where
  mark : Mark
  info : String
  deriving DecidableEq, Repr

/-- The message of a failure: what went wrong, then line and column (from 1). -/
def ScanError.text (e : ScanError) : String :=
  e.info ++ " at line " ++ toString e.mark.line ++ " column " ++ toString (e.mark.col + 1)

/-- How a scalar was written. -/
inductive Style
  | plain
  | singleQuoted
  | doubleQuoted
  | literal
  | folded
  deriving DecidableEq, Repr, Inhabited

/-- What a token is. -/
inductive TokenKind
  | streamStart
  | streamEnd
  | versionDirective
  | tagDirective
  | documentStart
  | documentEnd
  | blockSequenceStart
  | blockMappingStart
  | blockEnd
  | flowSequenceStart
  | flowSequenceEnd
  | flowMappingStart
  | flowMappingEnd
  | blockEntry
  | flowEntry
  | key
  | value
  | alias (name : String)
  | anchor (name : String)
  | tag (handle suffix : String)
  | scalar (style : Style) (text : String)
  deriving DecidableEq, Repr, Inhabited

/-- A token and where it starts. -/
structure Token where
  mark : Mark
  kind : TokenKind
  deriving DecidableEq, Repr, Inhabited

/-- A place where a simple key may have started. -/
structure SimpleKey where
  possible : Bool
  required : Bool
  tokenNumber : Nat
  mark : Mark
  deriving Repr, Inhabited

/-- The scanner's state. -/
structure Scanner where
  input : Array Char
  mark : Mark
  -- Tokens fetched and not yet handed out, the next first.
  tokens : Array Token
  streamStartProduced : Bool
  streamEndProduced : Bool
  adjacentValueAllowedAt : Nat
  simpleKeyAllowed : Bool
  -- One entry per flow level, the innermost last.
  simpleKeys : Array SimpleKey
  indent : Int
  indents : List Int
  flowLevel : Nat
  tokensParsed : Nat
  tokenAvailable : Bool
  deriving Inhabited

/-- A fresh scanner over a text. -/
def Scanner.ofString (s : String) : Scanner where
  input := s.toList.toArray
  mark := ⟨0, 1, 0⟩
  tokens := #[]
  streamStartProduced := false
  streamEndProduced := false
  adjacentValueAllowedAt := 0
  simpleKeyAllowed := true
  simpleKeys := #[]
  indent := -1
  indents := []
  flowLevel := 0
  tokensParsed := 0
  tokenAvailable := false

/-- Scanning steps: they read and change the scanner, and may fail. -/
abbrev ScanM := StateT Scanner (Except ScanError)

def failAt {α : Type} (m : Mark) (info : String) : ScanM α := throw ⟨m, info⟩

def isZ (c : Char) : Bool := c = '\x00'

def isBreak (c : Char) : Bool := c = '\n' || c = '\r'

def isBreakZ (c : Char) : Bool := isBreak c || isZ c

def isBlank (c : Char) : Bool := c = ' ' || c = '\t'

def isBlankZ (c : Char) : Bool := isBlank c || isBreakZ c

def isAlpha (c : Char) : Bool :=
  ('0' ≤ c && c ≤ '9') || ('a' ≤ c && c ≤ 'z') || ('A' ≤ c && c ≤ 'Z') || c = '_' || c = '-'

def isHex (c : Char) : Bool := ('0' ≤ c && c ≤ '9') || ('a' ≤ c && c ≤ 'f') || ('A' ≤ c && c ≤ 'F')

def hexValue (c : Char) : Nat :=
  if '0' ≤ c ∧ c ≤ '9' then c.toNat - '0'.toNat
  else if 'a' ≤ c ∧ c ≤ 'f' then c.toNat - 'a'.toNat + 10 else c.toNat - 'A'.toNat + 10

def isFlow (c : Char) : Bool := c = ',' || c = '[' || c = ']' || c = '\x7b' || c = '\x7d'

/-- The character `k` places ahead (NUL past the end). -/
def peekAt (k : Nat) : ScanM Char := do
  let s ← get
  pure (s.input[s.mark.index + k]?.getD '\x00')

def cur : ScanM Char := peekAt 0

def here : ScanM Mark := do pure (← get).mark

def skip : ScanM Unit := do
  let c ← cur
  modify fun s =>
    let m := s.mark
    { s with mark := if c = '\n' then ⟨m.index + 1, m.line + 1, 0⟩ else ⟨m.index + 1, m.line, m.col + 1⟩ }

/-- Move past a line break (a carriage return and line feed count as one). -/
def skipLine : ScanM Unit := do
  let c0 ← peekAt 0
  let c1 ← peekAt 1
  if c0 = '\r' ∧ c1 = '\n' then do skip; skip
  else if isBreak c0 then skip
  else pure ()

def readBreak : ScanM String := do
  skipLine
  pure "\n"

/-- Move past the characters satisfying `p`, collecting them; `fuel` bounds the count. -/
def takeWhileM (p : Char → Bool) : Nat → String → ScanM String
  | 0, acc => pure acc
  | fuel + 1, acc => do
    let c ← cur
    if p c then do skip; takeWhileM p fuel (acc.push c) else pure acc

def budget : ScanM Nat := do pure ((← get).input.size + 8)

def skipToBreak : ScanM Unit := do
  discard (takeWhileM (fun c => !isBreakZ c) (← budget) "")

def pushToken (t : Token) : ScanM Unit := modify fun s => { s with tokens := s.tokens.push t }

def insertToken (pos : Nat) (t : Token) : ScanM Unit :=
  modify fun s => { s with tokens := s.tokens.insertIdxIfInBounds pos t }

def setSimpleKeyAllowed (b : Bool) : ScanM Unit := modify fun s => { s with simpleKeyAllowed := b }

/-! ## 2. Layout -/

def lastKey : ScanM SimpleKey := do pure ((← get).simpleKeys.back?.getD default)

def setLastKey (k : SimpleKey) : ScanM Unit :=
  modify fun s => { s with simpleKeys := s.simpleKeys.pop.push k }

/-- Drop simple keys that can no longer be keys: a required one is a failure. -/
def staleSimpleKeys : ScanM Unit := do
  let s ← get
  let m := s.mark
  let mut keys := #[]
  for k in s.simpleKeys do
    if k.possible ∧ (k.mark.line < m.line ∨ k.mark.index + 1024 < m.index) then
      if k.required then failAt m "simple key expect ':'"
      keys := keys.push { k with possible := false }
    else keys := keys.push k
  set { s with simpleKeys := keys }

/-- Forget the innermost simple key; a required one is a failure. -/
def removeSimpleKey : ScanM Unit := do
  let k ← lastKey
  if k.possible ∧ k.required then failAt (← here) "simple key expected"
  setLastKey { k with possible := false }

/-- Remember that a simple key may start here. -/
def saveSimpleKey : ScanM Unit := do
  let s ← get
  let required := s.flowLevel > 0 ∧ s.indent = (s.mark.col : Int)
  if s.simpleKeyAllowed then
    let k : SimpleKey := ⟨true, required, s.tokensParsed + s.tokens.size, s.mark⟩
    removeSimpleKey
    setLastKey k

/-- Open a block collection at a column greater than the indentation. -/
def rollIndent (col : Nat) (number : Option Nat) (kind : TokenKind) (m : Mark) : ScanM Unit := do
  let s ← get
  if s.flowLevel > 0 then return
  if s.indent < (col : Int) then
    set { s with indents := s.indent :: s.indents, indent := col }
    match number with
    | some n => insertToken (n - s.tokensParsed) ⟨m, kind⟩
    | none => pushToken ⟨m, kind⟩

/-- Close the block collections deeper than a column; `fuel` bounds their count. -/
def unrollIndent (col : Int) : Nat → ScanM Unit
  | 0 => pure ()
  | fuel + 1 => do
    let s ← get
    if s.flowLevel > 0 then return
    if s.indent > col then
      pushToken ⟨s.mark, .blockEnd⟩
      modify fun s => match s.indents with
        | i :: rest => { s with indent := i, indents := rest }
        | [] => { s with indent := -1 }
      unrollIndent col fuel

def unroll (col : Int) : ScanM Unit := do unrollIndent col ((← get).indents.length + 1)

/-- Skip blanks, line breaks and comments up to the next token. -/
def skipToNextToken : Nat → ScanM Unit
  | 0 => pure ()
  | fuel + 1 => do
    let c ← cur
    let s ← get
    if c = ' ' ∨ (c = '\t' ∧ (s.flowLevel > 0 ∨ !s.simpleKeyAllowed)) then do
      skip; skipToNextToken fuel
    else if isBreak c then do
      skipLine
      if (← get).flowLevel = 0 then setSimpleKeyAllowed true
      skipToNextToken fuel
    else if c = '#' then do
      skipToBreak
      skipToNextToken fuel
    else pure ()

/-! ## 3. Tokens -/

/-- The start of the stream. -/
def fetchStreamStart : ScanM Unit := do
  let m ← here
  modify fun s => { s with
    indent := -1
    streamStartProduced := true
    simpleKeyAllowed := true
    simpleKeys := s.simpleKeys.push ⟨false, false, 0, ⟨0, 0, 0⟩⟩ }
  pushToken ⟨m, .streamStart⟩

/-- The end of the stream, on a line of its own. -/
def fetchStreamEnd : ScanM Unit := do
  modify fun s =>
    if s.mark.col ≠ 0 then { s with mark := ⟨s.mark.index, s.mark.line + 1, 0⟩ } else s
  unroll (-1)
  removeSimpleKey
  setSimpleKeyAllowed false
  pushToken ⟨← here, .streamEnd⟩

/-- A directive's name. -/
def scanDirectiveName : ScanM String := do
  let start ← here
  let name ← takeWhileM isAlpha (← budget) ""
  if name.isEmpty then failAt start "while scanning a directive, could not find expected directive name"
  if !isBlankZ (← cur) then
    failAt start "while scanning a directive, found unexpected non-alphabetical character"
  pure name

/-- A number of a version directive. -/
def scanVersionNumber (m : Mark) : ScanM Nat := do
  let ds ← takeWhileM (fun c => '0' ≤ c && c ≤ '9') 10 ""
  if ds.length > 9 then failAt m "while scanning a YAML directive, found extremely long version number"
  if '0' ≤ (← cur) ∧ (← cur) ≤ '9' then
    failAt m "while scanning a YAML directive, found extremely long version number"
  if ds.isEmpty then failAt m "while scanning a YAML directive, did not find expected version number"
  pure (ds.foldl (fun n c => 10 * n + (c.toNat - '0'.toNat)) 0)

/-- A tag handle: `!`, `!!` or `!name!` (in a tag, also `!name`). -/
def scanTagHandle (directive : Bool) (m : Mark) : ScanM String := do
  if (← cur) ≠ '!' then failAt m "while scanning a tag, did not find expected '!'"
  skip
  let name ← takeWhileM isAlpha (← budget) "!"
  if (← cur) = '!' then do
    skip
    pure (name.push '!')
  else if directive ∧ name ≠ "!" then failAt m "while parsing a tag directive, did not find expected '!'"
  else pure name

def isUriChar (c : Char) : Bool :=
  isAlpha c || ";/?:@&=+$,.!~*'()[]%".toList.contains c

/-- The octets of a `%xx` escape in a tag, decoded as one UTF-8 character. -/
def scanUriEscapes (m : Mark) : Nat → Nat → Nat → ScanM Char
  | 0, _, code => pure (Char.ofNat code)
  | fuel + 1, width, code => do
    let c0 ← peekAt 0
    let c1 ← peekAt 1
    let c2 ← peekAt 2
    if !(c0 = '%' ∧ isHex c1 ∧ isHex c2) then failAt m "while parsing a tag, did not find URI escaped octet"
    let octet := hexValue c1 * 16 + hexValue c2
    let (width, code) ← if width = 0 then
        if octet &&& 0x80 = 0 then pure (1, octet)
        else if octet &&& 0xE0 = 0xC0 then pure (2, octet)
        else if octet &&& 0xF0 = 0xE0 then pure (3, octet)
        else if octet &&& 0xF8 = 0xF0 then pure (4, octet)
        else failAt m "while parsing a tag, found an incorrect leading UTF-8 octet"
      else if octet &&& 0xC0 ≠ 0x80 then failAt m "while parsing a tag, found an incorrect trailing UTF-8 octet"
      else pure (width, code * 256 + octet)
    skip; skip; skip
    if width - 1 = 0 then
      if code < 0xd800 ∨ (0xdfff < code ∧ code ≤ 0x10ffff) then pure (Char.ofNat code)
      else failAt m "while parsing a tag, found an invalid UTF-8 codepoint"
    else scanUriEscapes m fuel (width - 1) code

/-- The URI part of a tag, after the characters `head` already read. -/
def scanTagUri (m : Mark) (head : String) : Nat → Nat → String → ScanM String
  | 0, len, acc => if len = 0 then failAt m "while parsing a tag, did not find expected tag URI" else pure acc
  | fuel + 1, len, acc => do
    let c ← cur
    if isUriChar c then
      if c = '%' then
        let x ← scanUriEscapes m 4 0 0
        scanTagUri m head fuel (len + 1) (acc.push x)
      else do
        skip
        scanTagUri m head fuel (len + 1) (acc.push c)
    else if len = 0 then failAt m "while parsing a tag, did not find expected tag URI"
    else pure acc

def tagUri (m : Mark) (head : String) : ScanM String := do
  scanTagUri m head (← budget) head.length (if head.length > 1 then String.ofList (head.toList.drop 1) else "")

/-- A directive line: `%YAML major.minor`, `%TAG handle prefix`, or any other (skipped). -/
def scanDirective : ScanM Token := do
  let start ← here
  skip
  let name ← scanDirectiveName
  let tok ← if name = "YAML" then do
      discard (takeWhileM isBlank (← budget) "")
      discard (scanVersionNumber start)
      if (← cur) ≠ '.' then
        failAt start "while scanning a YAML directive, did not find expected digit or '.' character"
      skip
      discard (scanVersionNumber start)
      pure (⟨start, .versionDirective⟩ : Token)
    else if name = "TAG" then do
      discard (takeWhileM isBlank (← budget) "")
      let _ ← scanTagHandle true start
      discard (takeWhileM isBlank (← budget) "")
      let _ ← tagUri start ""
      if !isBlankZ (← cur) then
        failAt start "while scanning TAG, did not find expected whitespace or line break"
      pure (⟨start, .tagDirective⟩ : Token)
    else do
      skipToBreak
      pure (⟨start, .tagDirective⟩ : Token)
  discard (takeWhileM isBlank (← budget) "")
  if (← cur) = '#' then skipToBreak
  if !isBreakZ (← cur) then
    failAt start "while scanning a directive, did not find expected comment or line break"
  if isBreak (← cur) then skipLine
  pure tok

def fetchDirective : ScanM Unit := do
  unroll (-1)
  removeSimpleKey
  setSimpleKeyAllowed false
  pushToken (← scanDirective)

/-- A document marker `---` or `...`. -/
def fetchDocumentIndicator (kind : TokenKind) : ScanM Unit := do
  unroll (-1)
  removeSimpleKey
  setSimpleKeyAllowed false
  let m ← here
  skip; skip; skip
  pushToken ⟨m, kind⟩

/-- `[` or `{`. -/
def fetchFlowCollectionStart (kind : TokenKind) : ScanM Unit := do
  saveSimpleKey
  let s ← get
  if s.flowLevel ≥ 255 then failAt s.mark "recursion limit exceeded"
  set { s with simpleKeys := s.simpleKeys.push ⟨false, false, 0, ⟨0, 0, 0⟩⟩, flowLevel := s.flowLevel + 1 }
  setSimpleKeyAllowed true
  let m ← here
  skip
  pushToken ⟨m, kind⟩

/-- `]` or `}`. -/
def fetchFlowCollectionEnd (kind : TokenKind) : ScanM Unit := do
  removeSimpleKey
  modify fun s =>
    if s.flowLevel > 0 then { s with flowLevel := s.flowLevel - 1, simpleKeys := s.simpleKeys.pop } else s
  setSimpleKeyAllowed false
  let m ← here
  skip
  pushToken ⟨m, kind⟩

def fetchFlowEntry : ScanM Unit := do
  removeSimpleKey
  setSimpleKeyAllowed true
  let m ← here
  skip
  pushToken ⟨m, .flowEntry⟩

/-- `-` starting a block sequence entry. -/
def fetchBlockEntry : ScanM Unit := do
  let s ← get
  if s.flowLevel = 0 then
    if !s.simpleKeyAllowed then failAt s.mark "block sequence entries are not allowed in this context"
    rollIndent s.mark.col none .blockSequenceStart s.mark
  else failAt s.mark "\"-\" is only valid inside a block"
  removeSimpleKey
  setSimpleKeyAllowed true
  let m ← here
  skip
  pushToken ⟨m, .blockEntry⟩

/-- `?` starting a complex key. -/
def fetchKey : ScanM Unit := do
  let s ← get
  let m := s.mark
  if s.flowLevel = 0 then
    if !s.simpleKeyAllowed then failAt m "mapping keys are not allowed in this context"
    rollIndent m.col none .blockMappingStart m
  removeSimpleKey
  setSimpleKeyAllowed ((← get).flowLevel = 0)
  skip
  pushToken ⟨m, .key⟩

/-- `:` after a key. -/
def fetchValue : ScanM Unit := do
  let k ← lastKey
  let m ← here
  if k.possible then
    insertToken (k.tokenNumber - (← get).tokensParsed) ⟨k.mark, .key⟩
    rollIndent k.mark.col (some k.tokenNumber) .blockMappingStart m
    setLastKey { k with possible := false }
    setSimpleKeyAllowed false
  else
    let s ← get
    if s.flowLevel = 0 then
      if !s.simpleKeyAllowed then failAt m "mapping values are not allowed in this context"
      rollIndent m.col none .blockMappingStart m
    setSimpleKeyAllowed ((← get).flowLevel = 0)
  skip
  pushToken ⟨m, .value⟩

/-- An anchor `&name` or an alias `*name`. -/
def fetchAnchor (isAlias : Bool) : ScanM Unit := do
  saveSimpleKey
  setSimpleKeyAllowed false
  let start ← here
  skip
  let name ← takeWhileM isAlpha (← budget) ""
  let c ← cur
  let ends := isBlankZ c || "?:,]\x7d%@`".toList.contains c
  if name.isEmpty ∨ !ends then
    failAt start "while scanning an anchor or alias, did not find expected alphabetic or numeric character"
  pushToken ⟨start, if isAlias then .alias name else .anchor name⟩

/-- A tag `!<uri>`, `!handle!suffix`, `!suffix` or `!`. -/
def fetchTag : ScanM Unit := do
  saveSimpleKey
  setSimpleKeyAllowed false
  let start ← here
  let (handle, suffix) ← if (← peekAt 1) = '<' then do
      skip; skip
      let suffix ← tagUri start ""
      if (← cur) ≠ '>' then failAt start "while scanning a tag, did not find the expected '>'"
      skip
      pure ("", suffix)
    else do
      let handle ← scanTagHandle false start
      if handle.length ≥ 2 ∧ handle.startsWith "!" ∧ handle.endsWith "!" then
        pure (handle, ← tagUri start "")
      else
        let suffix ← tagUri start handle
        if suffix.isEmpty then pure ("", "!") else pure ("!", suffix)
  if !isBlankZ (← cur) then
    failAt start "while scanning a tag, did not find expected whitespace or line break"
  pushToken ⟨start, .tag handle suffix⟩

/-- The indentation spaces and empty lines before a block scalar's next line: the line breaks
read, and the indentation (found from the deepest such line when not yet known). -/
def blockScalarBreaks (indent : Nat) : Nat → Nat → String → ScanM (Nat × String)
  | 0, _, breaks => pure (indent, breaks)
  | fuel + 1, maxIndent, breaks => do
    let rec spaces : Nat → ScanM Unit
      | 0 => pure ()
      | f + 1 => do
        let m ← here
        if (indent = 0 ∨ m.col < indent) ∧ (← cur) = ' ' then do skip; spaces f else pure ()
    spaces (← budget)
    let m ← here
    let maxIndent := max maxIndent m.col
    if (indent = 0 ∨ m.col < indent) ∧ (← cur) = '\t' then
      failAt m "while scanning a block scalar, found a tab character where an indentation space is expected"
    if !isBreak (← cur) then
      if indent = 0 then
        let s ← get
        let atLeast : Nat := (s.indent + 1).toNat
        pure (max 1 (max maxIndent atLeast), breaks)
      else pure (indent, breaks)
    else
      let b ← readBreak
      blockScalarBreaks indent fuel maxIndent (breaks ++ b)

/-- The lines of a block scalar at its indentation, folded or kept as the style says. -/
def blockScalarLines (literal : Bool) (indent : Nat) : Nat → String → String → String → Bool →
    ScanM (String × String × String)
  | 0, s, leading, trailing, _ => pure (s, leading, trailing)
  | fuel + 1, s, leading, trailing, leadingBlank => do
    let m ← here
    let c ← cur
    if m.col ≠ indent ∨ isZ c then return (s, leading, trailing)
    let trailingBlank := isBlank c
    let s := if !literal ∧ !leading.isEmpty ∧ !leadingBlank ∧ !trailingBlank then
        (if trailing.isEmpty then s.push ' ' else s)
      else s ++ leading
    let s := s ++ trailing
    let leadingBlank := isBlank c
    let line ← takeWhileM (fun c => !isBreakZ c) (← budget) ""
    let s := s ++ line
    if isZ (← cur) then return (s, "", "")
    let leading ← readBreak
    let (_, trailing) ← blockScalarBreaks indent (← budget) 0 ""
    blockScalarLines literal indent fuel s leading trailing leadingBlank

/-- A block scalar after `|` (literal) or `>` (folded). -/
def scanBlockScalar (literal : Bool) : ScanM Token := do
  let start ← here
  skip
  let mut chomping : Int := 0
  let mut increment : Nat := 0
  let c ← cur
  if c = '+' ∨ c = '-' then
    chomping := if c = '+' then 1 else -1
    skip
    let d ← cur
    if '0' ≤ d ∧ d ≤ '9' then
      if d = '0' then
        failAt start "while scanning a block scalar, found an indentation indicator equal to 0"
      increment := d.toNat - '0'.toNat
      skip
  else if '0' ≤ c ∧ c ≤ '9' then
    if c = '0' then
      failAt start "while scanning a block scalar, found an indentation indicator equal to 0"
    increment := c.toNat - '0'.toNat
    skip
    let d ← cur
    if d = '+' ∨ d = '-' then
      chomping := if d = '+' then 1 else -1
      skip
  discard (takeWhileM isBlank (← budget) "")
  if (← cur) = '#' then skipToBreak
  if !isBreakZ (← cur) then
    failAt start "while scanning a block scalar, did not find expected comment or line break"
  if isBreak (← cur) then skipLine
  let s ← get
  let indent : Nat := if increment > 0 then
      (if s.indent ≥ 0 then (s.indent + increment).toNat else increment) else 0
  let (indent, trailing) ← blockScalarBreaks indent (← budget) 0 ""
  let m ← here
  let (text, leading, trailing) ← blockScalarLines literal indent (← budget) "" "" trailing false
  let text := if chomping ≠ -1 then text ++ leading else text
  let text := if chomping = 1 then text ++ trailing else text
  pure ⟨m, .scalar (if literal then .literal else .folded) text⟩

def fetchBlockScalar (literal : Bool) : ScanM Unit := do
  saveSimpleKey
  setSimpleKeyAllowed true
  pushToken (← scanBlockScalar literal)

/-- Whether a document marker starts here. -/
def atDocumentIndicator : ScanM Bool := do
  let m ← here
  let c0 ← peekAt 0
  let c1 ← peekAt 1
  let c2 ← peekAt 2
  let c3 ← peekAt 3
  pure (m.col = 0 ∧ ((c0 = '-' ∧ c1 = '-' ∧ c2 = '-') ∨ (c0 = '.' ∧ c1 = '.' ∧ c2 = '.')) ∧ isBlankZ c3)

/-- The character a double-quoted escape letter stands for, or the number of hex digits that
follow it. -/
def escapeOf (c : Char) : Option (Sum Char Nat) :=
  if c = '0' then some (.inl '\x00')
  else if c = 'a' then some (.inl '\x07')
  else if c = 'b' then some (.inl '\x08')
  else if c = 't' ∨ c = '\t' then some (.inl '\t')
  else if c = 'n' then some (.inl '\n')
  else if c = 'v' then some (.inl '\x0b')
  else if c = 'f' then some (.inl '\x0c')
  else if c = 'r' then some (.inl '\r')
  else if c = 'e' then some (.inl '\x1b')
  else if c = ' ' then some (.inl ' ')
  else if c = '"' then some (.inl '"')
  else if c = '\'' then some (.inl '\'')
  else if c = '\\' then some (.inl '\\')
  else if c = 'N' then some (.inl (Char.ofNat 0x85))
  else if c = '_' then some (.inl (Char.ofNat 0xA0))
  else if c = 'L' then some (.inl (Char.ofNat 0x2028))
  else if c = 'P' then some (.inl (Char.ofNat 0x2029))
  else if c = 'x' then some (.inr 2)
  else if c = 'u' then some (.inr 4)
  else if c = 'U' then some (.inr 8)
  else none

/-- The non-blank characters of a quoted scalar's line, up to a blank, a line break or the
closing quote; whether an escaped line break was met. -/
def quotedRun (single : Bool) (start : Mark) : Nat → String → ScanM (String × Bool)
  | 0, s => pure (s, false)
  | fuel + 1, s => do
    let c ← cur
    let c1 ← peekAt 1
    if isBlankZ c then return (s, false)
    if single ∧ c = '\'' ∧ c1 = '\'' then do
      skip; skip
      quotedRun single start fuel (s.push '\'')
    else if single ∧ c = '\'' then pure (s, false)
    else if !single ∧ c = '"' then pure (s, false)
    else if !single ∧ c = '\\' ∧ isBreak c1 then do
      skip
      skipLine
      pure (s, true)
    else if !single ∧ c = '\\' then
      match escapeOf c1 with
      | none => failAt start "while parsing a quoted scalar, found unknown escape character"
      | some (.inl x) => do
        skip; skip
        quotedRun single start fuel (s.push x)
      | some (.inr len) => do
        skip; skip
        let mut v := 0
        for k in List.range len do
          let h ← peekAt k
          if !isHex h then
            failAt start "while parsing a quoted scalar, did not find expected hexdecimal number"
          v := v * 16 + hexValue h
        if !(v < 0xd800 ∨ (0xdfff < v ∧ v ≤ 0x10ffff)) then
          failAt start "while parsing a quoted scalar, found invalid Unicode character escape code"
        for _ in List.range len do skip
        quotedRun single start fuel (s.push (Char.ofNat v))
    else do
      skip
      quotedRun single start fuel (s.push c)

/-- Blanks and line breaks inside a flow or plain scalar: the blanks kept, the first line break
and the later ones, and whether a line break was met. A tab in the indentation of a plain scalar
is refused when `tabCheck` gives the indentation. -/
def scalarBlanks (tabCheck : Option (Int × Mark)) : Nat → String → String → String → Bool →
    ScanM (String × String × String × Bool)
  | 0, ws, lead, trail, lb => pure (ws, lead, trail, lb)
  | fuel + 1, ws, lead, trail, lb => do
    let c ← cur
    if isBlank c then
      match tabCheck with
      | some (indent, start) =>
        if lb ∧ ((← here).col : Int) < indent ∧ c = '\t' then
          failAt start "while scanning a plain scalar, found a tab"
      | none => pure ()
      skip
      if lb then scalarBlanks tabCheck fuel ws lead trail lb
      else scalarBlanks tabCheck fuel (ws.push c) lead trail lb
    else if isBreak c then
      let b ← readBreak
      if lb then scalarBlanks tabCheck fuel ws lead (trail ++ b) lb
      else scalarBlanks tabCheck fuel "" (lead ++ b) trail true
    else pure (ws, lead, trail, lb)

/-- Join what came between two runs of a scalar: blanks as they are, a single line break as a
blank, several as all but the first. -/
def joinBlanks (s ws lead trail : String) (lb : Bool) : String × String × String × String :=
  if lb then
    if lead.isEmpty then (s ++ lead ++ trail, ws, "", "")
    else if trail.isEmpty then (s.push ' ', ws, "", "")
    else (s ++ trail, ws, "", "")
  else (s ++ ws, "", lead, trail)

/-- The lines of a quoted scalar up to its closing quote. -/
def quotedLines (single : Bool) (start : Mark) : Nat → String → ScanM String
  | 0, s => pure s
  | fuel + 1, s => do
    if ← atDocumentIndicator then
      failAt start "while scanning a quoted scalar, found unexpected document indicator"
    if isZ (← cur) then failAt start "while scanning a quoted scalar, found unexpected end of stream"
    let (s, escapedBreak) ← quotedRun single start (← budget) s
    let c ← cur
    if (single ∧ c = '\'') ∨ (!single ∧ c = '"') then return s
    let (ws, lead, trail, lb) ← scalarBlanks none (← budget) "" "" "" escapedBreak
    let (s, _, _, _) := joinBlanks s ws lead trail lb
    quotedLines single start fuel s

/-- A single- or double-quoted scalar. -/
def fetchFlowScalar (single : Bool) : ScanM Unit := do
  saveSimpleKey
  setSimpleKeyAllowed false
  let start ← here
  skip
  let s ← quotedLines single start (← budget) ""
  skip
  modify fun st => { st with adjacentValueAllowedAt := st.mark.index }
  pushToken ⟨start, .scalar (if single then .singleQuoted else .doubleQuoted) s⟩

/-- The characters of a plain scalar's run, joined to what came before it. -/
def plainRun : Nat → String → String → String → String → Bool →
    ScanM (String × String × String × String × Bool)
  | 0, s, ws, lead, trail, lb => pure (s, ws, lead, trail, lb)
  | fuel + 1, s, ws, lead, trail, lb => do
    let c ← cur
    if isBlankZ c then return (s, ws, lead, trail, lb)
    let c1 ← peekAt 1
    let flow := (← get).flowLevel > 0
    if c = ':' ∧ (isBlankZ c1 ∨ (flow ∧ isFlow c1)) then return (s, ws, lead, trail, lb)
    if flow ∧ isFlow c then return (s, ws, lead, trail, lb)
    let (s, ws, lead, trail, lb) :=
      if lb ∨ !ws.isEmpty then
        let (s', _, lead', trail') := joinBlanks s ws lead trail lb
        if lb then (s', ws, lead', trail', false) else (s', "", lead, trail, lb)
      else (s, ws, lead, trail, lb)
    skip
    plainRun fuel (s.push c) ws lead trail lb

/-- The runs of a plain scalar, across lines while they stay indented enough. -/
def plainLines (indent : Int) (start : Mark) : Nat → String → String → String → String → Bool →
    ScanM (String × Bool)
  | 0, s, _, _, _, lb => pure (s, lb)
  | fuel + 1, s, ws, lead, trail, lb => do
    if ← atDocumentIndicator then return (s, lb)
    if (← cur) = '#' then return (s, lb)
    let (s, ws, lead, trail, lb) ← plainRun (← budget) s ws lead trail lb
    let c ← cur
    if !(isBlank c ∨ isBreak c) then return (s, lb)
    let (ws, lead, trail, lb) ← scalarBlanks (some (indent, start)) (← budget) ws lead trail lb
    let st ← get
    if st.flowLevel = 0 ∧ (st.mark.col : Int) < indent then return (s, lb)
    plainLines indent start fuel s ws lead trail lb

/-- A plain scalar. -/
def fetchPlainScalar : ScanM Unit := do
  saveSimpleKey
  setSimpleKeyAllowed false
  let st ← get
  let start := st.mark
  let (s, lb) ← plainLines (st.indent + 1) start (← budget) "" "" "" "" false
  if lb then setSimpleKeyAllowed true
  pushToken ⟨start, .scalar .plain s⟩

/-- Fetch the next token (or several) into the queue. -/
def fetchNextToken : ScanM Unit := do
  if !(← get).streamStartProduced then
    fetchStreamStart
    return
  skipToNextToken (← budget)
  staleSimpleKeys
  unroll ((← here).col : Int)
  let c ← cur
  let nc ← peekAt 1
  let m ← here
  if isZ c then return (← fetchStreamEnd)
  if m.col = 0 ∧ c = '%' then return (← fetchDirective)
  let c2 ← peekAt 2
  let c3 ← peekAt 3
  if m.col = 0 ∧ c = '-' ∧ nc = '-' ∧ c2 = '-' ∧ isBlankZ c3 then
    return (← fetchDocumentIndicator .documentStart)
  if m.col = 0 ∧ c = '.' ∧ nc = '.' ∧ c2 = '.' ∧ isBlankZ c3 then
    return (← fetchDocumentIndicator .documentEnd)
  let st ← get
  let flow := st.flowLevel > 0
  if c = '[' then fetchFlowCollectionStart .flowSequenceStart
  else if c = '\x7b' then fetchFlowCollectionStart .flowMappingStart
  else if c = ']' then fetchFlowCollectionEnd .flowSequenceEnd
  else if c = '\x7d' then fetchFlowCollectionEnd .flowMappingEnd
  else if c = ',' then fetchFlowEntry
  else if c = '-' ∧ isBlankZ nc then fetchBlockEntry
  else if c = '?' ∧ (flow ∨ isBlankZ nc) then fetchKey
  else if c = ':' ∧ (isBlankZ nc ∨ (flow ∧ (isFlow nc ∨ m.index = st.adjacentValueAllowedAt))) then fetchValue
  else if c = '*' then fetchAnchor true
  else if c = '&' then fetchAnchor false
  else if c = '!' then fetchTag
  else if c = '|' ∧ !flow then fetchBlockScalar true
  else if c = '>' ∧ !flow then fetchBlockScalar false
  else if c = '\'' then fetchFlowScalar true
  else if c = '"' then fetchFlowScalar false
  else if c = '%' ∨ c = '@' ∨ c = '`' then failAt m ("unexpected character: `" ++ c.toString ++ "'")
  else fetchPlainScalar

/-- Fetch tokens until the next one is settled: the queue is not empty and no simple key that
could still become a key starts at the next token. -/
def fetchMoreTokens : Nat → ScanM Unit
  | 0 => pure ()
  | fuel + 1 => do
    let s ← get
    let needMore ← if s.tokens.isEmpty then pure true else do
      staleSimpleKeys
      let s ← get
      pure (s.simpleKeys.any fun k => k.possible ∧ k.tokenNumber = s.tokensParsed)
    if needMore then do
      fetchNextToken
      fetchMoreTokens fuel
    else modify fun s => { s with tokenAvailable := true }

/-- The next token, none once the stream has ended. -/
def nextToken : ScanM (Option Token) := do
  if (← get).streamEndProduced then return none
  if !(← get).tokenAvailable then fetchMoreTokens (4 * (← budget) + 16)
  let s ← get
  match s.tokens[0]? with
  | none => return none
  | some t =>
    set { s with
      tokens := s.tokens.eraseIdxIfInBounds 0
      tokenAvailable := false
      tokensParsed := s.tokensParsed + 1
      streamEndProduced := s.streamEndProduced || t.kind == TokenKind.streamEnd }
    return some t

end Safekeep.Config.Yaml
