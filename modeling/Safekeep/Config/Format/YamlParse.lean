import Safekeep.Config.Format.YamlScan

/-!
# YAML events

The parser turns the scanner's tokens into a stream of events: the stream and each document
start and end, scalars, aliases, and the start and end of every sequence and mapping. It is a
state machine with a stack of the states to come back to when a node is complete.

## 1. States

Each state expects some tokens and says what follows them. A document starts implicitly at its
first node or explicitly at `---` (after any directives); its content is one block node, or an
empty scalar when it has none. Block collections are read entry by entry until their
`BlockEnd`; a sequence of `-` entries directly under a mapping key (indented no further than the
key) ends at the first token that is not `-`. Flow collections are read until their closing
bracket, entries separated by `,`; a `key: value` pair in a flow sequence is a one-pair mapping.

## 2. Nodes

A node may start with an anchor and a tag in either order. It is then an alias, a scalar, or the
start of a collection; with only an anchor or a tag it is an empty scalar. A missing value or key
is the empty scalar `~`. Anchors are numbered from 1 in the order they are read; an alias names
the number of the latest anchor of its name in the document, and an alias of a name not yet
anchored is a failure.
-/

namespace Safekeep.Config.Yaml

/-! ## 1. States -/

/-- A parsing event. -/
inductive Event
  | streamStart
  | streamEnd
  | documentStart
  | documentEnd
  -- A reference to the node of an anchor, by its number.
  | alias (id : Nat)
  -- A scalar, with its anchor number (0 for none) and tag.
  | scalar (text : String) (style : Style) (anchor : Nat) (tag : Option (String × String))
  | sequenceStart (anchor : Nat)
  | sequenceEnd
  | mappingStart (anchor : Nat)
  | mappingEnd
  deriving DecidableEq, Repr, Inhabited

/-- What the parser expects next. -/
inductive Stage
  | streamStart
  | implicitDocumentStart
  | documentStart
  | documentContent
  | documentEnd
  | blockNode
  | blockSequenceFirstEntry
  | blockSequenceEntry
  | indentlessSequenceEntry
  | blockMappingFirstKey
  | blockMappingKey
  | blockMappingValue
  | flowSequenceFirstEntry
  | flowSequenceEntry
  | flowSequenceEntryMappingKey
  | flowSequenceEntryMappingValue
  | flowSequenceEntryMappingEnd
  | flowMappingFirstKey
  | flowMappingKey
  | flowMappingValue
  | flowMappingEmptyValue
  | finished
  deriving DecidableEq, Repr, Inhabited

/-- The parser's state, around the scanner's. -/
structure Parser (α : Type) where
  scanner : Scanner
  -- The states to come back to, the next first.
  stages : List Stage
  stage : Stage
  -- The token looked at and not yet consumed.
  token : Option Token
  -- The anchors of the current document, the latest first.
  anchors : List (String × Nat)
  anchorId : Nat
  -- What a reader of the events keeps: the nodes of anchors, for instance.
  extra : α

/-- A fresh parser over a text. -/
def Parser.ofString {α : Type} (s : String) (extra : α) : Parser α where
  scanner := Scanner.ofString s
  stages := []
  stage := .streamStart
  token := none
  anchors := []
  anchorId := 1
  extra := extra

/-- Parsing steps: they read and change the parser, and may fail. -/
abbrev ParseM (α : Type) := StateT (Parser α) (Except ScanError)

variable {α : Type}

/-- The next token, read from the scanner when none is waiting. -/
def peekToken : ParseM α Token := do
  let p ← get
  match p.token with
  | some t => pure t
  | none =>
    match nextToken.run p.scanner with
    | .error e => throw e
    | .ok (none, sc) => throw ⟨sc.mark, "unexpected eof"⟩
    | .ok (some t, sc) => do
      set { p with scanner := sc, token := some t }
      pure t

def skipToken : ParseM α Unit := modify fun p => { p with token := none }

def takeToken : ParseM α Token := do
  let t ← peekToken
  skipToken
  pure t

def pushStage (s : Stage) : ParseM α Unit := modify fun p => { p with stages := s :: p.stages }

def popStage : ParseM α Unit := modify fun p =>
  match p.stages with
  | s :: rest => { p with stage := s, stages := rest }
  | [] => p

def setStage (s : Stage) : ParseM α Unit := modify fun p => { p with stage := s }

def parseFail {β : Type} (m : Mark) (info : String) : ParseM α β := throw ⟨m, info⟩

def emptyScalar : Event := .scalar "~" .plain 0 none

def isAny (t : Token) (kinds : List TokenKind) : Bool := kinds.contains t.kind

def registerAnchor (name : String) : ParseM α Nat := do
  let p ← get
  set { p with anchors := (name, p.anchorId) :: p.anchors, anchorId := p.anchorId + 1 }
  pure p.anchorId

/-- Read the start of the stream. -/
def parseStreamStart : ParseM α (Event × Mark) := do
  let t ← peekToken
  if t.kind = .streamStart then do
    setStage .implicitDocumentStart
    skipToken
    pure (.streamStart, t.mark)
  else parseFail t.mark "did not find expected <stream-start>"

/-- Skip directives, at most `fuel` of them. -/
def skipDirectives : Nat → ParseM α Unit
  | 0 => pure ()
  | fuel + 1 => do
    let t ← peekToken
    if isAny t [.versionDirective, .tagDirective] then do
      skipToken
      skipDirectives fuel
    else pure ()

/-- Skip document end markers, at most `fuel` of them. -/
def skipDocumentEnds : Nat → ParseM α Unit
  | 0 => pure ()
  | fuel + 1 => do
    let t ← peekToken
    if t.kind = .documentEnd then do
      skipToken
      skipDocumentEnds fuel
    else pure ()

def tokenBudget : ParseM α Nat := do
  let p ← get
  pure (p.scanner.input.size + p.scanner.tokens.size + 2)

/-- Read a document started by `---`, after its directives. -/
def explicitDocumentStart : ParseM α (Event × Mark) := do
  skipDirectives (← tokenBudget)
  let t ← peekToken
  if t.kind = .documentStart then do
    pushStage .documentEnd
    setStage .documentContent
    skipToken
    pure (.documentStart, t.mark)
  else parseFail t.mark "did not find expected <document start>"

/-- Read the start of a document, or the end of the stream. -/
def parseDocumentStart (implicit : Bool) : ParseM α (Event × Mark) := do
  if !implicit then skipDocumentEnds (← tokenBudget)
  let t ← peekToken
  if t.kind = .streamEnd then do
    setStage .finished
    skipToken
    pure (.streamEnd, t.mark)
  else if isAny t [.versionDirective, .tagDirective, .documentStart] then explicitDocumentStart
  else if implicit then do
    skipDirectives (← tokenBudget)
    pushStage .documentEnd
    setStage .blockNode
    pure (.documentStart, t.mark)
  else explicitDocumentStart

def parseDocumentEnd : ParseM α (Event × Mark) := do
  let t ← peekToken
  if t.kind = .documentEnd then skipToken
  setStage .documentStart
  pure (.documentEnd, t.mark)

/-! ## 2. Nodes -/

/-- The anchor and tag in front of a node, or the alias the node is. -/
def nodeProperties : ParseM α (Sum (Event × Mark) (Nat × Option (String × String))) := do
  let t ← peekToken
  match t.kind with
  | .alias name => do
    popStage
    skipToken
    match (← get).anchors.lookup name with
    | some id => pure (.inl (.alias id, t.mark))
    | none => parseFail t.mark "while parsing node, found unknown anchor"
  | .anchor name => do
    skipToken
    let id ← registerAnchor name
    let t2 ← peekToken
    match t2.kind with
    | .tag h s => do
      skipToken
      pure (.inr (id, some (h, s)))
    | _ => pure (.inr (id, none))
  | .tag h s => do
    skipToken
    let t2 ← peekToken
    match t2.kind with
    | .anchor name => do
      skipToken
      let id ← registerAnchor name
      pure (.inr (id, some (h, s)))
    | _ => pure (.inr (0, some (h, s)))
  | _ => pure (.inr (0, none))

/-- Read a node: in block context when `block`, and allowing a sequence of `-` entries at the
indentation of a mapping key when `indentless`. -/
def parseNode (block indentless : Bool) : ParseM α (Event × Mark) := do
  match ← nodeProperties with
  | .inl ev => pure ev
  | .inr (anchor, tag) =>
    let t ← peekToken
    match t.kind with
    | .blockEntry =>
      if indentless then do
        setStage .indentlessSequenceEntry
        pure (.sequenceStart anchor, t.mark)
      else if tag.isSome || anchor > 0 then do
        popStage
        pure (.scalar "" .plain anchor tag, t.mark)
      else parseFail t.mark "while parsing a node, did not find expected node content"
    | .scalar style v => do
      popStage
      skipToken
      pure (.scalar v style anchor tag, t.mark)
    | .flowSequenceStart => do
      setStage .flowSequenceFirstEntry
      pure (.sequenceStart anchor, t.mark)
    | .flowMappingStart => do
      setStage .flowMappingFirstKey
      pure (.mappingStart anchor, t.mark)
    | .blockSequenceStart =>
      if block then do
        setStage .blockSequenceFirstEntry
        pure (.sequenceStart anchor, t.mark)
      else if tag.isSome || anchor > 0 then do
        popStage
        pure (.scalar "" .plain anchor tag, t.mark)
      else parseFail t.mark "while parsing a node, did not find expected node content"
    | .blockMappingStart =>
      if block then do
        setStage .blockMappingFirstKey
        pure (.mappingStart anchor, t.mark)
      else if tag.isSome || anchor > 0 then do
        popStage
        pure (.scalar "" .plain anchor tag, t.mark)
      else parseFail t.mark "while parsing a node, did not find expected node content"
    | _ =>
      if tag.isSome || anchor > 0 then do
        popStage
        pure (.scalar "" .plain anchor tag, t.mark)
      else parseFail t.mark "while parsing a node, did not find expected node content"

/-- Read the content of an explicit document: a node, or an empty scalar when it has none. -/
def parseDocumentContent : ParseM α (Event × Mark) := do
  let t ← peekToken
  if isAny t [.versionDirective, .tagDirective, .documentStart, .documentEnd, .streamEnd] then do
    popStage
    pure (emptyScalar, t.mark)
  else parseNode true false

/-- Read an entry of a block sequence, or its end. -/
def parseBlockSequenceEntry (first : Bool) : ParseM α (Event × Mark) := do
  if first then do
    let _ ← peekToken
    skipToken
  let t ← peekToken
  match t.kind with
  | .blockEnd => do
    popStage
    skipToken
    pure (.sequenceEnd, t.mark)
  | .blockEntry => do
    skipToken
    let t2 ← peekToken
    if isAny t2 [.blockEntry, .blockEnd] then do
      setStage .blockSequenceEntry
      pure (emptyScalar, t2.mark)
    else do
      pushStage .blockSequenceEntry
      parseNode true false
  | _ => parseFail t.mark "while parsing a block collection, did not find expected '-' indicator"

/-- Read an entry of a sequence of `-` entries under a mapping key, or its end. -/
def parseIndentlessSequenceEntry : ParseM α (Event × Mark) := do
  let t ← peekToken
  if t.kind ≠ .blockEntry then do
    popStage
    pure (.sequenceEnd, t.mark)
  else do
    skipToken
    let t2 ← peekToken
    if isAny t2 [.blockEntry, .key, .value, .blockEnd] then do
      setStage .indentlessSequenceEntry
      pure (emptyScalar, t2.mark)
    else do
      pushStage .indentlessSequenceEntry
      parseNode true false

/-- Read a key of a block mapping, or its end. -/
def parseBlockMappingKey (first : Bool) : ParseM α (Event × Mark) := do
  if first then do
    let _ ← peekToken
    skipToken
  let t ← peekToken
  match t.kind with
  | .key => do
    skipToken
    let t2 ← peekToken
    if isAny t2 [.key, .value, .blockEnd] then do
      setStage .blockMappingValue
      pure (emptyScalar, t2.mark)
    else do
      pushStage .blockMappingValue
      parseNode true true
  | .value => do
    setStage .blockMappingValue
    pure (emptyScalar, t.mark)
  | .blockEnd => do
    popStage
    skipToken
    pure (.mappingEnd, t.mark)
  | _ => parseFail t.mark "while parsing a block mapping, did not find expected key"

/-- Read a value of a block mapping; a key without one has the empty scalar. -/
def parseBlockMappingValue : ParseM α (Event × Mark) := do
  let t ← peekToken
  if t.kind = .value then do
    skipToken
    let t2 ← peekToken
    if isAny t2 [.key, .value, .blockEnd] then do
      setStage .blockMappingKey
      pure (emptyScalar, t2.mark)
    else do
      pushStage .blockMappingKey
      parseNode true true
  else do
    setStage .blockMappingKey
    pure (emptyScalar, t.mark)

/-- Read a key of a flow mapping, or its end; entries after the first follow a `,`. -/
def parseFlowMappingKey (first : Bool) : ParseM α (Event × Mark) := do
  if first then do
    let _ ← peekToken
    skipToken
  let t ← peekToken
  if t.kind = .flowMappingEnd then do
    popStage
    skipToken
    pure (.mappingEnd, t.mark)
  else do
    if !first then do
      if t.kind = .flowEntry then skipToken
      else parseFail t.mark "while parsing a flow mapping, did not find expected ',' or '\x7d'"
    let t2 ← peekToken
    match t2.kind with
    | .key => do
      skipToken
      let t3 ← peekToken
      if isAny t3 [.value, .flowEntry, .flowMappingEnd] then do
        setStage .flowMappingValue
        pure (emptyScalar, t3.mark)
      else do
        pushStage .flowMappingValue
        parseNode false false
    | .value => do
      setStage .flowMappingValue
      pure (emptyScalar, t2.mark)
    | .flowMappingEnd => do
      popStage
      skipToken
      pure (.mappingEnd, t.mark)
    | _ => do
      pushStage .flowMappingEmptyValue
      parseNode false false

/-- Read a value of a flow mapping; with `empty`, the key stood alone and its value is empty. -/
def parseFlowMappingValue (empty : Bool) : ParseM α (Event × Mark) := do
  let t ← peekToken
  if empty then do
    setStage .flowMappingKey
    pure (emptyScalar, t.mark)
  else if t.kind = .value then do
    skipToken
    let t2 ← peekToken
    if isAny t2 [.flowEntry, .flowMappingEnd] then do
      setStage .flowMappingKey
      pure (emptyScalar, t.mark)
    else do
      pushStage .flowMappingKey
      parseNode false false
  else do
    setStage .flowMappingKey
    pure (emptyScalar, t.mark)

/-- Read an entry of a flow sequence, or its end; entries after the first follow a `,`. -/
def parseFlowSequenceEntry (first : Bool) : ParseM α (Event × Mark) := do
  if first then do
    let _ ← peekToken
    skipToken
  let t ← peekToken
  if t.kind = .flowSequenceEnd then do
    popStage
    skipToken
    pure (.sequenceEnd, t.mark)
  else do
    if !first then do
      if t.kind = .flowEntry then skipToken
      else parseFail t.mark "while parsing a flow sequence, expectd ',' or ']'"
    let t2 ← peekToken
    match t2.kind with
    | .flowSequenceEnd => do
      popStage
      skipToken
      pure (.sequenceEnd, t2.mark)
    | .key => do
      setStage .flowSequenceEntryMappingKey
      skipToken
      pure (.mappingStart 0, t2.mark)
    | _ => do
      pushStage .flowSequenceEntry
      parseNode false false

/-- Read the key of a one-pair mapping in a flow sequence. -/
def parseFlowSequenceEntryMappingKey : ParseM α (Event × Mark) := do
  let t ← peekToken
  if isAny t [.value, .flowEntry, .flowSequenceEnd] then do
    skipToken
    setStage .flowSequenceEntryMappingValue
    pure (emptyScalar, t.mark)
  else do
    pushStage .flowSequenceEntryMappingValue
    parseNode false false

/-- Read the value of a one-pair mapping in a flow sequence. -/
def parseFlowSequenceEntryMappingValue : ParseM α (Event × Mark) := do
  let t ← peekToken
  if t.kind = .value then do
    skipToken
    setStage .flowSequenceEntryMappingValue
    let t2 ← peekToken
    if isAny t2 [.flowEntry, .flowSequenceEnd] then do
      setStage .flowSequenceEntryMappingEnd
      pure (emptyScalar, t2.mark)
    else do
      pushStage .flowSequenceEntryMappingEnd
      parseNode false false
  else do
    setStage .flowSequenceEntryMappingEnd
    pure (emptyScalar, t.mark)

/-- The next event. Once the stream has ended, every further event is its end. -/
def nextEvent : ParseM α (Event × Mark) := do
  let p ← get
  match p.stage with
  | .streamStart => parseStreamStart
  | .implicitDocumentStart => parseDocumentStart true
  | .documentStart => parseDocumentStart false
  | .documentContent => parseDocumentContent
  | .documentEnd => parseDocumentEnd
  | .blockNode => parseNode true false
  | .blockMappingFirstKey => parseBlockMappingKey true
  | .blockMappingKey => parseBlockMappingKey false
  | .blockMappingValue => parseBlockMappingValue
  | .blockSequenceFirstEntry => parseBlockSequenceEntry true
  | .blockSequenceEntry => parseBlockSequenceEntry false
  | .flowSequenceFirstEntry => parseFlowSequenceEntry true
  | .flowSequenceEntry => parseFlowSequenceEntry false
  | .flowMappingFirstKey => parseFlowMappingKey true
  | .flowMappingKey => parseFlowMappingKey false
  | .flowMappingValue => parseFlowMappingValue false
  | .indentlessSequenceEntry => parseIndentlessSequenceEntry
  | .flowSequenceEntryMappingKey => parseFlowSequenceEntryMappingKey
  | .flowSequenceEntryMappingValue => parseFlowSequenceEntryMappingValue
  | .flowSequenceEntryMappingEnd => do
    setStage .flowSequenceEntry
    pure (.mappingEnd, p.scanner.mark)
  | .flowMappingEmptyValue => parseFlowMappingValue true
  | .finished => pure (.streamEnd, p.scanner.mark)

end Safekeep.Config.Yaml
