import Safekeep.Shell.Syntax

/-!
# Shell scripts: tokens

A script's text is cut into tokens: words, the operators `;` `;;` `&` `&&` `|` `||` `(` `)`,
line ends, redirection operators (`>`, `>>`, `>|`, `<`, `<>`, `>&`, `<&`) optionally preceded by
a single descriptor digit written right against them, and here-documents (`<<` or `<<-` with
their delimiter). Every token carries the number of the line it ends on.

Blanks separate tokens; a backslash before a line end joins two lines; `#` at the start of a
token comments out the rest of the line. Inside a word, single quotes keep everything up to the
next single quote, double quotes keep everything but `$` and the backquote, and a backslash (in
double quotes only before `$`, the backquote, `"`, `\` and a line end) protects the next
character. `$` starts a parameter expansion, `$(` a command substitution (its text runs up to
the parenthesis that closes it, found by reading the tokens inside), `$((` an arithmetic
expansion; a backquote starts a command substitution that runs to the next backquote not
protected by a backslash. A `~` starting a word starts a tilde prefix. A `$` that starts none
stands for itself.

The text of a here-document is the lines after the line that holds its operator, up to a line
equal to the delimiter (with leading tabs removed for `<<-`). When the delimiter has any
quoting the text is taken as it is; otherwise it is read like double-quoted text in which `"`
stands for itself.

Lexing stops at the first error; the tokens before it are kept, so that the commands before the
error still run.
-/

namespace Safekeep.Shell

/-- What a token is. -/
inductive Lexeme
  | word (w : Word)
  | op (s : String)
  | newline
  | redir (fd : Option Nat) (kind : RedirKind) (fromIn : Bool)
  -- A here-document with its text.
  | here (fd : Option Nat) (body : Word)
  -- A here-document whose text comes after the current line: the number of the here-document in the
  -- script.
  | hereAt (fd : Option Nat) (index : Nat)
  -- The point where the text stops making sense.
  | fault (msg : String)
  deriving Repr, Inhabited

/-- A token and the number of the line it ends on. -/
structure Token where
  lexeme : Lexeme
  line : Nat
  deriving Repr, Inhabited

/-- Where a text's lines start: its length, the offsets of its line ends, and the number of
its first line. -/
structure Lines where
  total : Nat
  breaks : List Nat
  first : Nat

def Lines.of (text : List Char) (first : Nat) : Lines :=
  let offsets := (text.zipIdx.filter (·.1 = '\n')).map (·.2)
  ⟨text.length, offsets, first⟩

def Lines.at (l : Lines) (rest : List Char) : Nat :=
  l.first + l.breaks.countP (· < l.total - rest.length)

def isMeta (c : Char) : Bool :=
  c = ' ' || c = '\t' || c = '\n' || c = ';' || c = '&' || c = '|' || c = '<' || c = '>' ||
  c = '(' || c = ')'

def isSpecialParam (c : Char) : Bool :=
  c = '@' || c = '*' || c = '#' || c = '?' || c = '$' || c = '!' || c = '-' || c.isDigit

def backquote : Char := '\x60'

/-- Add text to a word (kept in reverse), joining it to a text part of the same quoting before
it. -/
def pushText (acc : List Part) (s : String) (quoted : Bool) : List Part :=
  match acc with
  | .text t q :: rest => if q = quoted then .text (t ++ s) q :: rest else .text s quoted :: acc
  | _ => .text s quoted :: acc

/-- Mark every part of a word as quoted. -/
def quoteAll : Word → Word
  | [] => []
  | .text s _ :: rest => .text s true :: quoteAll rest
  | .param n _ :: rest => .param n true :: quoteAll rest
  | .length n _ :: rest => .length n true :: quoteAll rest
  | .trim n s l p _ :: rest => .trim n s l p true :: quoteAll rest
  | .alt n h c w _ :: rest => .alt n h c w true :: quoteAll rest
  | .subst src l _ :: rest => .subst src l true :: quoteAll rest
  | .arith e _ :: rest => .arith e true :: quoteAll rest
  | .tilde u :: rest => .text ("~" ++ u) true :: quoteAll rest
  | .malformed :: rest => .malformed :: quoteAll rest

def spanName (cs : List Char) : String × List Char :=
  (String.ofList (cs.takeWhile isNameChar), cs.dropWhile isNameChar)

/-- The operator of a braced expansion after its name, and what follows it: a removal
(suffix, longest), a conditional form (how, colon), or the closing brace. -/
def braceOp : List Char → Option ((Option (Bool × Bool) ⊕ (Alt × Bool)) × List Char)
  | '#' :: '#' :: rest => some (.inl (some (false, true)), rest)
  | '#' :: rest => some (.inl (some (false, false)), rest)
  | '%' :: '%' :: rest => some (.inl (some (true, true)), rest)
  | '%' :: rest => some (.inl (some (true, false)), rest)
  | ':' :: '-' :: rest => some (.inr (.useDefault, true), rest)
  | ':' :: '=' :: rest => some (.inr (.assign, true), rest)
  | ':' :: '+' :: rest => some (.inr (.useAlt, true), rest)
  | ':' :: '?' :: rest => some (.inr (.require, true), rest)
  | '-' :: rest => some (.inr (.useDefault, false), rest)
  | '=' :: rest => some (.inr (.assign, false), rest)
  | '+' :: rest => some (.inr (.useAlt, false), rest)
  | '?' :: rest => some (.inr (.require, false), rest)
  | '}' :: rest => some (.inl none, rest)
  | _ => none

/-- The redirection operator at the front of some characters: its kind, whether it reads
(for the default descriptor), and what follows it. -/
def redirOp : List Char → Option (RedirKind × Bool × List Char)
  | '>' :: '>' :: rest => some (.append, false, rest)
  | '>' :: '|' :: rest => some (.write, false, rest)
  | '>' :: '&' :: rest => some (.dup, false, rest)
  | '<' :: '&' :: rest => some (.dup, true, rest)
  | '<' :: '>' :: rest => some (.readWrite, true, rest)
  | '>' :: rest => some (.write, false, rest)
  | '<' :: rest => some (.read, true, rest)
  | _ => none

/-- Where a word is being read: at the top of a command, or inside the braces of an
expansion (itself inside double quotes or not). -/
inductive WordMode
  | plain
  | brace (dq : Bool)
  deriving DecidableEq

/-- A here-document waiting for its text: its number, delimiter, whether leading tabs go, and
whether the delimiter was quoted. -/
structure PendingHere where
  index : Nat
  delimiter : String
  strip : Bool
  quoted : Bool

/-- The state of reading tokens: the tokens so far (last first), the here-documents waiting
for their text, the texts read, the number of here-documents seen, and, inside a command
substitution, the open parentheses and `case` commands. -/
structure Scan where
  toks : List Token
  pending : List PendingHere
  bodies : List (Nat × Word)
  count : Nat
  depth : Nat
  cases : Nat

def Scan.empty : Scan := ⟨[], [], [], 0, 0, 0⟩

def Scan.push (s : Scan) (l : Lexeme) (line : Nat) : Scan := { s with toks := ⟨l, line⟩ :: s.toks }

/-- The text a quoted here-document delimiter stands for: quotes and protecting backslashes
removed. -/
def delimiterText : List Char → List Char
  | [] => []
  | '\\' :: c :: rest => c :: delimiterText rest
  | '\'' :: rest => delimiterText rest
  | '"' :: rest => delimiterText rest
  | c :: rest => c :: delimiterText rest

/-- The lines of a here-document up to its delimiter line: the lines (leading tabs removed when
`strip`) and the characters after the delimiter line. -/
def hereLines : Nat → List Char → String → Bool → List String → List String × List Char
  | 0, cs, _, _, acc => (acc.reverse, cs)
  | fuel + 1, cs, delim, strip, acc =>
    if cs.isEmpty then (acc.reverse, [])
    else
      let line := cs.takeWhile (· ≠ '\n')
      let rest := (cs.dropWhile (· ≠ '\n')).drop 1
      let line := if strip then line.dropWhile (· = '\t') else line
      if String.ofList line = delim then (acc.reverse, rest)
      else hereLines fuel rest delim strip (String.ofList line :: acc)

/-- The text of a backquoted command up to its closing backquote, with the backslashes that
protect `$`, the backquote and `\` (and `"` inside double quotes) removed, and what follows. -/
def backquoteBody : List Char → Bool → List Char → Option (String × List Char)
  | [], _, _ => none
  | c :: rest, dq, acc =>
    if c = backquote then some (String.ofList acc.reverse, rest)
    else if c = '\\' then
      match rest with
      | d :: more =>
        if d = '$' ∨ d = backquote ∨ d = '\\' ∨ (dq ∧ d = '"') then backquoteBody more dq (d :: acc)
        else if d = '\n' then backquoteBody more dq acc
        else backquoteBody more dq (d :: '\\' :: acc)
      | [] => backquoteBody [] dq ('\\' :: acc)
    else backquoteBody rest dq (c :: acc)

/-- A tilde prefix at the start of a word: `~` and a user name running up to a `/` or the
end of the word; gives what follows it and the word so far. -/
def tildePrefix (cs : List Char) : List Char × List Part :=
  match cs with
  | '~' :: more =>
    let user := more.takeWhile fun c => isNameChar c || c = '.' || c = '-'
    let after := more.drop user.length
    match after with
    | [] => (after, [.tilde (String.ofList user)])
    | c :: _ => if c = '/' ∨ isMeta c then (after, [.tilde (String.ofList user)]) else (cs, [])
  | _ => (cs, [])

def unexpectedAt (cs : List Char) : String :=
  match cs with
  | '\n' :: _ | [] => "newline unexpected"
  | c :: _ => "\"" ++ String.singleton c ++ "\" unexpected"

mutual

/-- Read word parts up to an unquoted character that ends the word (or, inside braces, up to
the closing brace), giving the parts and the rest. -/
def lexWord : Nat → Lines → List Char → WordMode → List Part → Except String (Word × List Char)
  | 0, _, _, _, _ => .error "nesting too deep"
  | fuel + 1, L, cs, mode, acc =>
    match cs with
    | [] => if mode = .plain then .ok (acc.reverse, []) else .error "Missing '\x7d'"
    | c :: rest =>
      let dq := mode = .brace true
      if mode ≠ .plain ∧ c = '}' then .ok (acc.reverse, cs)
      else if mode = .plain ∧ isMeta c then .ok (acc.reverse, cs)
      else if c = '\'' ∧ ¬dq then
        let body := rest.takeWhile (· ≠ '\'')
        match rest.dropWhile (· ≠ '\'') with
        | [] => .error "Unterminated quoted string"
        | _ :: after => lexWord fuel L after mode (pushText acc (String.ofList body) true)
      else if c = '"' then
        match lexDouble fuel L rest [] with
        | .ok (parts, after) =>
          let acc' := if parts.isEmpty then pushText acc "" true else parts.reverse ++ acc
          lexWord fuel L after mode acc'
        | .error e => .error e
      else if c = '\\' then
        match rest with
        | '\n' :: after => lexWord fuel L after mode acc
        | d :: after =>
          if dq ∧ ¬(d = '$' ∨ d = backquote ∨ d = '"' ∨ d = '\\' ∨ d = '}') then
            lexWord fuel L after mode (pushText acc (String.ofList ['\\', d]) true)
          else lexWord fuel L after mode (pushText acc (String.singleton d) true)
        | [] => .ok ((pushText acc "\\" false).reverse, [])
      else if c = '$' then
        match lexDollar fuel L rest dq with
        | .ok (p, after) => lexWord fuel L after mode (p :: acc)
        | .error e => .error e
      else if c = backquote then
        match backquoteBody rest dq [] with
        | some (src, after) => lexWord fuel L after mode (.subst src (L.at rest) dq :: acc)
        | none => .error "EOF in backquote substitution"
      else lexWord fuel L rest mode (pushText acc (String.singleton c) dq)

/-- Read the inside of double quotes, giving the parts and what follows the closing quote. -/
def lexDouble : Nat → Lines → List Char → List Part → Except String (Word × List Char)
  | 0, _, _, _ => .error "nesting too deep"
  | fuel + 1, L, cs, acc =>
    match cs with
    | [] => .error "Unterminated quoted string"
    | '"' :: rest => .ok (acc.reverse, rest)
    | '\\' :: d :: rest =>
      if d = '\n' then lexDouble fuel L rest acc
      else if d = '$' ∨ d = '"' ∨ d = '\\' ∨ d = backquote then
        lexDouble fuel L rest (pushText acc (String.singleton d) true)
      else lexDouble fuel L rest (pushText acc (String.ofList ['\\', d]) true)
    | '$' :: rest =>
      match lexDollar fuel L rest true with
      | .ok (p, after) => lexDouble fuel L after (p :: acc)
      | .error e => .error e
    | c :: rest =>
      if c = backquote then
        match backquoteBody rest true [] with
        | some (src, after) => lexDouble fuel L after (.subst src (L.at rest) true :: acc)
        | none => .error "EOF in backquote substitution"
      else lexDouble fuel L rest (pushText acc (String.singleton c) true)

/-- Read the text of a here-document whose delimiter was not quoted. -/
def lexHereText : Nat → Lines → List Char → List Part → Except String Word
  | 0, _, _, _ => .error "nesting too deep"
  | fuel + 1, L, cs, acc =>
    match cs with
    | [] => .ok acc.reverse
    | '\\' :: d :: rest =>
      if d = '\n' then lexHereText fuel L rest acc
      else if d = '$' ∨ d = '\\' ∨ d = backquote then
        lexHereText fuel L rest (pushText acc (String.singleton d) true)
      else lexHereText fuel L (d :: rest) (pushText acc "\\" true)
    | '$' :: rest =>
      match lexDollar fuel L rest true with
      | .ok (p, after) => lexHereText fuel L after (p :: acc)
      | .error e => .error e
    | c :: rest =>
      if c = backquote then
        match backquoteBody rest true [] with
        | some (src, after) => lexHereText fuel L after (.subst src (L.at rest) true :: acc)
        | none => .error "EOF in backquote substitution"
      else lexHereText fuel L rest (pushText acc (String.singleton c) true)

/-- Read what follows a `$`. -/
def lexDollar : Nat → Lines → List Char → Bool → Except String (Part × List Char)
  | 0, _, _, _ => .error "nesting too deep"
  | fuel + 1, L, cs, quoted =>
    match cs with
    | '{' :: rest => lexBraced fuel L rest quoted
    | '(' :: '(' :: rest =>
      match lexArith fuel L rest 0 [] with
      | .ok (w, after) => .ok (.arith w quoted, after)
      | .error e => .error e
    | '(' :: rest =>
      match scanTokens fuel L rest true Scan.empty with
      | (_, after, none) =>
        let used := rest.length - after.length - 1
        .ok (.subst (String.ofList (rest.take used)) (L.at rest) quoted, after)
      | (_, _, some e) => .error e
    | c :: rest =>
      if isNameStart c then
        let (n, after) := spanName (c :: rest)
        .ok (.param n quoted, after)
      else if isSpecialParam c then .ok (.param (String.singleton c) quoted, rest)
      else .ok (.text "$" quoted, c :: rest)
    | [] => .ok (.text "$" quoted, [])

/-- Read a braced expansion after `$\x7b`. -/
def lexBraced : Nat → Lines → List Char → Bool → Except String (Part × List Char)
  | 0, _, _, _ => .error "nesting too deep"
  | fuel + 1, L, cs, quoted =>
    let (isLength, cs) : Bool × List Char :=
      match cs with
      | '#' :: '}' :: _ => (false, cs)
      | '#' :: c :: rest => if isNameStart c ∨ isSpecialParam c then (true, c :: rest) else (false, cs)
      | _ => (false, cs)
    let (name, rest) : String × List Char :=
      match cs with
      | c :: more =>
        if isNameStart c then spanName cs
        else if c.isDigit then (String.ofList (cs.takeWhile Char.isDigit), cs.dropWhile Char.isDigit)
        else if isSpecialParam c then (String.singleton c, more)
        else ("", cs)
      | [] => ("", [])
    -- a malformed expansion reads on to its closing brace and fails when it is expanded
    let malformed (cs : List Char) : Except String (Part × List Char) :=
      match lexWord fuel L cs (.brace quoted) [] with
      | .ok (_, '}' :: after) => .ok (.malformed, after)
      | .ok _ => .error "Missing '\x7d'"
      | .error e => .error e
    if name = "" then malformed rest
    else if isLength then
      match rest with
      | '}' :: after => .ok (.length name quoted, after)
      | _ => malformed rest
    else
      match rest with
      | ':' :: '}' :: more =>
        -- the brace after the colon is taken as the operator, and a later one closes
        match lexWord fuel L more (.brace quoted) [] with
        | .ok (_, '}' :: after) => .ok (.param name quoted, after)
        | .ok _ => .error "Missing '\x7d'"
        | .error e => .error e
      | _ =>
      match braceOp rest with
      | none => malformed rest
      | some (.inl none, after) => .ok (.param name quoted, after)
      | some (op, after) =>
        -- a removal pattern reads as unquoted text even inside double quotes
        let mode : WordMode := match op with
          | .inl (some _) => .brace false
          | _ => .brace quoted
        match lexWord fuel L after mode [] with
        | .ok (w, '}' :: after) =>
          match op with
          | .inl (some (suffix, longest)) => .ok (.trim name suffix longest w quoted, after)
          | .inr (how, colon) => .ok (.alt name how colon (if quoted then quoteAll w else w) quoted, after)
          | .inl none => .ok (.param name quoted, after)
        | .ok _ => .error "Missing '\x7d'"
        | .error e => .error e

/-- Read the inside of an arithmetic expansion up to the `))` that closes it; `depth` counts
the parentheses open inside. -/
def lexArith : Nat → Lines → List Char → Nat → List Part → Except String (Word × List Char)
  | 0, _, _, _, _ => .error "nesting too deep"
  | fuel + 1, L, cs, depth, acc =>
    match cs with
    | [] => .error "Missing '))'"
    | '(' :: rest => lexArith fuel L rest (depth + 1) (pushText acc "(" true)
    | ')' :: rest =>
      match depth, rest with
      | 0, ')' :: after => .ok (acc.reverse, after)
      | 0, _ => .error "Missing '))'"
      | d + 1, _ => lexArith fuel L rest d (pushText acc ")" true)
    | '\\' :: d :: rest =>
      if d = '\n' then lexArith fuel L rest depth acc
      else if d = '$' ∨ d = '"' ∨ d = '\\' ∨ d = backquote then
        lexArith fuel L rest depth (pushText acc (String.singleton d) true)
      else lexArith fuel L rest depth (pushText acc (String.ofList ['\\', d]) true)
    | '$' :: rest =>
      match lexDollar fuel L rest true with
      | .ok (p, after) => lexArith fuel L after depth (p :: acc)
      | .error e => .error e
    | '"' :: rest =>
      match lexDouble fuel L rest [] with
      | .ok (parts, after) => lexArith fuel L after depth (parts.reverse ++ acc)
      | .error e => .error e
    | c :: rest =>
      if c = backquote then
        match backquoteBody rest true [] with
        | some (src, after) => lexArith fuel L after depth (.subst src (L.at rest) true :: acc)
        | none => .error "EOF in backquote substitution"
      else lexArith fuel L rest depth (pushText acc (String.singleton c) true)

/-- Cut text into tokens. Inside a command substitution (`paren`) the scan stops after the
parenthesis that closes it. Gives the scan, the characters left and the error that stopped it,
if any. -/
def scanTokens : Nat → Lines → List Char → Bool → Scan → Scan × List Char × Option String
  | 0, _, cs, _, st => (st, cs, some "script too long")
  | fuel + 1, L, cs, paren, st =>
    let op (s : String) (rest : List Char) := scanTokens fuel L rest paren (st.push (.op s) (L.at rest))
    match cs with
    | [] =>
      if paren then (st, [], some "end of file unexpected (expecting \")\")")
      else (st, [], none)
    | ' ' :: rest | '\t' :: rest => scanTokens fuel L rest paren st
    | '\\' :: '\n' :: rest => scanTokens fuel L rest paren st
    | '#' :: rest => scanTokens fuel L (rest.dropWhile (· ≠ '\n')) paren st
    | '\n' :: rest =>
      let st := st.push .newline (L.at cs)
      match readBodies fuel L rest st.pending st with
      | .ok (st, rest) => scanTokens fuel L rest paren { st with pending := [] }
      | .error e => (st, rest, some e)
    | ';' :: ';' :: rest => op ";;" rest
    | ';' :: rest => op ";" rest
    | '&' :: '&' :: rest => op "&&" rest
    | '&' :: rest => op "&" rest
    | '|' :: '|' :: rest => op "||" rest
    | '|' :: rest => op "|" rest
    | '(' :: rest => scanTokens fuel L rest paren ({ st with depth := st.depth + 1 }.push (.op "(") (L.at rest))
    | ')' :: rest =>
      if paren ∧ st.depth = 0 ∧ st.cases = 0 then (st, rest, none)
      else scanTokens fuel L rest paren ({ st with depth := st.depth - 1 }.push (.op ")") (L.at rest))
    | '<' :: '<' :: rest => hereOp fuel L rest none paren st
    | c :: rest =>
      match redirOp (c :: rest) with
      | some (kind, fromIn, after) => scanTokens fuel L after paren (st.push (.redir none kind fromIn) (L.at after))
      | none =>
        let (start, acc0) := tildePrefix cs
        match lexWord fuel L start .plain acc0 with
        | .error e => (st, cs, some e)
        | .ok (w, after) =>
          let digit : Option Nat := match w with
            | [.text s false] => if s.length = 1 ∧ s.all Char.isDigit then s.toNat? else none
            | _ => none
          match digit, after with
          | some n, '<' :: '<' :: more => hereOp fuel L more (some n) paren st
          | some n, _ =>
            match redirOp after with
            | some (kind, fromIn, after') =>
              scanTokens fuel L after' paren (st.push (.redir (some n) kind fromIn) (L.at after'))
            | none => scanTokens fuel L after paren (st.push (.word w) (L.at after))
          | none, _ =>
            if after.length < cs.length then
              let st := match w with
                | [.text "case" false] => { st with cases := st.cases + 1 }
                | [.text "esac" false] => { st with cases := st.cases - 1 }
                | _ => st
              scanTokens fuel L after paren (st.push (.word w) (L.at after))
            else (st, cs, some "syntax error")

/-- Read a here-document operator after `<<`: an optional `-`, then the delimiter word. -/
def hereOp : Nat → Lines → List Char → Option Nat → Bool → Scan → Scan × List Char × Option String
  | 0, _, cs, _, _, st => (st, cs, some "script too long")
  | fuel + 1, L, cs, fd, paren, st =>
    let (strip, cs) := match cs with
      | '-' :: more => (true, more)
      | _ => (false, cs)
    let cs := cs.dropWhile fun c => c = ' ' || c = '\t'
    match lexWord fuel L cs .plain [] with
    | .error e => (st, cs, some e)
    | .ok (w, after) =>
      if w.isEmpty then (st, cs, some (unexpectedAt cs))
      else
        let raw := cs.take (cs.length - after.length)
        let quoted := raw.any fun c => c = '\'' || c = '"' || c = '\\'
        let pend : PendingHere := ⟨st.count, String.ofList (delimiterText raw), strip, quoted⟩
        let st := { st with pending := st.pending ++ [pend], count := st.count + 1 }
        scanTokens fuel L after paren (st.push (.hereAt fd pend.index) (L.at after))

/-- Read the texts of the waiting here-documents from the lines after the current one. -/
def readBodies : Nat → Lines → List Char → List PendingHere → Scan → Except String (Scan × List Char)
  | 0, _, _, _, _ => .error "script too long"
  | _, _, cs, [], st => .ok (st, cs)
  | fuel + 1, L, cs, h :: more, st =>
    let (lines, rest) := hereLines (cs.length + 1) cs h.delimiter h.strip []
    let text := String.join (lines.map (· ++ "\n"))
    let body : Except String Word :=
      if h.quoted then .ok [.text text true]
      else lexHereText fuel (Lines.of text.toList (L.at cs)) text.toList []
    match body with
    | .ok w => readBodies fuel L rest more { st with bodies := st.bodies ++ [(h.index, w)] }
    | .error e => .error e

end

def fillHere (bodies : List (Nat × Word)) (t : Token) : Token :=
  match t.lexeme with
  | .hereAt fd k => ⟨.here fd ((bodies.find? (·.1 == k)).map (·.2) |>.getD []), t.line⟩
  | _ => t

/-- The tokens of a script whose first line has number `first`, ending with a fault token
where the text stops making sense. -/
def tokenizeFrom (text : String) (first : Nat) : List Token :=
  let cs := text.toList
  let L := Lines.of cs first
  let (st, rest, err) := scanTokens (4 * (cs.length + 2)) L cs false Scan.empty
  let toks := st.toks.reverse.map (fillHere st.bodies)
  match err with
  | some e => toks ++ [⟨.fault e, L.at rest⟩]
  | none => toks

def tokenize (text : String) : List Token := tokenizeFrom text 1

end Safekeep.Shell
