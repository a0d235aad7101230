import Safekeep.Shell.Lex

/-!
# Shell scripts: grammar

Tokens are read into commands by the shell grammar. A script is a series of complete commands,
each ended by a line end: the shell reads one, runs it, then reads the next, so a syntax error
stops the script only when it is reached.

A list is and-or lists separated by `;`, `&` or line ends (an and-or list followed by `&` goes
to the background); an and-or list is pipelines joined by `&&` and `||`; a pipeline is commands
joined by `|`, negated by a leading `!`. A command is a compound command (`\x7b … \x7d`,
`( … )`, `for`, `case`, `if`, `while`, `until`) with optional redirections, the definition of a
function (`name ( )` and a command), or a simple command: assignments `name=value` before the
first word, then words and redirections in any order. Reserved words count only where a command
may start, or where the grammar expects them.

A syntax error names the token that cannot stand where it is ("`"fi" unexpected`", "`end of
file unexpected (expecting "done")`") and the line it is on.
-/

namespace Safekeep.Shell

/-- A syntax error: what is wrong, and the line where it shows (0 for the end of the text). -/
structure SyntaxFault where
  message : String
  line : Nat
  deriving Repr

def closers : List String := ["then", "else", "elif", "fi", "do", "done", "esac", "\x7d"]

def Token.isWord (w : String) (t : Token) : Bool :=
  match t.lexeme with
  | .word x => x.plain? == some w
  | _ => false

def Token.isOp (s : String) (t : Token) : Bool :=
  match t.lexeme with
  | .op x => x == s
  | _ => false

def Token.isNewline (t : Token) : Bool :=
  match t.lexeme with
  | .newline => true
  | _ => false

/-- Whether a token ends a list. -/
def Token.closes (t : Token) : Bool :=
  match t.lexeme with
  | .word x => match x.plain? with
    | some s => closers.contains s
    | none => false
  | .op ")" | .op ";;" => true
  | _ => false

def skipNewlines : List Token → List Token
  | t :: rest => if t.isNewline then skipNewlines rest else t :: rest
  | [] => []

def Word.render (w : Word) : String :=
  String.join (w.map fun p => match p with
    | .text s _ => s
    | .param n _ => "$" ++ n
    | .tilde u => "~" ++ u
    | _ => "$")

/-- The operator text of a redirection. -/
def redirText : RedirKind → Bool → String
  | .write, _ => ">"
  | .append, _ => ">>"
  | .read, _ => "<"
  | .readWrite, _ => "<>"
  | .dup, fromIn => if fromIn then "<&" else ">&"
  | .here, _ => "<<"

/-- How a message names a token. -/
def Token.describe (t : Token) : String :=
  match t.lexeme with
  | .word w => "\"" ++ w.render ++ "\""
  | .op s => "\"" ++ s ++ "\""
  | .newline => "newline"
  | .redir _ k fromIn => "\"" ++ redirText k fromIn ++ "\""
  | .here _ _ | .hereAt _ _ => "\"<<\""
  | .fault m => m

def unexpected : List Token → SyntaxFault
  | [] => ⟨"end of file unexpected", 0⟩
  | t :: _ =>
    match t.lexeme with
    | .fault m => ⟨m, t.line⟩
    | _ => ⟨t.describe ++ " unexpected", t.line⟩

def expecting (what : String) : List Token → SyntaxFault
  | [] => ⟨"end of file unexpected (expecting \"" ++ what ++ "\")", 0⟩
  | t :: _ =>
    match t.lexeme with
    | .fault m => ⟨m, t.line⟩
    | _ => ⟨t.describe ++ " unexpected (expecting \"" ++ what ++ "\")", t.line⟩

/-- The error when the nesting of a script passes the parser's bound. -/
def tooDeep : SyntaxFault := ⟨"script too deep", 0⟩

/-- The parts of an unquoted text in an assignment's value, its tilde prefixes read: one starts
the value (`atStart`) or follows a `:`, and runs to a `/`, a `:` or the end of the value; one
that runs into another part (this text is not `last`) stays literal. -/
def tildeParts (cs : List Char) (atStart last : Bool) : Word :=
  let flush (acc : List Char) : Word := if acc.isEmpty then [] else [.text (String.ofList acc) false]
  let rec go : Nat → List Char → Bool → List Char → Word
    | 0, cs, _, acc => flush (acc ++ cs)
    | fuel + 1, cs, here, acc =>
      match cs with
      | [] => flush acc
      | '~' :: more =>
        let user := more.takeWhile fun c => c ≠ '/' && c ≠ ':'
        let after := more.drop user.length
        if here ∧ ¬(after.isEmpty ∧ ¬last) then
          flush acc ++ [.tilde (String.ofList user)] ++ go fuel after false []
        else go fuel more false (acc ++ ['~'])
      | c :: more => go fuel more (c = ':') (acc ++ [c])
  go (cs.length + 1) cs atStart []

def valueTildes : Word → Bool → Word
  | [], _ => []
  | .text s false :: more, atStart => tildeParts s.toList atStart more.isEmpty ++ valueTildes more (s.endsWith ":")
  | p :: more, _ => p :: valueTildes more false

/-- The value of an assignment: its first text and the parts after it, tilde prefixes read. -/
def assignedValue (value : String) (rest : Word) : Word := valueTildes (.text value false :: rest) true

/-- Split an assignment word `name=value` into its name and value. -/
def assignment? (w : Word) : Option (String × Word) :=
  match w with
  | .text s false :: rest =>
    let cs := s.toList
    let name := String.ofList (cs.takeWhile (· ≠ '='))
    if cs.contains '=' ∧ isName name then
      some (name, assignedValue (String.ofList ((cs.dropWhile (· ≠ '=')).drop 1)) rest)
    else none
  | _ => none

/-- Read the word a redirection names. -/
def redirTarget (fd : Option Nat) (kind : RedirKind) (fromIn : Bool) :
    List Token → Except SyntaxFault (Redir × List Token)
  | t :: rest =>
    match t.lexeme with
    | .word w =>
      let r : Redir := ⟨fd.getD (if fromIn then 0 else 1), kind, w⟩
      match kind, w.plain? with
      | .dup, some s =>
        if s = "-" ∨ (s.length = 1 ∧ s.all Char.isDigit) then .ok (r, rest)
        else .error ⟨"Bad fd number", t.line⟩
      | _, _ => .ok (r, rest)
    | _ => .error (unexpected (t :: rest))
  | [] => .error (unexpected [])

/-- Read one redirection at the front, if there is one. -/
def redirAt (ts : List Token) : Option (Except SyntaxFault (Redir × List Token)) :=
  match ts with
  | t :: rest =>
    match t.lexeme with
    | .redir fd kind fromIn => some (redirTarget fd kind fromIn rest)
    | .here fd body => some (.ok (⟨fd.getD 0, .here, body⟩, rest))
    | _ => none
  | [] => none

/-- Read the redirections that follow a compound command. -/
def trailingRedirs : Nat → List Token → Except SyntaxFault (List Redir × List Token)
  | 0, _ => .error tooDeep
  | fuel + 1, ts =>
    match redirAt ts with
    | some (.ok (r, rest)) => do
      let (rs, rest) ← trailingRedirs fuel rest
      .ok (r :: rs, rest)
    | some (.error e) => .error e
    | none => .ok ([], ts)

/-- Read the rest of a simple command: words and redirections, the assignments before the first
word apart. -/
def simpleRest : Nat → Nat → List Token → List (String × Word) → List Word → List Redir →
    Except SyntaxFault (Cmd × List Token)
  | 0, _, _, _, _, _ => .error tooDeep
  | fuel + 1, line, ts, assigns, words, redirs =>
    let finish : Except SyntaxFault (Cmd × List Token) :=
      if assigns.isEmpty ∧ words.isEmpty ∧ redirs.isEmpty then .error (unexpected ts)
      else .ok (.simple line assigns words redirs, ts)
    match ts with
    | t :: rest =>
      match t.lexeme with
      | .word w =>
        match words, assignment? w with
        | [], some a => simpleRest fuel line rest (assigns ++ [a]) words redirs
        | _, _ => simpleRest fuel line rest assigns (words ++ [w]) redirs
      | _ =>
        match redirAt ts with
        | some (.ok (r, rest)) => simpleRest fuel line rest assigns words (redirs ++ [r])
        | some (.error e) => .error e
        | none => finish
    | [] => finish

def expectWord (w : String) (ts : List Token) : Except SyntaxFault (List Token) :=
  match ts with
  | t :: rest => if t.isWord w then .ok rest else .error (expecting w ts)
  | [] => .error (expecting w [])

/-- The words of a `for` loop after `in`, up to the `;` or line end that ends them. -/
def forWords : List Token → List Word × List Token
  | t :: rest =>
    match t.lexeme with
    | .word w => let (ws, after) := forWords rest; (w :: ws, after)
    | _ => ([], t :: rest)
  | [] => ([], [])

mutual

/-- Read a list up to a token that closes it. -/
def parseList : Nat → List Token → Except SyntaxFault (Cmd × List Token)
  | 0, _ => .error tooDeep
  | fuel + 1, ts => do
    let ts := skipNewlines ts
    let (first, rest) ← parseAndOr fuel ts
    let (cs, rest) ← listRest fuel first rest
    .ok (match cs with
      | [c] => c
      | _ => .seq cs, rest)

/-- Read the and-or lists after the current one of a list; `&` after one sends it to the
background. -/
def listRest : Nat → Cmd → List Token → Except SyntaxFault (List Cmd × List Token)
  | 0, _, _ => .error tooDeep
  | fuel + 1, cur, ts =>
    match ts with
    | t :: rest =>
      if t.isOp ";" ∨ t.isOp "&" ∨ t.isNewline then
        let cur := if t.isOp "&" then Cmd.background cur else cur
        let rest := skipNewlines rest
        match rest with
        | [] => .ok ([cur], [])
        | u :: _ =>
          if u.closes then .ok ([cur], rest)
          else do
            let (c, rest) ← parseAndOr fuel rest
            let (cs, rest) ← listRest fuel c rest
            .ok (cur :: cs, rest)
      else .ok ([cur], ts)
    | [] => .ok ([cur], [])

def parseAndOr : Nat → List Token → Except SyntaxFault (Cmd × List Token)
  | 0, _ => .error tooDeep
  | fuel + 1, ts => do
    let (first, rest) ← parsePipeline fuel ts
    let (more, rest) ← andOrRest fuel rest
    .ok (if more.isEmpty then first else .andOr first more, rest)

/-- Read the pipelines after `&&` and `||`. -/
def andOrRest : Nat → List Token → Except SyntaxFault (List (Bool × Cmd) × List Token)
  | 0, _ => .error tooDeep
  | fuel + 1, ts =>
    match ts with
    | t :: rest =>
      if t.isOp "&&" ∨ t.isOp "||" then do
        let (c, rest) ← parsePipeline fuel (skipNewlines rest)
        let (cs, rest) ← andOrRest fuel rest
        .ok ((t.isOp "&&", c) :: cs, rest)
      else .ok ([], ts)
    | [] => .ok ([], [])

/-- Read a pipeline. -/
def parsePipeline : Nat → List Token → Except SyntaxFault (Cmd × List Token)
  | 0, _ => .error tooDeep
  | fuel + 1, ts => do
    let (bang, ts) := match ts with
      | t :: rest => if t.isWord "!" then (true, rest) else (false, ts)
      | [] => (false, ts)
    let (first, rest) ← parseCommand fuel ts
    let (more, rest) ← pipeRest fuel rest
    .ok (if more.isEmpty ∧ ¬bang then first else .pipe (first :: more) bang, rest)

/-- Read the commands after `|`. -/
def pipeRest : Nat → List Token → Except SyntaxFault (List Cmd × List Token)
  | 0, _ => .error tooDeep
  | fuel + 1, ts =>
    match ts with
    | t :: rest =>
      if t.isOp "|" then do
        let (c, rest) ← parseCommand fuel (skipNewlines rest)
        let (cs, rest) ← pipeRest fuel rest
        .ok (c :: cs, rest)
      else .ok ([], ts)
    | [] => .ok ([], [])

/-- Read one command. -/
def parseCommand : Nat → List Token → Except SyntaxFault (Cmd × List Token)
  | 0, _ => .error tooDeep
  | fuel + 1, ts =>
    match ts with
    | t :: rest =>
      match t.lexeme with
      | .op "(" => do
        let (body, rest) ← parseList fuel rest
        match rest with
        | u :: more =>
          if u.isOp ")" then do
            let (rs, more) ← trailingRedirs fuel more
            .ok (.group body true rs, more)
          else .error (expecting ")" rest)
        | [] => .error (expecting ")" [])
      | .word w =>
        match w.plain? with
        | some "\x7b" => do
          let (body, rest) ← parseList fuel rest
          let rest ← expectWord "\x7d" rest
          let (rs, rest) ← trailingRedirs fuel rest
          .ok (.group body false rs, rest)
        | some "if" => do
          let (c, rest) ← parseIf fuel rest
          let rest ← expectWord "fi" rest
          let (rs, rest) ← trailingRedirs fuel rest
          .ok (if rs.isEmpty then c else .group c false rs, rest)
        | some "while" => parseLoop fuel false rest
        | some "until" => parseLoop fuel true rest
        | some "for" => parseFor fuel t.line rest
        | some "case" => parseCase fuel t.line rest
        | some s =>
          if closers.contains s ∨ s = "in" ∨ s = "!" then .error (unexpected ts)
          else defunOrSimple fuel t w rest
        | none => defunOrSimple fuel t w rest
      | .redir _ _ _ | .here _ _ => simpleRest fuel t.line ts [] [] []
      | _ => .error (unexpected ts)
    | [] => .error (unexpected [])

/-- Read a function definition `name ( )` and its body, or else a simple command. -/
def defunOrSimple : Nat → Token → Word → List Token → Except SyntaxFault (Cmd × List Token)
  | 0, _, _, _ => .error tooDeep
  | fuel + 1, t, w, rest =>
    match rest with
    | u :: v :: more =>
      if u.isOp "(" ∧ v.isOp ")" then
        match w.plain? with
        | some name =>
          if isName name then do
            let (body, more) ← parseCommand fuel (skipNewlines more)
            .ok (.defun name v.line body, more)
          else .error ⟨"Bad function name", v.line⟩
        | none => .error ⟨"Bad function name", v.line⟩
      else simpleRest fuel t.line (t :: rest) [] [] []
    | _ => simpleRest fuel t.line (t :: rest) [] [] []

/-- Read an `if` after its first word, up to (not including) `fi`. -/
def parseIf : Nat → List Token → Except SyntaxFault (Cmd × List Token)
  | 0, _ => .error tooDeep
  | fuel + 1, ts => do
    let (cond, rest) ← parseList fuel ts
    let rest ← expectWord "then" rest
    let (body, rest) ← parseList fuel rest
    match rest with
    | t :: more =>
      if t.isWord "else" then do
        let (other, rest) ← parseList fuel more
        .ok (.ifThen [(cond, body)] (some other), rest)
      else if t.isWord "elif" then do
        let (inner, rest) ← parseIf fuel more
        match inner with
        | .ifThen branches other => .ok (.ifThen ((cond, body) :: branches) other, rest)
        | _ => .error (unexpected more)
      else .ok (.ifThen [(cond, body)] none, rest)
    | [] => .ok (.ifThen [(cond, body)] none, [])

/-- Read `do … done`. -/
def parseDoGroup : Nat → List Token → Except SyntaxFault (Cmd × List Token)
  | 0, _ => .error tooDeep
  | fuel + 1, ts => do
    let rest ← expectWord "do" (skipNewlines ts)
    let (body, rest) ← parseList fuel rest
    let rest ← expectWord "done" rest
    .ok (body, rest)

/-- Read a `while` or `until` loop after its first word. -/
def parseLoop : Nat → Bool → List Token → Except SyntaxFault (Cmd × List Token)
  | 0, _, _ => .error tooDeep
  | fuel + 1, untilLoop, ts => do
    let (cond, rest) ← parseList fuel ts
    let (body, rest) ← parseDoGroup fuel rest
    let (rs, rest) ← trailingRedirs fuel rest
    let c := Cmd.loop untilLoop cond body
    .ok (if rs.isEmpty then c else .group c false rs, rest)

/-- Read a `for` loop after its first word. -/
def parseFor : Nat → Nat → List Token → Except SyntaxFault (Cmd × List Token)
  | 0, _, _ => .error tooDeep
  | fuel + 1, line, ts =>
    match ts with
    | t :: rest =>
      let name? : Option String := match t.lexeme with
        | .word w => w.plain?
        | _ => none
      match name? with
      | some name =>
        if ¬isName name then .error ⟨"Bad for loop variable", t.line⟩
        else do
          let rest' := skipNewlines rest
          let (items, rest) ← match rest' with
            | u :: more =>
              if u.isWord "in" then
                let (ws, after) := forWords more
                match after with
                | v :: after' =>
                  if v.isOp ";" ∨ v.isNewline then .ok (some ws, after')
                  else .error (unexpected after)
                | [] => .error (unexpected [])
              else if u.isOp ";" then .ok (none, more)
              else .ok (none, rest')
            | [] => .ok (none, rest')
          let (body, rest) ← parseDoGroup fuel rest
          let (rs, rest) ← trailingRedirs fuel rest
          let c := Cmd.forIn line name items body
          .ok (if rs.isEmpty then c else .group c false rs, rest)
      | none => .error ⟨"Bad for loop variable", t.line⟩
    | [] => .error (unexpected [])

/-- Read a `case` after its first word. -/
def parseCase : Nat → Nat → List Token → Except SyntaxFault (Cmd × List Token)
  | 0, _, _ => .error tooDeep
  | fuel + 1, line, ts =>
    match ts with
    | t :: rest =>
      match t.lexeme with
      | .word subject => do
        let rest ← expectWord "in" (skipNewlines rest)
        let (arms, rest) ← caseArms fuel (skipNewlines rest)
        let (rs, rest) ← trailingRedirs fuel rest
        let c := Cmd.caseOf line subject arms
        .ok (if rs.isEmpty then c else .group c false rs, rest)
      | _ => .error (unexpected ts)
    | [] => .error (unexpected [])

/-- Read the arms of a `case` up to and including `esac`. -/
def caseArms : Nat → List Token → Except SyntaxFault (List (List Word × Cmd) × List Token)
  | 0, _ => .error tooDeep
  | fuel + 1, ts =>
    match ts with
    | t :: rest =>
      if t.isWord "esac" then .ok ([], rest)
      else do
        let ts := if t.isOp "(" then rest else ts
        let (pats, rest) ← casePatterns fuel ts
        let rest := skipNewlines rest
        let (body, rest) ← match rest with
          | u :: _ =>
            if u.isOp ";;" ∨ u.isWord "esac" then .ok (Cmd.seq [], rest) else parseList fuel rest
          | [] => .error (expecting "esac" [])
        match rest with
        | u :: more =>
          if u.isOp ";;" then do
            let (arms, rest) ← caseArms fuel (skipNewlines more)
            .ok ((pats, body) :: arms, rest)
          else if u.isWord "esac" then .ok ([(pats, body)], more)
          else .error (expecting "esac" rest)
        | [] => .error (expecting "esac" [])
    | [] => .error (expecting "esac" [])

/-- Read the patterns of a `case` arm up to and including `)`. -/
def casePatterns : Nat → List Token → Except SyntaxFault (List Word × List Token)
  | 0, _ => .error tooDeep
  | fuel + 1, ts =>
    match ts with
    | t :: u :: rest =>
      match t.lexeme with
      | .word w =>
        if u.isOp ")" then .ok ([w], rest)
        else if u.isOp "|" then do
          let (ws, rest) ← casePatterns fuel rest
          .ok (w :: ws, rest)
        else .error (expecting ")" (u :: rest))
      | _ => .error (unexpected ts)
    | _ => .error (unexpected ts)

end

/-- Read the and-or lists after `;` or `&` on the same line as a complete command. -/
def lineRest : Nat → Cmd → List Token → Except SyntaxFault (List Cmd × List Token)
  | 0, _, _ => .error tooDeep
  | fuel + 1, cur, ts =>
    match ts with
    | t :: rest =>
      if t.isOp ";" ∨ t.isOp "&" then
        let cur := if t.isOp "&" then Cmd.background cur else cur
        match rest with
        | [] => .ok ([cur], [])
        | u :: _ =>
          if u.isNewline then .ok ([cur], rest)
          else do
            let (c, rest) ← parseAndOr (8 * (rest.length + 2)) rest
            let (cs, rest) ← lineRest fuel c rest
            .ok (cur :: cs, rest)
      else .ok ([cur], ts)
    | [] => .ok ([cur], [])

/-- Read a script into its complete commands, stopping at the first syntax error. -/
def parseScript : Nat → List Token → List Cmd × Option SyntaxFault
  | 0, _ => ([], some tooDeep)
  | fuel + 1, ts =>
    match skipNewlines ts with
    | [] => ([], none)
    | ts =>
      let parsed : Except SyntaxFault (Cmd × List Token) := do
        let (first, rest) ← parseAndOr (8 * (ts.length + 2)) ts
        let (cs, rest) ← lineRest (rest.length + 1) first rest
        let c := match cs with
          | [c] => c
          | _ => .seq cs
        match rest with
        | [] => .ok (c, [])
        | t :: more => if t.isNewline then .ok (c, more) else .error (unexpected rest)
      match parsed with
      | .error e => ([], some e)
      | .ok (c, rest) =>
        let (cs, err) := parseScript fuel rest
        (c :: cs, err)

/-- The number of the line after the last one of a text whose first line has number
`first`. -/
def endLine (text : String) (first : Nat) : Nat := first + text.toList.count '\n'

/-- The complete commands of a script whose first line has number `first`, and the syntax
error that ends it, if any (at the end of the text when its line is 0). -/
def Script.parseFrom (text : String) (first : Nat) : List Cmd × Option SyntaxFault :=
  let ts := tokenizeFrom text first
  let (cs, err) := parseScript (ts.length + 1) ts
  (cs, err.map fun e => if e.line = 0 then { e with line := endLine text first } else e)

def Script.parse (text : String) : List Cmd × Option SyntaxFault := Script.parseFrom text 1

end Safekeep.Shell
