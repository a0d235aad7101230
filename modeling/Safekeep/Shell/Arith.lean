/-!
# Shell scripts: arithmetic

The expressions of `$((…))`, over signed 64-bit words that wrap around.

An expression is read from tokens: numbers (decimal, octal after a leading `0`, hexadecimal
after `0x`; a number too large for a word is the largest word), variable names, and the
operators below. From loosest to tightest binding: assignment (`=` and the compound forms
`*= /= %= += -= <<= >>= &= ^= |=`, to the right), the conditional `?:`, `||`, `&&`, `|`, `^`,
`&`, `==` and `!=`, the comparisons, the shifts, `+` and `-`, then `*`, `/` and `%`, all
binary ones to the left; then the prefix operators `+ - ! ~` and parentheses. Comparisons and
logical operators give 1 or 0.

The right side of `&&` and `||` and the branch of `?:` not taken are read but not evaluated:
they neither assign nor look variables up nor fail on a zero divisor. A variable's value is
read as a number (blanks around it allowed, an empty or unset one is 0); any other text is an
illegal number. Division truncates toward zero and the remainder takes the dividend's sign; a
zero divisor is an error, and dividing the smallest word by -1 crashes the process. A shift
counts modulo 64.
-/

namespace Safekeep.Shell

/-- Why an arithmetic expression failed. -/
inductive ArithFault
  -- A token where the grammar wants something else.
  | malformed (what : String)
  -- A zero divisor.
  | divisionByZero
  -- A variable whose value is not a number.
  | illegalNumber (text : String)
  -- The smallest word divided by -1: the process dies of a floating-point exception.
  | overflowTrap
  deriving DecidableEq, Repr

/-- A token of an arithmetic expression. -/
inductive ArithTok
  | num (v : Int64)
  | name (s : String)
  | op (s : String)
  -- A character that starts no token.
  | bad
  deriving DecidableEq, Repr, Inhabited

def clampWord (v : Int) : Int64 :=
  if v > 9223372036854775807 then Int64.ofInt 9223372036854775807
  else if v < -9223372036854775808 then Int64.ofInt (-9223372036854775808)
  else Int64.ofInt v

def digitIn (base : Nat) (c : Char) : Option Nat :=
  let v := if '0' ≤ c ∧ c ≤ '9' then some (c.toNat - 48)
    else if 'a' ≤ c ∧ c ≤ 'z' then some (c.toNat - 87)
    else if 'A' ≤ c ∧ c ≤ 'Z' then some (c.toNat - 55)
    else none
  v.bind fun d => if d < base then some d else none

/-- Read digits of a base at the front: their value and what follows. -/
def spanBase (base : Nat) (cs : List Char) : Option Nat × List Char :=
  let ds := cs.takeWhile fun c => (digitIn base c).isSome
  if ds.isEmpty then (none, cs)
  else (some (ds.foldl (fun n c => base * n + (digitIn base c).getD 0) 0), cs.drop ds.length)

/-- Read an unsigned number at the front the way the system's integer reader does with base 0:
`0x` and hexadecimal digits, `0` and octal digits, or decimal digits; gives the value and what
follows, or none when no digit starts it. -/
def spanCNumber (cs : List Char) : Option (Nat × List Char) :=
  match cs with
  | '0' :: x :: rest =>
    if x = 'x' ∨ x = 'X' then
      match spanBase 16 rest with
      | (some v, after) => some (v, after)
      | (none, _) => some (0, x :: rest)
    else
      match spanBase 8 (x :: rest) with
      | (some v, after) => some (v, after)
      | (none, _) => some (0, x :: rest)
  | ['0'] => some (0, [])
  | _ =>
    match spanBase 10 cs with
    | (some v, after) => some (v, after)
    | (none, _) => none

def arithOps : List String :=
  ["<<=", ">>=", "||", "&&", "==", "!=", "<=", ">=", "<<", ">>", "+=", "-=", "*=", "/=", "%=",
   "&=", "^=", "|=", "+", "-", "*", "/", "%", "<", ">", "=", "!", "~", "&", "^", "|", "?", ":",
   "(", ")"]

/-- Cut an expression into tokens. -/
def arithTokens : Nat → List Char → List ArithTok
  | 0, _ => []
  | fuel + 1, cs =>
    match cs with
    | [] => []
    | c :: rest =>
      if c = ' ' ∨ c = '\t' ∨ c = '\n' then arithTokens fuel rest
      else if '0' ≤ c ∧ c ≤ '9' then
        match spanCNumber cs with
        | some (v, after) => .num (clampWord v) :: arithTokens fuel after
        | none => [.bad]
      else if c.isAlpha ∨ c = '_' then
        let name := cs.takeWhile fun d => d.isAlphanum || d = '_'
        .name (String.ofList name) :: arithTokens fuel (cs.drop name.length)
      else
        match arithOps.find? fun o => o.toList.isPrefixOf cs with
        | some o => .op o :: arithTokens fuel (cs.drop o.length)
        | none => [.bad]

/-- The binding level of a binary operator (0 binds tightest). -/
def binaryLevel : String → Option Nat
  | "*" | "/" | "%" => some 0
  | "+" | "-" => some 1
  | "<<" | ">>" => some 2
  | "<" | "<=" | ">" | ">=" => some 3
  | "==" | "!=" => some 4
  | "&" => some 5
  | "^" => some 6
  | "|" => some 7
  | _ => none

def truth (b : Bool) : Int64 := if b then 1 else 0

def wordMin : Int64 := Int64.ofInt (-9223372036854775808)

/-- Apply a binary operator. -/
def applyBinary (op : String) (a b : Int64) : Except ArithFault Int64 :=
  match op with
  | "*" => .ok (a * b)
  | "/" | "%" =>
    if b = 0 then .error .divisionByZero
    else if a = wordMin ∧ b = -1 then .error .overflowTrap
    else .ok (if op = "/" then a / b else a % b)
  | "+" => .ok (a + b)
  | "-" => .ok (a - b)
  | "<<" => .ok (a <<< b)
  | ">>" => .ok (a >>> b)
  | "<" => .ok (truth (a < b))
  | "<=" => .ok (truth (a ≤ b))
  | ">" => .ok (truth (a > b))
  | ">=" => .ok (truth (a ≥ b))
  | "==" => .ok (truth (a == b))
  | "!=" => .ok (truth (a != b))
  | "&" => .ok (a &&& b)
  | "^" => .ok (a ^^^ b)
  | "|" => .ok (a ||| b)
  | _ => .error (.malformed "expecting primary")

/-- Read a variable's value as a number: blanks around it allowed, empty is 0. -/
def numberValue (text : String) : Except ArithFault Int64 :=
  let isBlank (c : Char) := c = ' ' || c = '\t' || c = '\n' || c = '\r' || c.toNat = 11 || c.toNat = 12
  let cs := text.toList.dropWhile isBlank
  let (neg, body) : Bool × List Char := match cs with
    | '-' :: more => (true, more)
    | '+' :: more => (false, more)
    | _ => (false, cs)
  match spanCNumber body with
  | some (v, after) =>
    let value : Int := if neg then -(v : Int) else v
    if ¬after.all isBlank then .error (.illegalNumber text)
    else if value > 9223372036854775807 ∨ value < -9223372036854775808 then .error (.illegalNumber text)
    else .ok (Int64.ofInt value)
  | none => if body.isEmpty ∧ ¬neg ∧ cs.length = 0 then .ok 0 else .error (.illegalNumber text)

/-- What evaluation carries: the variables assigned so far (latest first). -/
abbrev Assigned := List (String × Int64)

def lookupWith (get : String → Option String) (env : Assigned) (name : String) :
    Except ArithFault Int64 :=
  match env.find? (·.1 == name) with
  | some (_, v) => .ok v
  | none => numberValue ((get name).getD "")

/-- What a step of evaluation gives: the value, the tokens left and the assignments. -/
abbrev ArithStep := Except ArithFault (Int64 × List ArithTok × Assigned)

mutual

/-- An assignment, or a conditional expression. -/
def evalAssign (get : String → Option String) : Nat → List ArithTok → Bool → Assigned → ArithStep
  | 0, _, _, _ => .error (.malformed "expression too deep")
  | fuel + 1, ts, skip, env =>
    match ts with
    | .name n :: .op o :: rest =>
      if o = "=" ∨ (o.endsWith "=" ∧ o ≠ "==" ∧ o ≠ "!=" ∧ o ≠ "<=" ∧ o ≠ ">=") then do
        let (v, rest, env) ← evalAssign get fuel rest skip env
        if skip then .ok (v, rest, env)
        else
          let v ← if o = "=" then .ok v
            else do
              let old ← lookupWith get env n
              applyBinary (String.ofList (o.toList.dropLast)) old v
          .ok (v, rest, (n, v) :: env)
      else evalCond get fuel ts skip env
    | _ => evalCond get fuel ts skip env

/-- A conditional expression `a ? b : c`. -/
def evalCond (get : String → Option String) : Nat → List ArithTok → Bool → Assigned → ArithStep
  | 0, _, _, _ => .error (.malformed "expression too deep")
  | fuel + 1, ts, skip, env => do
    let (a, rest, env) ← evalOr get fuel ts skip env
    match rest with
    | .op "?" :: rest => do
      let (b, rest, env) ← evalAssign get fuel rest (skip || a == 0) env
      match rest with
      | .op ":" :: rest => do
        let (c, rest, env) ← evalCond get fuel rest (skip || a != 0) env
        .ok (if a != 0 then b else c, rest, env)
      | _ => .error (.malformed "expecting ':'")
    | _ => .ok (a, rest, env)

/-- A chain of `||`. -/
def evalOr (get : String → Option String) : Nat → List ArithTok → Bool → Assigned → ArithStep
  | 0, _, _, _ => .error (.malformed "expression too deep")
  | fuel + 1, ts, skip, env => do
    let (a, rest, env) ← evalAnd get fuel ts skip env
    match rest with
    | .op "||" :: rest => do
      let (b, rest, env) ← evalOr get fuel rest (skip || a != 0) env
      .ok (truth (a != 0 || b != 0), rest, env)
    | _ => .ok (a, rest, env)

/-- A chain of `&&`. -/
def evalAnd (get : String → Option String) : Nat → List ArithTok → Bool → Assigned → ArithStep
  | 0, _, _, _ => .error (.malformed "expression too deep")
  | fuel + 1, ts, skip, env => do
    let (a, rest, env) ← evalBinary get fuel 7 ts skip env
    match rest with
    | .op "&&" :: rest => do
      let (b, rest, env) ← evalAnd get fuel rest (skip || a == 0) env
      .ok (truth (a != 0 && b != 0), rest, env)
    | _ => .ok (a, rest, env)

/-- Binary operators of binding level `level` and tighter, to the left. -/
def evalBinary (get : String → Option String) : Nat → Nat → List ArithTok → Bool → Assigned → ArithStep
  | 0, _, _, _, _ => .error (.malformed "expression too deep")
  | fuel + 1, level, ts, skip, env => do
    let (a, rest, env) ←
      match level with
      | 0 => evalUnary get fuel ts skip env
      | l + 1 => evalBinary get fuel l ts skip env
    binaryRest get fuel level a rest skip env

/-- The operands after the first of a chain of binary operators at one level. -/
def binaryRest (get : String → Option String) : Nat → Nat → Int64 → List ArithTok → Bool → Assigned → ArithStep
  | 0, _, _, _, _, _ => .error (.malformed "expression too deep")
  | fuel + 1, level, a, ts, skip, env =>
    match ts with
    | .op o :: rest =>
      if binaryLevel o = some level then do
        let (b, rest, env) ←
          match level with
          | 0 => evalUnary get fuel rest skip env
          | l + 1 => evalBinary get fuel l rest skip env
        let v ← if skip then .ok b else applyBinary o a b
        binaryRest get fuel level v rest skip env
      else .ok (a, ts, env)
    | _ => .ok (a, ts, env)

/-- A prefix operator, a parenthesized expression, a number or a variable. -/
def evalUnary (get : String → Option String) : Nat → List ArithTok → Bool → Assigned → ArithStep
  | 0, _, _, _ => .error (.malformed "expression too deep")
  | fuel + 1, ts, skip, env =>
    match ts with
    | .op "(" :: rest => do
      let (v, rest, env) ← evalAssign get fuel rest skip env
      match rest with
      | .op ")" :: rest => .ok (v, rest, env)
      | _ => .error (.malformed "expecting ')'")
    | .num v :: rest => .ok (v, rest, env)
    | .name n :: rest =>
      if skip then .ok (0, rest, env)
      else do
        let v ← lookupWith get env n
        .ok (v, rest, env)
    | .op "+" :: rest => evalUnary get fuel rest skip env
    | .op "-" :: rest => do
      let (v, rest, env) ← evalUnary get fuel rest skip env
      .ok (-v, rest, env)
    | .op "!" :: rest => do
      let (v, rest, env) ← evalUnary get fuel rest skip env
      .ok (truth (v == 0), rest, env)
    | .op "~" :: rest => do
      let (v, rest, env) ← evalUnary get fuel rest skip env
      .ok (~~~v, rest, env)
    | _ => .error (.malformed "expecting primary")

end

/-- Evaluate an expression, variables read with `get`: the value and the assignments made, in
the order they were made. -/
def evalArith (get : String → Option String) (text : String) : Except ArithFault (Int64 × List (String × Int64)) := do
  let ts := arithTokens (text.length + 1) text.toList
  let (v, rest, env) ← evalAssign get (4 * ts.length + 8) ts false []
  if rest.isEmpty then .ok (v, env.reverse) else .error (.malformed "expecting EOF")

def ArithFault.message (text : String) : ArithFault → String
  | .malformed what => "arithmetic expression: " ++ what ++ ": \"" ++ text ++ "\""
  | .divisionByZero => "arithmetic expression: division by zero: \"" ++ text ++ "\""
  | .illegalNumber s => "Illegal number: " ++ s
  | .overflowTrap => "Floating point exception"

end Safekeep.Shell
