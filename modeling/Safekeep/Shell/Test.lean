import Safekeep.Disk.Ops

/-!
# Shell scripts: `test` and `[`

`test` evaluates an expression written as its arguments and succeeds (status 0) when it holds,
fails (1) when it does not, and gives 2 with a message when the expression is malformed.

With one to four arguments the meaning is fixed by their number: three arguments whose middle
one is a binary operator compare the other two; three or four arguments in parentheses, or
after a leading `!`, are read without them. Otherwise the arguments are read by a grammar:
`-o` binds loosest, then `-a`, then `!`, then a primary: a parenthesized expression, a unary
operator and its operand, an operand, a binary operator and a second operand, or a single
operand (true when it is not empty); a missing expression, or `()`, is false. A word counts
as a unary operator only when it is not the operand of a binary operator that follows, and `(`
only when something follows it. Both sides of `-a` and `-o` are always evaluated.

Unary operators test a string's length (`-z`, `-n`) or a file (`-e` exists, `-f` regular file,
`-d` directory, `-c` character device, `-s` not empty, `-h` and `-L` symbolic link, `-r`, `-w`,
`-x` may be read, written, run, and the mode bits `-u`, `-g`, `-k`); binary ones compare strings
(`=`, `!=`, `<`, `>` in byte order), integers (`-eq`, `-ne`, `-lt`, `-le`, `-gt`, `-ge`) or files
(`-nt` newer, `-ot` older, `-ef` the same file). An integer operand is a decimal number with
optional blanks around it and an optional sign, within 64 bits; anything else is an illegal
number.
-/

namespace Safekeep.Shell

/-- The kinds of operators of `test`. -/
inductive TestOpKind
  | unary
  | binary
  | bang
  | andOr
  | paren
  deriving DecidableEq

def testOps : List (String × TestOpKind) :=
  (["-r", "-w", "-x", "-e", "-f", "-d", "-c", "-b", "-p", "-u", "-g", "-k", "-s", "-t", "-z",
    "-n", "-h", "-O", "-G", "-L", "-S"].map (·, TestOpKind.unary)) ++
  (["=", "!=", "<", ">", "-eq", "-ne", "-ge", "-gt", "-le", "-lt", "-nt", "-ot", "-ef"].map
    (·, TestOpKind.binary)) ++
  [("!", .bang), ("-a", .andOr), ("-o", .andOr), ("(", .paren), (")", .paren)]

def testOp? (s : String) : Option TestOpKind := (testOps.find? (·.1 == s)).map (·.2)

/-- A token of `test`: the end of the arguments, an operand, or an operator. -/
inductive TestTok
  | eoi
  | operand
  | op (name : String) (kind : TestOpKind)
  deriving DecidableEq

/-- What `test` needs to know of the world: file tests and file comparisons. -/
structure TestWorld where
  file : String → String → Bool
  compare : String → String → String → Bool

/-- Whether the word at a position is the operand of a binary operator after it. -/
def isOperandAt (args : List String) (i : Nat) : Bool :=
  match args[i + 1]? with
  | none => true
  | some s =>
    match args[i + 2]? with
    | none => false
    | some _ => testOp? s == some .binary

/-- The token at a position. -/
def testLex (args : List String) (i : Nat) : TestTok :=
  match args[i]? with
  | none => .eoi
  | some s =>
    match testOp? s with
    | some k =>
      if k = .unary ∧ isOperandAt args i then .operand
      else if s = "(" ∧ (args[i + 1]?).isNone then .operand
      else .op s k
    | none => .operand

/-- A decimal integer operand: blanks around it allowed, an optional sign, within 64 bits. -/
def testNumber (s : String) : Except String Int :=
  let isBlank (c : Char) := c = ' ' || c = '\t' || c = '\n' || c = '\r' || c.toNat = 11 || c.toNat = 12
  let cs := s.toList.dropWhile isBlank
  let (neg, body) : Bool × List Char := match cs with
    | '-' :: more => (true, more)
    | '+' :: more => (false, more)
    | _ => (false, cs)
  let ds := body.takeWhile Char.isDigit
  if ds.isEmpty ∨ ¬(body.drop ds.length).all isBlank then .error ("Illegal number: " ++ s)
  else
    let v : Int := (String.ofList ds).toNat?.getD 0
    let v := if neg then -v else v
    if v > 9223372036854775807 ∨ v < -9223372036854775808 then .error ("Illegal number: " ++ s)
    else .ok v

/-- Apply a binary operator. -/
def testBinary (w : TestWorld) (op a b : String) : Except String Bool :=
  if op = "=" then .ok (a == b)
  else if op = "!=" then .ok (a != b)
  else if op = "<" then .ok (decide (a < b))
  else if op = ">" then .ok (decide (b < a))
  else if op = "-nt" ∨ op = "-ot" ∨ op = "-ef" then .ok (w.compare op a b)
  else do
    let x ← testNumber a
    let y ← testNumber b
    if op = "-eq" then .ok (x = y) else if op = "-ne" then .ok (x ≠ y)
    else if op = "-lt" then .ok (x < y) else if op = "-le" then .ok (x ≤ y)
    else if op = "-gt" then .ok (x > y) else .ok (x ≥ y)

/-- The error of a malformed expression, naming the word it stopped at when there is one. -/
def testSyntax (op : Option String) (msg : String) : String :=
  match op with
  | some o => if o.isEmpty then msg else o ++ ": " ++ msg
  | none => msg

mutual

/-- `-o` chains: the value and the position of the last word read. -/
def testOr (w : TestWorld) (args : List String) : Nat → TestTok → Nat → Except String (Bool × Nat)
  | 0, _, _ => .error "expression too deep"
  | fuel + 1, n, i => do
    let (a, i) ← testAnd w args fuel n i
    match testLex args (i + 1) with
    | .op "-o" _ => do
      let (b, i) ← testOr w args fuel (testLex args (i + 2)) (i + 2)
      .ok (a || b, i)
    | _ => .ok (a, i)

/-- `-a` chains. -/
def testAnd (w : TestWorld) (args : List String) : Nat → TestTok → Nat → Except String (Bool × Nat)
  | 0, _, _ => .error "expression too deep"
  | fuel + 1, n, i => do
    let (a, i) ← testNot w args fuel n i
    match testLex args (i + 1) with
    | .op "-a" _ => do
      let (b, i) ← testAnd w args fuel (testLex args (i + 2)) (i + 2)
      .ok (a && b, i)
    | _ => .ok (a, i)

/-- `!` before a primary. -/
def testNot (w : TestWorld) (args : List String) : Nat → TestTok → Nat → Except String (Bool × Nat)
  | 0, _, _ => .error "expression too deep"
  | fuel + 1, n, i =>
    match n with
    | .op "!" _ => do
      let (a, i) ← testNot w args fuel (testLex args (i + 1)) (i + 1)
      .ok (!a, i)
    | _ => testPrimary w args fuel n i

/-- A primary. -/
def testPrimary (w : TestWorld) (args : List String) : Nat → TestTok → Nat → Except String (Bool × Nat)
  | 0, _, _ => .error "expression too deep"
  | fuel + 1, n, i =>
    match n with
    | .eoi => .ok (false, i)
    | .op "(" _ =>
      match testLex args (i + 1) with
      | .op ")" _ => .ok (false, i + 1)
      | n => do
        let (a, i) ← testOr w args fuel n (i + 1)
        match testLex args (i + 1) with
        | .op ")" _ => .ok (a, i + 1)
        | _ => .error (testSyntax none "closing paren expected")
    | .op o .unary =>
      match args[i + 1]? with
      | none => .error (testSyntax (some o) "argument expected")
      | some x =>
        if o = "-z" then .ok (x.isEmpty, i + 1)
        else if o = "-n" then .ok (!x.isEmpty, i + 1)
        else if o = "-t" then do
          let _ ← testNumber x
          .ok (false, i + 1)
        else .ok (w.file o x, i + 1)
    | _ =>
      let cur := (args[i]?).getD ""
      match testLex args (i + 1) with
      | .op o .binary =>
        match args[i + 2]? with
        | none => .error (testSyntax (some o) "argument expected")
        | some b => do
          let r ← testBinary w o cur b
          .ok (r, i + 2)
      | _ => .ok (!cur.isEmpty, i)

end

/-- Evaluate `test` on its arguments (for `[`, without the closing `]`): true, false, or the
message of a malformed expression. -/
def testEval (w : TestWorld) (args0 : List String) : Except String Bool :=
  let rec go : Nat → List String → Bool → Except String Bool
    | 0, _, _ => .error "expression too deep"
    | fuel + 1, args, negate =>
      let finish (args : List String) (n : TestTok) : Except String Bool := do
        let (r, i) ← testOr w args (4 * args.length + 8) n 0
        if (args[i]?).isSome ∧ (args[i + 1]?).isSome then
          .error (testSyntax (args[i]?) "unexpected operator")
        else .ok (r != negate)
      match args with
      | [] => .ok negate
      | _ =>
        let three := args.length = 3 ∧ (args[1]?).bind testOp? == some .binary
        if three then finish args .operand
        else if args.length = 3 ∨ args.length = 4 then
          if args.head? = some "(" ∧ args.getLast? = some ")" then
            let inner := (args.drop 1).dropLast
            finish inner (testLex inner 0)
          else if args.head? = some "!" then go fuel (args.drop 1) true
          else finish args (testLex args 0)
        else finish args (testLex args 0)
  go (args0.length + 2) args0 false

end Safekeep.Shell
