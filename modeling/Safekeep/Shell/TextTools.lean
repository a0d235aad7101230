import Safekeep.Shell.Tools
import Safekeep.Shell.Printf

/-!
# Shell scripts: text utilities

The programs a tool script pipes text through: `wc`, `tr`, `head`, `tail`, `cut`, `sort`, `uniq`,
`tee`, `seq`, `rev`, `expr` and `yes`. They work on bytes, as in the C locale: a line is the
bytes up to a line end, blanks are the ASCII white space characters, and text is ordered by its
bytes.
-/

namespace Safekeep.Shell

/-- The lines of some bytes, without their line ends (a last line without one included). -/
def linesOf (bs : List UInt8) : List (List UInt8) :=
  let parts := splitBytes 10 bs
  match parts.getLast? with
  | some [] => parts.dropLast
  | _ => parts

def unlines (ls : List (List UInt8)) : List UInt8 := ls.flatMap (· ++ [10])

def isBlankByte (b : UInt8) : Bool := b = 32 || b = 9 || b = 10 || b = 11 || b = 12 || b = 13

def outBytes (bs : List UInt8) : ByteArray := ⟨bs.toArray⟩

/-- Read the operands of a text utility (`-` or none: the input), with a diagnostic for each
one that cannot be read; gives the name and bytes of each readable one. -/
def Call.inputs (c : Call) (tool : String) (ops : List String) (cannot : Bool) :
    List (String × List UInt8) × List (Nat × ByteArray) × Bool :=
  let ops := if ops.isEmpty then ["-"] else ops
  ops.foldl (fun (ok, errs, bad) p =>
    match c.read p with
    | .ok b => (ok ++ [(p, b.toList)], errs, bad)
    | .error e =>
      let msg := if cannot then tool ++ ": cannot open '" ++ p ++ "' for reading: " ++ e.text
        else tool ++ ": " ++ p ++ ": " ++ e.text
      (ok, errs ++ [complaint msg], true)) ([], [], false)

/-- Whether a program reads its input: when an operand is `-` or there is none. -/
def readsInput (ops : List String) : Bool := ops.isEmpty ∨ ops.contains "-"

/-- Split the options of a utility whose options may take a value right after them or as the
next argument: the options with their values, and the operands. -/
def valueOptions (takesValue : Char → Bool) : Nat → List String → List (Char × String) × List String
  | 0, args => ([], args)
  | fuel + 1, args =>
    match args with
    | [] => ([], [])
    | "--" :: rest => ([], rest)
    | a :: rest =>
      match a.toList with
      | '-' :: c :: more =>
        if takesValue c then
          if more.isEmpty then
            match rest with
            | v :: rest' => let (os, ops) := valueOptions takesValue fuel rest'; ((c, v) :: os, ops)
            | [] => ([(c, "")], [])
          else let (os, ops) := valueOptions takesValue fuel rest; ((c, String.ofList more) :: os, ops)
        else
          let flags := (c :: more).map fun f => (f, "")
          let (os, ops) := valueOptions takesValue fuel rest
          (flags ++ os, ops)
      | _ => let (os, ops) := valueOptions takesValue fuel rest; (os, a :: ops)

/-! ## wc -/

/-- The words of some bytes: runs of bytes that are not white space. -/
def wordCount (bs : List UInt8) : Nat :=
  (bs.foldl (fun (n, inWord) b =>
    if isBlankByte b then (n, false) else if inWord then (n, true) else (n + 1, true)) (0, false)).1

/-- The widest line of some bytes as a terminal shows it: printable bytes take one column, a
tab runs to the next multiple of 8, a line end, carriage return or form feed ends a line. -/
def longestLine (bs : List UInt8) : Nat :=
  let (best, pos) := bs.foldl (fun (best, pos) b =>
    if b = 10 ∨ b = 13 ∨ b = 12 then (max best pos, 0)
    else if b = 9 then (best, pos + 8 - pos % 8)
    else if 32 ≤ b ∧ b < 127 then (best, pos + 1)
    else (best, pos)) (0, 0)
  max best pos

/-- `wc`: line, word and byte counts (`-l`, `-w`, `-c`, `-m`) and the widest line (`-L`), each right-aligned to a common
width: the digits of the total size of the regular files read, at least 7 when one input is not
a regular file, and none when a single count of a single input is asked for. -/
def wcTool (c : Call) : Done :=
  let (opts, ops) := splitOptions c.args
  let flags := if opts.isEmpty then ['l', 'w', 'c'] else opts
  let want (f : Char) := flags.contains f
  let (ins, errs, bad) := c.inputs "wc" ops false
  let counts (bs : List UInt8) : List Nat :=
    (if want 'l' then [bs.count 10] else []) ++ (if want 'w' then [wordCount bs] else []) ++
    (if want 'm' then [bs.length] else []) ++ (if want 'c' then [bs.length] else []) ++
    (if want 'L' then [longestLine bs] else [])
  let rows := ins.map fun (p, bs) => (counts bs, if ops.isEmpty then none else some p)
  let total := rows.foldl (fun acc (ns, _) => (acc.zip ns).map fun (a, b) => a + b)
    (List.replicate (counts []).length 0)
  let rows := if rows.length > 1 then rows ++ [(total, some "total")] else rows
  let single := (counts []).length = 1 ∧ (if ops.isEmpty then 1 else ops.length) = 1
  let regularSize := ins.foldl (fun acc (p, bs) => if p = "-" ∧ ¬c.inputRegular then acc else acc + bs.length) 0
  let anyPipe := ins.any fun (p, _) => p = "-" ∧ ¬c.inputRegular
  let width := if single then 1 else max (if anyPipe then 7 else 1) (toString regularSize).length
  let pad (n : Nat) := let s := toString n; String.ofList (List.replicate (width - s.length) ' ') ++ s
  let text := String.join (rows.map fun (ns, name) =>
    " ".intercalate (ns.map pad) ++ (match name with | some p => " " ++ p | none => "") ++ "\n")
  ⟨c.disk, errs ++ [(1, bytesOf text)], if bad then 1 else 0, readsInput ops⟩

/-! ## tr -/

/-- The bytes of a named character class, in ascending order. -/
def classBytes (name : String) : Option (List UInt8) :=
  let range (lo hi : Nat) : List UInt8 := (List.range (hi + 1 - lo)).map fun k => (lo + k).toUInt8
  let all := range 0 255
  let pick (p : UInt8 → Bool) := some (all.filter p)
  let isUpper (b : UInt8) := 65 ≤ b ∧ b ≤ 90
  let isLower (b : UInt8) := 97 ≤ b ∧ b ≤ 122
  let isDigitB (b : UInt8) := 48 ≤ b ∧ b ≤ 57
  let isAlpha (b : UInt8) := isUpper b || isLower b
  if name = "alpha" then pick isAlpha
  else if name = "upper" then pick isUpper
  else if name = "lower" then pick isLower
  else if name = "digit" then pick isDigitB
  else if name = "alnum" then pick fun b => isAlpha b || isDigitB b
  else if name = "space" then pick isBlankByte
  else if name = "blank" then pick fun b => b = 32 || b = 9
  else if name = "punct" then pick fun b => 33 ≤ b ∧ b ≤ 126 ∧ ¬(isAlpha b || isDigitB b)
  else if name = "print" then pick fun b => 32 ≤ b ∧ b ≤ 126
  else if name = "graph" then pick fun b => 33 ≤ b ∧ b ≤ 126
  else if name = "cntrl" then pick fun b => b < 32 || b = 127
  else if name = "xdigit" then pick fun b => isDigitB b || (65 ≤ b ∧ b ≤ 70) || (97 ≤ b ∧ b ≤ 102)
  else none

/-- One element of a `tr` set: a byte (from an escape or itself), and what follows. -/
def trByte (cs : List Char) : Option (UInt8 × List Char) :=
  match cs with
  | '\\' :: c :: rest =>
    match octalDigit? c with
    | some _ => let (v, after) := octalRun 3 (c :: rest) 0; some (v.toUInt8, after)
    | none => some ((escapeByte? false c).getD (c.toNat.toUInt8), rest)
  | ['\\'] => some (92, [])
  | c :: rest => some (c.toNat.toUInt8, rest)
  | [] => none

/-- An element of a `tr` set: bytes, or a repetition `[c*n]` (none for `[c*]`, filling up). -/
inductive TrItem
  | bytes (bs : List UInt8)
  | times (b : UInt8) (n : Option Nat)

/-- Read a `tr` set into items, or the message of a malformed one. -/
def trItems : Nat → List Char → Except String (List TrItem)
  | 0, _ => .ok []
  | fuel + 1, cs =>
    match cs with
    | [] => .ok []
    | '[' :: ':' :: rest =>
      let name := rest.takeWhile Char.isAlpha
      match rest.drop name.length with
      | ':' :: ']' :: after =>
        match classBytes (String.ofList name) with
        | some bs => do let more ← trItems fuel after; .ok (.bytes bs :: more)
        | none => .error ("invalid character class '" ++ String.ofList name ++ "'")
      | _ => do let more ← trItems fuel (':' :: rest); .ok (.bytes [91] :: more)
    | '[' :: '=' :: c :: '=' :: ']' :: rest => do
      let more ← trItems fuel rest
      .ok (.bytes [c.toNat.toUInt8] :: more)
    | '[' :: rest =>
      match trByte rest with
      | some (b, '*' :: after) =>
        let ds := after.takeWhile Char.isDigit
        match after.drop ds.length with
        | ']' :: after' => do
          let more ← trItems fuel after'
          let n := if ds.isEmpty then none else
            let v := if ds.head? = some '0' then (spanBase 8 ds).1.getD 0 else (String.ofList ds).toNat?.getD 0
            if v = 0 then none else some v
          .ok (.times b n :: more)
        | _ => do let more ← trItems fuel rest; .ok (.bytes [91] :: more)
      | _ => do let more ← trItems fuel rest; .ok (.bytes [91] :: more)
    | _ =>
      match trByte cs with
      | some (lo, '-' :: rest) =>
        match trByte rest with
        | some (hi, after) =>
          if hi < lo then
            .error ("range-endpoints of '" ++ String.ofList (cs.take (cs.length - after.length)) ++
              "' are in reverse collating sequence order")
          else do
            let more ← trItems fuel after
            .ok (.bytes ((List.range (hi.toNat + 1 - lo.toNat)).map fun k => (lo.toNat + k).toUInt8) :: more)
        | none => do let more ← trItems fuel ['-']; .ok (.bytes [lo] :: more)
      | some (b, rest) => do let more ← trItems fuel rest; .ok (.bytes [b] :: more)
      | none => .ok []

/-- The bytes of a set, a repetition without a count filling it up to `len`. -/
def trExpand (items : List TrItem) (len : Nat) : List UInt8 :=
  let fixed := items.foldl (fun n it => match it with
    | .bytes bs => n + bs.length
    | .times _ (some k) => n + k
    | .times _ none => n) 0
  items.flatMap fun it => match it with
    | .bytes bs => bs
    | .times b (some k) => List.replicate k b
    | .times b none => List.replicate (len - fixed) b

def squeeze (set : List UInt8) (bs : List UInt8) : List UInt8 :=
  (bs.foldl (fun (acc, last) b =>
    if last = some b ∧ set.contains b then (acc, last) else (b :: acc, some b)) ([], none)).1.reverse

/-- `tr`: translate, delete (`-d`) or squeeze (`-s`) bytes of the input; `-c` takes the
complement of the first set. -/
def trTool (c : Call) : Done :=
  let (opts, ops) := splitOptions c.args
  let complement := opts.contains 'c' || opts.contains 'C'
  let delete := opts.contains 'd'
  let sq := opts.contains 's'
  let truncate := opts.contains 't'
  let fail (msg : String) : Done := ⟨c.disk, [complaint ("tr: " ++ msg)], 1, false⟩
  let usage (msg : String) : Done := ⟨c.disk, usageFault "tr" msg, 1, false⟩
  let needTwo := ¬delete ∧ ¬(sq ∧ ops.length = 1)
  match ops with
  | [] => usage "missing operand"
  | _ =>
    if ops.length > (if needTwo ∨ (delete ∧ sq) then 2 else 1) then
      usage ("extra operand '" ++ (ops.drop (if needTwo ∨ (delete ∧ sq) then 2 else 1)).headD "" ++ "'")
    else if needTwo ∧ ops.length < 2 then
      usage ("missing operand after '" ++ ops.headD "" ++ "'\nTwo strings must be given when translating.")
    else if delete ∧ sq ∧ ops.length < 2 then
      usage ("missing operand after '" ++ ops.headD "" ++ "'\nTwo strings must be given when both deleting and squeezing repeats.")
    else
      match trItems 1000 (ops.headD "").toList, trItems 1000 ((ops.drop 1).headD "").toList with
      | .error e, _ | _, .error e => fail e
      | .ok items1, .ok items2 =>
        let set1 := trExpand items1 0
        let set1 := if complement then
            (List.range 256).map Nat.toUInt8 |>.filter fun b => ¬set1.contains b
          else set1
        let input := c.input.toList
        let out : Except String (List UInt8) :=
          if delete then
            let kept := input.filter fun b => ¬set1.contains b
            .ok (if sq then squeeze (trExpand items2 0) kept else kept)
          else if ops.length = 1 then .ok (squeeze set1 input)
          else
            let set2 := trExpand items2 set1.length
            if set2.isEmpty then .error "when not truncating set1, string2 must be non-empty"
            else
              let set1 := if truncate then set1.take set2.length else set1
              let last := set2.getLast?.getD 0
              let table := set1.zip (set2 ++ List.replicate (set1.length - set2.length) last)
              let lookup (b : UInt8) : UInt8 :=
                match (table.reverse.find? (·.1 == b)) with
                | some (_, t) => t
                | none => b
              let mapped := input.map lookup
              .ok (if sq then squeeze set2 mapped else mapped)
        match out with
        | .ok bs => ⟨c.disk, [(1, outBytes bs)], 0, true⟩
        | .error e => fail e

/-! ## head and tail -/

/-- A count option's value: a number with an optional sign, `-` marking "all but". -/
def countArg (s : String) : Option (Bool × Bool × Nat) :=
  let (neg, plus, body) : Bool × Bool × String := match s.toList with
    | '-' :: more => (true, false, String.ofList more)
    | '+' :: more => (false, true, String.ofList more)
    | _ => (false, false, s)
  body.toNat?.map (neg, plus, ·)

/-- The old first-argument count forms of `head` and `tail`: `-5` (and for `tail`, `+5`), a
count of lines, or of bytes with `c` after the digits, as the options they stand for. -/
def oldCount (plus : Bool) (args : List String) : List String :=
  match args with
  | a :: rest =>
    match a.toList with
    | s :: d :: more =>
      if (s = '-' ∨ (plus ∧ s = '+')) ∧ d.isDigit then
        let ds := (d :: more).takeWhile Char.isDigit
        let num := (if s = '+' then "+" else "") ++ String.ofList ds
        match (d :: more).drop ds.length with
        | [] => "-n" :: num :: rest
        | ['l'] => "-n" :: num :: rest
        | ['c'] => "-c" :: num :: rest
        | _ => args
      else args
    | _ => args
  | [] => []

/-- `head`: the first lines (`-n`, default 10) or bytes (`-c`) of each input; a negative
count leaves out that many at the end. -/
def headTool (c : Call) : Done :=
  let (os, ops) := valueOptions (fun ch => ch = 'n' || ch = 'c') (c.args.length + 2) (oldCount false c.args)
  let pick : Option (Char × String) := os.reverse.find? fun (ch, _) => ch = 'n' || ch = 'c'
  let (unit, arg) := pick.getD ('n', "10")
  match countArg arg with
  | none =>
    c.finish [complaint ("head: invalid number of " ++ (if unit = 'n' then "lines" else "bytes") ++ ": '" ++ arg ++ "'")] 1
  | some (allBut, _, n) =>
    let (ins, errs, bad) := c.inputs "head" ops true
    let cutOne (bs : List UInt8) : List UInt8 :=
      if unit = 'c' then (if allBut then bs.take (bs.length - n) else bs.take n)
      else
        let parts := splitBytes 10 bs
        let lines := parts.dropLast.map (· ++ [10]) ++ (match parts.getLast? with
          | some [] => []
          | some l => [l]
          | none => [])
        (if allBut then lines.take (lines.length - n) else lines.take n).flatten
    let many := ins.length > 1
    let out := ins.zipIdx.flatMap fun ((p, bs), i) =>
      (if many then utf8 ((if i > 0 then "\n" else "") ++ "==> " ++ (if p = "-" then "standard input" else p) ++ " <==\n") else []) ++ cutOne bs
    ⟨c.disk, errs ++ [(1, outBytes out)], if bad then 1 else 0, readsInput ops⟩

/-- `tail`: the last lines (`-n`, default 10) or bytes (`-c`) of each input; `+n` starts at the
`n`th. -/
def tailTool (c : Call) : Done :=
  -- the old forms stand only before at most one file
  let old := match c.args with
    | [_] => true
    | [_, f] => ¬(f.startsWith "-" ∧ f.length > 1)
    | _ => false
  let args := if old then oldCount true c.args else c.args
  let (os, ops) := valueOptions (fun ch => ch = 'n' || ch = 'c') (args.length + 1) args
  let pick : Option (Char × String) := os.reverse.find? fun (ch, _) => ch = 'n' || ch = 'c'
  let (unit, arg) := pick.getD ('n', "10")
  match countArg arg with
  | none =>
    c.finish [complaint ("tail: invalid number of " ++ (if unit = 'n' then "lines" else "bytes") ++ ": '" ++ arg ++ "'")] 1
  | some (_, fromStart, n) =>
    let (ins, errs, bad) := c.inputs "tail" ops true
    let cutOne (bs : List UInt8) : List UInt8 :=
      if unit = 'c' then (if fromStart then bs.drop (n - 1) else bs.drop (bs.length - n))
      else
        let parts := splitBytes 10 bs
        let lines := parts.dropLast.map (· ++ [10]) ++ (match parts.getLast? with
          | some [] => []
          | some l => [l]
          | none => [])
        (if fromStart then lines.drop (n - 1) else lines.drop (lines.length - n)).flatten
    let many := ins.length > 1
    let out := ins.zipIdx.flatMap fun ((p, bs), i) =>
      (if many then utf8 ((if i > 0 then "\n" else "") ++ "==> " ++ (if p = "-" then "standard input" else p) ++ " <==\n") else []) ++ cutOne bs
    ⟨c.disk, errs ++ [(1, outBytes out)], if bad then 1 else 0, readsInput ops⟩

/-! ## cut -/

/-- A range of positions counted from 1 (`lo` to `hi`, none for open). -/
def readRanges (s : String) : Option (List (Nat × Option Nat)) :=
  (s.splitOn ",").foldr (fun part acc => acc.bind fun rs =>
    match part.splitOn "-" with
    | [a] => a.toNat?.bind fun n => if n = 0 then none else some ((n, some n) :: rs)
    | [a, b] =>
      let lo := if a.isEmpty then some 1 else a.toNat?
      let hi : Option (Option Nat) := if b.isEmpty then some none else b.toNat?.map some
      match lo, hi with
      | some l, some h => if l = 0 ∨ (a.isEmpty ∧ b.isEmpty) then none else some ((l, h) :: rs)
      | _, _ => none
    | _ => none) (some [])

/-- Whether position `i` (from 1) lies in a range. -/
def inRanges (rs : List (Nat × Option Nat)) (i : Nat) : Bool :=
  rs.any fun (lo, hi) => decide (lo ≤ i) && (match hi with | some h => decide (i ≤ h) | none => true)

/-- `cut`: the bytes or characters (`-b`, `-c`) or the fields (`-f`, separated by `-d`, a tab
by default) of each line in the listed positions; a line without the separator is printed whole
unless `-s`. -/
def cutTool (c : Call) : Done :=
  let (os, ops) := valueOptions (fun ch => ch = 'b' || ch = 'c' || ch = 'f' || ch = 'd') (c.args.length + 1) c.args
  let find (ch : Char) := (os.reverse.find? (·.1 == ch)).map (·.2)
  let fail (msg : String) : Done := c.finish [complaint ("cut: " ++ msg),
    complaint "Try 'cut --help' for more information."] 1
  let delim := (find 'd').getD "\t"
  let only := os.any (·.1 == 's')
  match find 'b', find 'c', find 'f' with
  | none, none, none => fail "you must specify a list of bytes, characters, or fields"
  | b, ch, f =>
    let list := (b.orElse fun _ => ch).orElse fun _ => f
    match (list.getD "").isEmpty, readRanges (list.getD "") with
    | _, none => fail "invalid byte, character or field list"
    | _, some rs =>
      if f.isNone ∧ (find 'd').isSome then fail "an input delimiter may be specified only when operating on fields"
      else if delim.utf8ByteSize ≠ 1 then fail "the delimiter must be a single character"
      else
        let d := (delim.toUTF8.toList.headD 9)
        let (ins, errs, bad) := c.inputs "cut" ops false
        let doLine (l : List UInt8) : Option (List UInt8) :=
          if f.isSome then
            if ¬l.contains d then (if only then none else some l)
            else
              let fields := splitBytes d l
              let kept := (fields.zipIdx.filter fun (_, i) => inRanges rs (i + 1)).map (·.1)
              some (List.intercalate [d] kept)
          else some ((l.zipIdx.filter fun (_, i) => inRanges rs (i + 1)).map (·.1))
        let out := ins.flatMap fun (_, bs) => (linesOf bs).filterMap doLine |> unlines
        ⟨c.disk, errs ++ [(1, outBytes out)], if bad then 1 else 0, readsInput ops⟩

/-! ## sort and uniq -/

/-- Bytes in order: byte by byte, a prefix first. -/
def bytesLt : List UInt8 → List UInt8 → Bool
  | [], [] => false
  | [], _ :: _ => true
  | _ :: _, [] => false
  | a :: as, b :: bs => if a < b then true else if b < a then false else bytesLt as bs

/-- The number at the front of a line for `sort -n`: blanks, an optional `-`, digits with an
optional point; 0 when there is none. Compared as a rational: numerator over a power of ten. -/
def leadingNumber (l : List UInt8) : Int × Nat :=
  let l := l.dropWhile fun b => b = 32 || b = 9
  let (neg, l) := match l with
    | 45 :: more => (true, more)
    | _ => (false, l)
  let whole := l.takeWhile fun b => 48 ≤ b ∧ b ≤ 57
  let frac := match l.drop whole.length with
    | 46 :: more => more.takeWhile fun b => 48 ≤ b ∧ b ≤ 57
    | _ => []
  let v : Nat := (whole ++ frac).foldl (fun n b => 10 * n + (b.toNat - 48)) 0
  ((if neg then -(v : Int) else (v : Int)), frac.length)

/-- `a < b` for numbers `(n, k)` meaning `n / 10^k`. -/
def numberLt (a b : Int × Nat) : Bool :=
  a.1 * Nat.pow 10 b.2 < b.1 * Nat.pow 10 a.2

/-- The key of a line for `sort -k`: fields `from` to `to` (from 1), split at the separator or
at the starts of runs of blanks. -/
def sortKey (sep : Option UInt8) (kFrom : Nat) (kTo : Option Nat) (l : List UInt8) : List UInt8 :=
  let fields : List (List UInt8) := match sep with
    | some s => splitBytes s l
    | none =>
      -- each field keeps the blanks before it
      let rec go : Nat → List UInt8 → List (List UInt8)
        | 0, _ => []
        | fuel + 1, bs =>
          if bs.isEmpty then []
          else
            let blanks := bs.takeWhile fun b => b = 32 || b = 9
            let rest := bs.drop blanks.length
            let word := rest.takeWhile fun b => ¬(b = 32 || b = 9)
            (blanks ++ word) :: go fuel (rest.drop word.length)
      go (l.length + 1) l
  let upto := match kTo with
    | some t => fields.take t
    | none => fields
  let picked := upto.drop (kFrom - 1)
  match sep with
  | some s => List.intercalate [s] picked
  | none => picked.flatten

/-- `sort`: the lines of the inputs in byte order; `-r` reverses, `-n` compares leading
numbers, `-f` folds case, `-u` keeps one of equal lines, `-k` and `-t` pick a key; equal keys
fall back to the whole line. -/
def sortTool (c : Call) : Done :=
  let (os, ops) := valueOptions (fun ch => ch = 'k' || ch = 't' || ch = 'o') (c.args.length + 1) c.args
  let has (ch : Char) := os.any (·.1 == ch)
  let sep := (os.find? (·.1 == 't')).map fun (_, v) => (v.toUTF8.toList.headD 9)
  let key := (os.find? (·.1 == 'k')).map fun (_, v) =>
    let parts := v.splitOn ","
    let num (s : String) := (s.toList.takeWhile Char.isDigit |> String.ofList).toNat?.getD 1
    (num (parts.headD "1"), (parts.drop 1).head?.map num)
  let (ins, errs, bad) := c.inputs "sort" ops false
  let lines := ins.flatMap fun (_, bs) => linesOf bs
  let fold (l : List UInt8) := if has 'f' then l.map fun b => if 97 ≤ b ∧ b ≤ 122 then b - 32 else b else l
  let keyOf (l : List UInt8) := fold (match key with
    | some (f, t) => sortKey sep f t l
    | none => l)
  let cmpKey (a b : List UInt8) : Ordering :=
    if has 'n' then
      let x := leadingNumber (keyOf a)
      let y := leadingNumber (keyOf b)
      if numberLt x y then .lt else if numberLt y x then .gt else .eq
    else
      let x := keyOf a
      let y := keyOf b
      if bytesLt x y then .lt else if bytesLt y x then .gt else .eq
  let cmp (a b : List UInt8) : Ordering :=
    match cmpKey a b with
    | .eq => if has 'u' ∨ has 's' then .eq else if bytesLt a b then .lt else if bytesLt b a then .gt else .eq
    | o => o
  let cmp' (a b : List UInt8) : Ordering := if has 'r' then cmp b a else cmp a b
  let sorted := lines.mergeSort fun a b => cmp' a b != .gt
  let sorted := if has 'u' then
      (sorted.foldl (fun (acc : List (List UInt8)) l =>
        match acc with
        | p :: _ => if cmpKey p l = .eq then acc else l :: acc
        | [] => [l]) []).reverse
    else sorted
  let out := unlines sorted
  match (os.find? (·.1 == 'o')) with
  | some (_, file) =>
    match c.disk.writeFile c.cwd file (outBytes out) with
    | .ok d => ⟨d, errs, if bad then 2 else 0, readsInput ops⟩
    | .error e => ⟨c.disk, errs ++ [complaint ("sort: open failed: " ++ file ++ ": " ++ e.text)], 2, readsInput ops⟩
  | none => ⟨c.disk, errs ++ [(1, outBytes out)], if bad then 2 else 0, readsInput ops⟩

/-- `uniq`: adjacent equal lines once; `-c` counts them, `-d` keeps only repeated ones, `-u`
only unrepeated ones, `-i` ignores case. -/
def uniqTool (c : Call) : Done :=
  let (opts, ops) := splitOptions c.args
  let (ins, errs, bad) := c.inputs "uniq" (ops.take 1) false
  let lines := ins.flatMap fun (_, bs) => linesOf bs
  let fold (l : List UInt8) := if opts.contains 'i' then l.map fun b => if 97 ≤ b ∧ b ≤ 122 then b - 32 else b else l
  let groups : List (List UInt8 × Nat) := (lines.foldl (fun (acc : List (List UInt8 × Nat)) l =>
    match acc with
    | (p, n) :: more => if fold p = fold l then (p, n + 1) :: more else (l, 1) :: acc
    | [] => [(l, 1)]) []).reverse
  let groups := groups.filter fun (_, n) =>
    (¬opts.contains 'd' ∨ n > 1) ∧ (¬opts.contains 'u' ∨ n = 1)
  let out := groups.flatMap fun (l, n) =>
    (if opts.contains 'c' then
      let s := toString n
      utf8 (String.ofList (List.replicate (7 - s.length) ' ') ++ s ++ " ")
    else []) ++ l ++ [10]
  match ops.drop 1 with
  | file :: _ =>
    match c.disk.writeFile c.cwd file (outBytes out) with
    | .ok d => ⟨d, errs, if bad then 1 else 0, readsInput (ops.take 1)⟩
    | .error e => ⟨c.disk, errs ++ [complaint ("uniq: " ++ file ++ ": " ++ e.text)], 1, readsInput (ops.take 1)⟩
  | [] => ⟨c.disk, errs ++ [(1, outBytes out)], if bad then 1 else 0, readsInput (ops.take 1)⟩

/-! ## tee, rev, yes -/

/-- `tee`: the input to the output and to each file (`-a` appends). -/
def teeTool (c : Call) : Done :=
  let (opts, ops) := splitOptions c.args
  let append := opts.contains 'a'
  let r := eachOperand c.disk ops fun d p =>
    match (if append then d.appendFile c.cwd p c.input else d.writeFile c.cwd p c.input) with
    | .ok d' => (d', none)
    | .error e => (d, some ("tee: " ++ p ++ ": " ++ e.text))
  { r with out := (1, c.input) :: r.out, reads := true }

/-- `rev`: each line's characters in reverse. -/
def revTool (c : Call) : Done :=
  let (_, ops) := splitOptions c.args
  let (ins, errs, bad) := c.inputs "rev" ops false
  let out := ins.flatMap fun (_, bs) =>
    let text := (String.fromUTF8? (outBytes bs)).getD ""
    let parts := text.splitOn "\n"
    let parts := parts.map fun l => String.ofList l.toList.reverse
    utf8 ("\n".intercalate parts)
  ⟨c.disk, errs ++ [(1, outBytes out)], if bad then 1 else 0, readsInput ops⟩

def yesLines : Nat := 100000

/-- `yes`: its arguments (or `y`) on line after line. -/
def yesTool (c : Call) : Done :=
  let line := utf8 ((if c.args.isEmpty then "y" else " ".intercalate c.args) ++ "\n")
  c.finish [(1, outBytes (List.replicate yesLines line).flatten)] 0

/-! ## seq -/

/-- A decimal number for `seq`: its value as `n / 10^k`, and its digits after the point. -/
def seqNumber (s : String) : Option (Int × Nat) :=
  let (neg, body) : Bool × List Char := match s.toList with
    | '-' :: more => (true, more)
    | '+' :: more => (false, more)
    | cs => (false, cs)
  let whole := body.takeWhile Char.isDigit
  let (frac, rest) : List Char × List Char := match body.drop whole.length with
    | '.' :: more => let f := more.takeWhile Char.isDigit; (f, more.drop f.length)
    | r => ([], r)
  if (whole.isEmpty ∧ frac.isEmpty) ∨ ¬rest.isEmpty then none
  else
    let v : Int := (String.ofList (whole ++ frac)).toNat?.getD 0
    some (if neg then -v else v, frac.length)

/-- The options of `seq` before its operands: `-s` and `-f` with their values, `-w`; a word
that looks like a negative number is the first operand. -/
def seqOptions : Nat → List String → List (Char × String) × List String
  | 0, args => ([], args)
  | fuel + 1, args =>
    match args with
    | "--" :: rest => ([], rest)
    | a :: rest =>
      match a.toList with
      | '-' :: c :: more =>
        if c = '.' ∨ c.isDigit then ([], args)
        else if c = 's' ∨ c = 'f' then
          if more.isEmpty then
            match rest with
            | v :: after =>
              let (os, ops) := seqOptions fuel after
              ((c, v) :: os, ops)
            | [] => ([(c, "")], [])
          else
            let (os, ops) := seqOptions fuel rest
            ((c, String.ofList more) :: os, ops)
        else
          let rest := if more.isEmpty then rest else String.ofList ('-' :: more) :: rest
          let (os, ops) := seqOptions fuel rest
          ((c, "") :: os, ops)
      | _ => ([], args)
    | [] => ([], [])

/-- `seq`: the numbers from the first (default 1) by the step (default 1) up to the last, each
with as many decimals as the most precise argument, separated by `-s` (a line end by default). -/
def seqTool (c : Call) : Done :=
  let (os, ops) := seqOptions (c.args.length + 1) c.args
  let sep := ((os.find? (·.1 == 's')).map (·.2)).getD "\n"
  let width := os.any (·.1 == 'w')
  let nums := ops.map seqNumber
  if nums.any Option.isNone ∨ ops.isEmpty ∨ ops.length > 3 then
    let bad := (ops.zip nums).find? (·.2.isNone)
    c.finish (usageFault "seq" (match bad with
      | some (a, _) => "invalid floating point argument: '" ++ a ++ "'"
      | none => if ops.isEmpty then "missing operand" else "extra operand '" ++ (ops.drop 3).headD "" ++ "'")) 1
  else
    let ns := nums.filterMap id
    let (first, step, last) := match ns with
      | [l] => ((1, 0), (1, 0), l)
      | [f, l] => (f, (1, 0), l)
      | f :: s :: l :: _ => (f, s, l)
      | [] => ((1, 0), (1, 0), (1, 0))
    let k := max first.2 step.2
    let scale (x : Int × Nat) : Int := x.1 * Nat.pow 10 (k - x.2)
    let a := scale first
    let s := scale step
    -- the last value on the grid of `k` decimals, rounded toward the first
    let num : Int := last.1 * Nat.pow 10 k
    let den : Int := Nat.pow 10 last.2
    let b : Int := if s > 0 then num / den else -((-num) / den)
    if s = 0 then c.finish [complaint "seq: invalid Zero increment value: '0'"] 1
    else
      let count : Nat := if s > 0 then (if b < a then 0 else ((b - a) / s).toNat + 1)
        else (if b > a then 0 else ((a - b) / (-s)).toNat + 1)
      let values := (List.range (min count 1000000)).map fun (i : Nat) => a + s * (i : Int)
      let text (v : Int) : String :=
        let digits := toString v.natAbs
        let digits := String.ofList (List.replicate (k + 1 - digits.length) '0') ++ digits
        let body := if k = 0 then digits
          else String.ofList (digits.toList.take (digits.length - k)) ++ "." ++ String.ofList (digits.toList.drop (digits.length - k))
        (if v < 0 then "-" else "") ++ body
      let texts := values.map text
      let w := texts.foldl (fun m t => max m t.length) 0
      let texts := if width then texts.map fun t =>
          if t.startsWith "-" then "-" ++ String.ofList (List.replicate (w - t.length) '0') ++ String.ofList (t.toList.drop 1)
          else String.ofList (List.replicate (w - t.length) '0') ++ t
        else texts
      c.finish (if texts.isEmpty then [] else [(1, bytesOf (sep.intercalate texts ++ "\n"))]) 0

/-! ## expr -/

/-- A value of `expr`: an integer or a string. -/
inductive ExprValue
  | num (n : Int)
  | str (s : String)

def ExprValue.text : ExprValue → String
  | .num n => toString n
  | .str s => s

/-- A value as an integer, when it reads as one. -/
def ExprValue.toInt? : ExprValue → Option Int
  | .num n => some n
  | .str s =>
    let (neg, body) : Bool × List Char := match s.toList with
      | '-' :: more => (true, more)
      | cs => (false, cs)
    if body.isEmpty ∨ ¬body.all Char.isDigit then none
    else (String.ofList body).toNat?.map fun n => if neg then -(n : Int) else n

/-- Whether a value counts as false: empty or zero. -/
def ExprValue.isNull (v : ExprValue) : Bool :=
  match v with
  | .num n => n = 0
  | .str s => s.isEmpty || v.toInt? == some 0

/-- An error of `expr`: its message and status. -/
abbrev ExprStep := Except (String × Nat) (ExprValue × List String)

mutual

/-- `|` chains. -/
def exprOr : Nat → List String → ExprStep
  | 0, _ => .error ("expression too deep", 2)
  | fuel + 1, ts => do
    let (a, rest) ← exprAnd fuel ts
    match rest with
    | "|" :: more => do
      let (b, rest) ← exprOr fuel more
      .ok (if ¬a.isNull then a else if ¬b.isNull then b else .num 0, rest)
    | _ => .ok (a, rest)

/-- `&` chains. -/
def exprAnd : Nat → List String → ExprStep
  | 0, _ => .error ("expression too deep", 2)
  | fuel + 1, ts => do
    let (a, rest) ← exprCompare fuel ts
    match rest with
    | "&" :: more => do
      let (b, rest) ← exprAnd fuel more
      .ok (if a.isNull ∨ b.isNull then .num 0 else a, rest)
    | _ => .ok (a, rest)

/-- Comparisons: of integers when both sides read as integers, else of strings. -/
def exprCompare : Nat → List String → ExprStep
  | 0, _ => .error ("expression too deep", 2)
  | fuel + 1, ts => do
    let (a, rest) ← exprSum fuel ts
    exprCompareRest fuel a rest

/-- The comparisons after the first operand. -/
def exprCompareRest : Nat → ExprValue → List String → ExprStep
  | 0, _, _ => .error ("expression too deep", 2)
  | fuel + 1, a, ts =>
    match ts with
    | op :: more =>
      if ["<", "<=", "=", "==", "!=", ">=", ">"].contains op then do
        let (b, rest) ← exprSum fuel more
        let ord : Ordering := match a.toInt?, b.toInt? with
          | some x, some y => compare x y
          | _, _ => compare a.text b.text
        let r := if op = "<" then ord = .lt else if op = "<=" then ord ≠ .gt
          else if op = "=" ∨ op = "==" then ord = .eq else if op = "!=" then ord ≠ .eq
          else if op = ">=" then ord ≠ .lt else ord = .gt
        exprCompareRest fuel (.num (if r then 1 else 0)) rest
      else .ok (a, ts)
    | [] => .ok (a, [])

def exprSum : Nat → List String → ExprStep
  | 0, _ => .error ("expression too deep", 2)
  | fuel + 1, ts => do
    let (a, rest) ← exprProduct fuel ts
    exprSumRest fuel a rest

/-- The terms after the first of a sum. -/
def exprSumRest : Nat → ExprValue → List String → ExprStep
  | 0, _, _ => .error ("expression too deep", 2)
  | fuel + 1, a, ts =>
    match ts with
    | op :: more =>
      if op = "+" ∨ op = "-" then do
        let (b, rest) ← exprProduct fuel more
        match a.toInt?, b.toInt? with
        | some x, some y => exprSumRest fuel (.num (if op = "+" then x + y else x - y)) rest
        | _, _ => .error ("non-integer argument", 2)
      else .ok (a, ts)
    | [] => .ok (a, [])

def exprProduct : Nat → List String → ExprStep
  | 0, _ => .error ("expression too deep", 2)
  | fuel + 1, ts => do
    let (a, rest) ← exprPrimary fuel ts
    exprProductRest fuel a rest

/-- The factors after the first of a product. -/
def exprProductRest : Nat → ExprValue → List String → ExprStep
  | 0, _, _ => .error ("expression too deep", 2)
  | fuel + 1, a, ts =>
    match ts with
    | op :: more =>
      if op = "*" ∨ op = "/" ∨ op = "%" then do
        let (b, rest) ← exprPrimary fuel more
        match a.toInt?, b.toInt? with
        | some x, some y =>
          if op ≠ "*" ∧ y = 0 then .error ("division by zero", 2)
          else exprProductRest fuel (.num (if op = "*" then x * y else if op = "/" then x.tdiv y else x.tmod y)) rest
        | _, _ => .error ("non-integer argument", 2)
      else .ok (a, ts)
    | [] => .ok (a, [])

/-- A string, `length`, `substr`, `index`, a quoted word after `+`, or a parenthesized
expression. -/
def exprPrimary : Nat → List String → ExprStep
  | 0, _ => .error ("expression too deep", 2)
  | fuel + 1, ts =>
    match ts with
    | "(" :: more => do
      let (v, rest) ← exprOr fuel more
      match rest with
      | ")" :: rest => .ok (v, rest)
      | [] => .error ("syntax error: expecting ')' after '" ++ (more.getLast?.getD "(") ++ "'", 2)
      | t :: _ => .error ("syntax error: expecting ')' instead of '" ++ t ++ "'", 2)
    | "+" :: t :: rest => .ok (.str t, rest)
    | "length" :: more => do
      let (v, rest) ← exprPrimary fuel more
      .ok (.num v.text.length, rest)
    | "substr" :: more => do
      let (s, rest) ← exprPrimary fuel more
      let (p, rest) ← exprPrimary fuel rest
      let (n, rest) ← exprPrimary fuel rest
      match p.toInt?, n.toInt? with
      | some pos, some len =>
        if pos ≤ 0 ∨ len ≤ 0 then .ok (.str "", rest)
        else .ok (.str (String.ofList ((s.text.toList.drop (pos.toNat - 1)).take len.toNat)), rest)
      | _, _ => .ok (.str "", rest)
    | "index" :: more => do
      let (s, rest) ← exprPrimary fuel more
      let (cs, rest) ← exprPrimary fuel rest
      let chars := cs.text.toList
      let pos := (s.text.toList.zipIdx.find? fun (ch, _) => chars.contains ch).map (·.2 + 1)
      .ok (.num ((pos.getD 0 : Nat) : Int), rest)
    | [")"] => .error ("syntax error: unexpected ')'", 2)
    | t :: rest => .ok (.str t, rest)
    | [] => .error ("syntax error: missing argument after '" ++ "" ++ "'", 2)

end

/-- `expr`: evaluate the expression its arguments spell and print the result; status 1 when it
is empty or zero, 2 for a malformed expression. -/
def exprTool (c : Call) : Done :=
  match c.args with
  | [] => c.finish [complaint "expr: missing operand", complaint "Try 'expr --help' for more information."] 2
  | args =>
    match exprOr (4 * args.length + 8) args with
    | .ok (v, []) => c.finish [(1, bytesOf (v.text ++ "\n"))] (if v.isNull then 1 else 0)
    | .ok (_, t :: _) => c.finish [complaint ("expr: syntax error: unexpected argument '" ++ t ++ "'")] 2
    | .error (msg, status) => c.finish [complaint ("expr: " ++ msg)] status

end Safekeep.Shell
