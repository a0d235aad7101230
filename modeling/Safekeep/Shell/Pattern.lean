/-!
# Shell patterns

The patterns of `case` arms, of prefix and suffix removal and of file name expansion. A pattern
is read from characters that each remember whether they were quoted. Unquoted, `*` matches any
text, `?` any one character, and `[…]` one character of a set: single characters and ranges
`a-z`, the classes `[:alpha:]` and the like, negated by a leading `!` or `^`; a `]` right after
the opening (or after the negation) belongs to the set, and a `[` without a closing `]` stands
for itself. A backslash makes the next character literal. Everything else, and every quoted
character, matches itself.
-/

namespace Safekeep.Shell

/-- One element of a set in brackets. -/
inductive SetItem
  | single (c : Char)
  | range (lo hi : Char)
  | named (cls : String)
  deriving DecidableEq, Repr

/-- One element of a pattern. -/
inductive Glob
  | lit (c : Char)
  | one
  | star
  | set (negated : Bool) (items : List SetItem)
  deriving DecidableEq, Repr

/-- Whether a character belongs to a named class. -/
def inClass (cls : String) (c : Char) : Bool :=
  if cls = "alpha" then c.isAlpha
  else if cls = "digit" then c.isDigit
  else if cls = "alnum" then c.isAlphanum
  else if cls = "upper" then c.isUpper
  else if cls = "lower" then c.isLower
  else if cls = "space" then c = ' ' || c = '\t' || c = '\n' || c = '\r' || c.toNat = 11 || c.toNat = 12
  else if cls = "blank" then c = ' ' || c = '\t'
  else if cls = "punct" then 33 ≤ c.toNat && c.toNat ≤ 126 && !c.isAlphanum
  else if cls = "print" then 32 ≤ c.toNat && c.toNat ≤ 126
  else if cls = "graph" then 33 ≤ c.toNat && c.toNat ≤ 126
  else if cls = "cntrl" then c.toNat < 32 || c.toNat = 127
  else if cls = "xdigit" then c.isDigit || ('a' ≤ c && c ≤ 'f') || ('A' ≤ c && c ≤ 'F')
  else false

def SetItem.has (c : Char) : SetItem → Bool
  | .single d => c = d
  | .range lo hi => lo ≤ c && c ≤ hi
  | .named cls => inClass cls c

/-- Read the items of a bracket set up to its `]`; none when it has none. -/
def readSet : Nat → List (Char × Bool) → List SetItem → Bool → Option (List SetItem × List (Char × Bool))
  | 0, _, _, _ => none
  | fuel + 1, cs, acc, first =>
    match cs with
    | [] => none
    | (']', false) :: rest => if first then readSet fuel rest (acc ++ [.single ']']) false else some (acc, rest)
    | ('[', false) :: (':', false) :: rest =>
      let name := rest.takeWhile fun p => p.1.isAlpha
      match rest.drop name.length with
      | (':', false) :: (']', false) :: after =>
        readSet fuel after (acc ++ [.named (String.ofList (name.map (·.1)))]) false
      | _ => readSet fuel ((':', false) :: rest) (acc ++ [.single '[']) false
    | (c, _) :: ('-', false) :: (d, dq) :: rest =>
      if d = ']' ∧ ¬dq then readSet fuel ((d, dq) :: rest) (acc ++ [.single c, .single '-']) false
      else readSet fuel rest (acc ++ [.range c d]) false
    | ('\\', false) :: (c, _) :: rest => readSet fuel rest (acc ++ [.single c]) false
    | (c, _) :: rest => readSet fuel rest (acc ++ [.single c]) false

/-- Read a pattern. -/
def compileGlob : Nat → List (Char × Bool) → List Glob
  | 0, _ => []
  | fuel + 1, cs =>
    match cs with
    | [] => []
    | (c, true) :: rest => .lit c :: compileGlob fuel rest
    | ('*', false) :: rest => .star :: compileGlob fuel rest
    | ('?', false) :: rest => .one :: compileGlob fuel rest
    | ('\\', false) :: (c, _) :: rest => .lit c :: compileGlob fuel rest
    | ('[', false) :: rest =>
      let (negated, body) : Bool × List (Char × Bool) :=
        match rest with
        | ('!', false) :: more | ('^', false) :: more => (true, more)
        | _ => (false, rest)
      match readSet (body.length + 1) body [] true with
      | some (items, after) => .set negated items :: compileGlob fuel after
      | none => .lit '[' :: compileGlob fuel rest
    | (c, false) :: rest => .lit c :: compileGlob fuel rest

def Glob.ofChars (cs : List (Char × Bool)) : List Glob := compileGlob (cs.length + 1) cs

/-- Whether a pattern matches a whole text. -/
def globMatch : List Glob → List Char → Bool
  | [], s => s.isEmpty
  | .star :: ps, s =>
    match s with
    | [] => globMatch ps []
    | c :: cs => globMatch ps (c :: cs) || globMatch (.star :: ps) cs
  | .lit c :: ps, s =>
    match s with
    | d :: cs => c = d && globMatch ps cs
    | [] => false
  | .one :: ps, s =>
    match s with
    | _ :: cs => globMatch ps cs
    | [] => false
  | .set negated items :: ps, s =>
    match s with
    | d :: cs => (items.any (·.has d) != negated) && globMatch ps cs
    | [] => false
termination_by ps s => (s.length, ps.length)

def Glob.isLiteral (ps : List Glob) : Bool := ps.all fun g => match g with
  | .lit _ => true
  | _ => false

/-- A text without the shortest (or longest) prefix that the pattern matches. -/
def trimPrefix (ps : List Glob) (s : List Char) (longest : Bool) : List Char :=
  let cuts := List.range (s.length + 1)
  let order := if longest then cuts.reverse else cuts
  match order.find? fun k => globMatch ps (s.take k) with
  | some k => s.drop k
  | none => s

/-- A text without the shortest (or longest) suffix that the pattern matches. -/
def trimSuffix (ps : List Glob) (s : List Char) (longest : Bool) : List Char :=
  let cuts := List.range (s.length + 1)
  let order := if longest then cuts.reverse else cuts
  match order.find? fun k => globMatch ps (s.drop (s.length - k)) with
  | some k => s.take (s.length - k)
  | none => s

end Safekeep.Shell
