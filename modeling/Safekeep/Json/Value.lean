import Safekeep.Number.Shortest

/-!
# JSON values

A JSON document as a tree. Numbers keep the class a reader gives them: a whole literal that fits
an unsigned 64-bit word, a negative whole literal that fits a signed one, or else a binary64
float. Objects are lists of members; a reader that builds them keeps one member per key, sorted
by key, the last one written winning (`Value.object`).

Writing: `Value.compact` puts no blank between tokens, `Value.pretty` puts each member and
element on its own line, indented by two spaces per level. In a string a double quote, a
backslash and every control character below U+0020 are escaped; everything else is written as
it is.
-/

namespace Safekeep.Json

/-- A JSON number as a reader classifies it. -/
inductive Number
  -- A whole literal between 0 and 2^64 − 1.
  | nat (n : Nat)
  -- A negative whole literal not below −2^63.
  | neg (n : Int)
  -- Any other literal, rounded to the nearest binary64 float (by its bits).
  | float (bits : UInt64)
  deriving DecidableEq, Repr, Inhabited

/-- A JSON document. -/
inductive Value
  | null
  | bool (b : Bool)
  | num (n : Number)
  | str (s : String)
  | arr (items : List Value)
  | obj (members : List (String × Value))
  deriving Repr, Inhabited

namespace Value

def nat (n : Nat) : Value := .num (.nat n)

/-- An integer as a JSON value: nonnegative ones as `nat`, negative ones as `neg`. -/
def int (i : Int) : Value := if 0 ≤ i then .num (.nat i.toNat) else .num (.neg i)

def optStr : Option String → Value
  | some s => .str s
  | none => .null

def insertMember (k : String) (v : Value) : List (String × Value) → List (String × Value)
  | [] => [(k, v)]
  | (k', v') :: rest =>
    if k = k' then (k, v) :: rest
    else if k < k' then (k, v) :: (k', v') :: rest
    else (k', v') :: insertMember k v rest

/-- An object from members in writing order: sorted by key, the last of equal keys kept. -/
def object (members : List (String × Value)) : Value :=
  .obj (members.foldl (fun acc m => insertMember m.1 m.2 acc) [])

def field? (v : Value) (k : String) : Option Value :=
  match v with
  | .obj ms => (ms.find? (fun m => m.1 == k)).map Prod.snd
  | _ => none

/-- The member of an object with a key, `null` when there is none. -/
def get (v : Value) (k : String) : Value := (v.field? k).getD .null

def asStr? : Value → Option String
  | .str s => some s
  | _ => none

def asNat? : Value → Option Nat
  | .num (.nat n) => some n
  | _ => none

def asInt? : Value → Option Int
  | .num (.nat n) => some n
  | .num (.neg i) => some i
  | _ => none

def asBool? : Value → Option Bool
  | .bool b => some b
  | _ => none

def asArr? : Value → Option (List Value)
  | .arr xs => some xs
  | _ => none

end Value

/-! ## Writing -/

def hexDigit (n : Nat) : Char :=
  if n < 10 then Char.ofNat (48 + n) else Char.ofNat (87 + n)

/-- The escaped form of one character inside a JSON string. -/
def escapeChar (c : Char) : List Char :=
  if c = '"' then ['\\', '"']
  else if c = '\\' then ['\\', '\\']
  else if c = '\n' then ['\\', 'n']
  else if c = '\r' then ['\\', 'r']
  else if c = '\t' then ['\\', 't']
  else if c.toNat = 8 then ['\\', 'b']
  else if c.toNat = 12 then ['\\', 'f']
  else if c.toNat < 32 then ['\\', 'u', '0', '0', hexDigit (c.toNat / 16), hexDigit (c.toNat % 16)]
  else [c]

def quoteString (s : String) : String :=
  String.ofList ('"' :: (s.toList.flatMap escapeChar ++ ['"']))

/-- The text of a number: a float in its shortest form that reads back. -/
def Number.text : Number → String
  | .nat n => toString n
  | .neg i => Safekeep.Number.intText i
  | .float bits => Safekeep.Number.floatText .scientific bits

mutual
/-- Compact text of a value. -/
def Value.compact : Value → String
  | .null => "null"
  | .bool true => "true"
  | .bool false => "false"
  | .num n => n.text
  | .str s => quoteString s
  | .arr xs => "[" ++ compactItems xs ++ "]"
  | .obj ms => "\x7b" ++ compactMembers ms ++ "\x7d"

def compactItems : List Value → String
  | [] => ""
  | [x] => x.compact
  | x :: rest => x.compact ++ "," ++ compactItems rest

def compactMembers : List (String × Value) → String
  | [] => ""
  | [(k, v)] => quoteString k ++ ":" ++ v.compact
  | (k, v) :: rest => quoteString k ++ ":" ++ v.compact ++ "," ++ compactMembers rest
end

def indent (n : Nat) : String := String.ofList (List.replicate (2 * n) ' ')

mutual
def Value.prettyAt (level : Nat) : Value → String
  | .arr [] => "[]"
  | .obj [] => "\x7b\x7d"
  | .arr xs => "[\n" ++ prettyItems (level + 1) xs ++ "\n" ++ indent level ++ "]"
  | .obj ms => "\x7b\n" ++ prettyMembers (level + 1) ms ++ "\n" ++ indent level ++ "\x7d"
  | v => v.compact

def prettyItems (level : Nat) : List Value → String
  | [] => ""
  | [x] => indent level ++ x.prettyAt level
  | x :: rest => indent level ++ x.prettyAt level ++ ",\n" ++ prettyItems level rest

def prettyMembers (level : Nat) : List (String × Value) → String
  | [] => ""
  | [(k, v)] => indent level ++ quoteString k ++ ": " ++ v.prettyAt level
  | (k, v) :: rest =>
    indent level ++ quoteString k ++ ": " ++ v.prettyAt level ++ ",\n" ++ prettyMembers level rest
end

def Value.pretty (v : Value) : String := v.prettyAt 0

end Safekeep.Json
