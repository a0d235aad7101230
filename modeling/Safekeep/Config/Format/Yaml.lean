import Safekeep.Config.Format.YamlParse
import Safekeep.Config.Tree
import Safekeep.Number.Decimal
import Safekeep.Number.Nearest

/-!
# YAML settings files

A YAML settings file is loaded into documents of nodes, and its one document, when it is a
mapping, gives the settings.

## 1. Nodes

Events are assembled into nodes: a sequence's entries in order, a mapping's pairs in the order
their keys first appear (a repeated key replaces the value and keeps the place). A node with an
anchor is remembered under its number once it is complete, and an alias stands for a copy of it;
an alias of a node that is not complete yet is a bad value. A bad key takes no value: the node
after it becomes the key instead.

A plain scalar without a tag is read as, in order: an integer in hexadecimal after `0x` or octal
after `0o` (with an optional sign after the prefix), an integer after `+`, null (`~`, `null`),
a boolean (`true`, `false`), a signed 64-bit integer, a float (also `.inf` with its signed and
capitalised forms, and `.nan`, `NaN`, `.NAN`), and otherwise a string. A scalar tagged `!!bool`, `!!int`,
`!!float` or `!!null` must read as one of those or is a bad value; any other tag, and any quoted
or block scalar, gives a string.

## 2. Settings

A file of no document has no settings, and a file of more than one is refused. Strings,
integers and booleans become settings of their kind, sequences lists and mappings tables of
their pairs with string keys; a pair with a key of any other kind is left out unread. A float is read again as a decimal literal and fails when it is not one (the
spellings with a leading `.`). Null and bad values become nothing. A document that is not a
mapping has no settings.
-/

namespace Safekeep.Config.Yaml

open Safekeep.Number

/-! ## 1. Nodes -/

/-- A loaded YAML node. -/
inductive Node
  -- A float, kept as written.
  | real (text : String)
  | int (i : Int)
  | str (s : String)
  | bool (b : Bool)
  | array (items : List Node)
  | hash (entries : List (Node × Node))
  | null
  -- A value that could not be read as its tag says, or a dangling alias.
  | bad
  deriving Repr, Inhabited

mutual
/-- Whether two nodes are equal: of one kind with equal contents, pairs in the same order. -/
def Node.same : Node → Node → Bool
  | .real a, .real b => a == b
  | .int a, .int b => a == b
  | .str a, .str b => a == b
  | .bool a, .bool b => a == b
  | .array xs, .array ys => Node.sameItems xs ys
  | .hash xs, .hash ys => Node.samePairs xs ys
  | .null, .null => true
  | .bad, .bad => true
  | _, _ => false

def Node.sameItems : List Node → List Node → Bool
  | [], [] => true
  | x :: xs, y :: ys => Node.same x y && Node.sameItems xs ys
  | _, _ => false

def Node.samePairs : List (Node × Node) → List (Node × Node) → Bool
  | [], [] => true
  | (a, b) :: xs, (c, d) :: ys => Node.same a c && Node.same b d && Node.samePairs xs ys
  | _, _ => false
end

instance : BEq Node := ⟨Node.same⟩

def Node.isBad : Node → Bool
  | .bad => true
  | _ => false

/-- A signed integer in a radix: an optional sign, then at least one digit of the radix, within
64 bits. -/
def readRadixInt (radix : Nat) (s : String) : Option Int :=
  let (neg, body) := match s.toList with
    | '+' :: rest => (false, rest)
    | '-' :: rest => (true, rest)
    | cs => (false, cs)
  let digit (c : Char) : Option Nat :=
    let v := if isDigit c then some (c.toNat - '0'.toNat)
      else if 'a' ≤ c ∧ c ≤ 'z' then some (c.toNat - 'a'.toNat + 10)
      else if 'A' ≤ c ∧ c ≤ 'Z' then some (c.toNat - 'A'.toNat + 10)
      else none
    v.bind fun d => if d < radix then some d else none
  match body with
  | [] => none
  | _ =>
    (body.mapM digit).bind fun ds =>
      let n := ds.foldl (fun acc d => radix * acc + d) 0
      let v : Int := if neg then -(n : Int) else n
      if i64Min ≤ v ∧ v ≤ i64Max then some v else none

/-- A signed 64-bit decimal integer: an optional sign, then digits. -/
def readInt (s : String) : Option Int := readSigned i64Min i64Max s

def isFloatText (v : String) : Bool :=
  [".inf", ".Inf", ".INF", "+.inf", "+.Inf", "+.INF", "-.inf", "-.Inf", "-.INF",
    ".nan", "NaN", ".NAN"].contains v || (readFloat v).isSome

/-- The node a plain scalar without a tag reads as. -/
def Node.ofPlain (v : String) : Node :=
  let radix : Option Int :=
    if v.startsWith "0x" then readRadixInt 16 (String.ofList (v.toList.drop 2))
    else none
  let octal : Option Int :=
    if v.startsWith "0o" then readRadixInt 8 (String.ofList (v.toList.drop 2))
    else none
  let plus : Option Int :=
    match v.toList with
    | '+' :: rest => readInt (String.ofList rest)
    | _ => none
  match radix, octal, plus with
  | some i, _, _ => .int i
  | none, some i, _ => .int i
  | none, none, some i => .int i
  | none, none, none =>
    if v = "~" ∨ v = "null" then .null
    else if v = "true" then .bool true
    else if v = "false" then .bool false
    else match readInt v with
      | some i => .int i
      | none => if isFloatText v then .real v else .str v

/-- The node a scalar reads as, by its style and tag. -/
def Node.ofScalar (v : String) (style : Style) (tag : Option (String × String)) : Node :=
  if style ≠ .plain then .str v
  else match tag with
    | some ("!!", "bool") => if v = "true" then .bool true else if v = "false" then .bool false else .bad
    | some ("!!", "int") => match readInt v with
      | some i => .int i
      | none => .bad
    | some ("!!", "float") => if isFloatText v then .real v else .bad
    | some ("!!", "null") => if v = "~" ∨ v = "null" then .null else .bad
    | some _ => .str v
    | none => Node.ofPlain v

/-- Loading steps: parsing, with the nodes of anchors remembered by number. -/
abbrev LoadM := ParseM (List (Nat × Node))

/-- Remember a complete node under its anchor number (0 for none). -/
def remember (anchor : Nat) (n : Node) : LoadM Node := do
  if anchor > 0 then modify fun p => { p with extra := (anchor, n) :: p.extra }
  pure n

/-- Add a pair to a mapping: a new key at the end, a repeated one in its place. -/
def insertPair (entries : List (Node × Node)) (k v : Node) : List (Node × Node) :=
  if entries.any (·.1 == k) then entries.map fun e => if e.1 == k then (k, v) else e
  else entries ++ [(k, v)]

/-- Add the next node of a mapping: the key when none is waiting (or the waiting key is bad),
else the value of the waiting key. -/
def addChild (st : Node × List (Node × Node)) (n : Node) : Node × List (Node × Node) :=
  if st.1.isBad then (n, st.2) else (.bad, insertPair st.2 st.1 n)

/-- The failure of running out of steps, which a text of this size never does. -/
def exhausted {β : Type} : LoadM β := throw ⟨default, "document nested too deeply"⟩

mutual
/-- Assemble the node an event starts; `fuel` bounds the events. -/
def loadNode : Nat → Event → LoadM Node
  | 0, _ => exhausted
  | fuel + 1, ev =>
    match ev with
    | .alias id => do pure (((← get).extra.lookup id).getD .bad)
    | .scalar v style anchor tag => remember anchor (Node.ofScalar v style tag)
    | .sequenceStart anchor => do
      let xs ← loadItems fuel []
      remember anchor (.array xs)
    | .mappingStart anchor => do
      let es ← loadPairs fuel (.bad, [])
      remember anchor (.hash es)
    | _ => throw ⟨default, "unexpected event"⟩

/-- Assemble the entries of a sequence up to its end. -/
def loadItems : Nat → List Node → LoadM (List Node)
  | 0, _ => exhausted
  | fuel + 1, acc => do
    let (ev, _) ← nextEvent
    if ev = .sequenceEnd then pure acc.reverse
    else do
      let n ← loadNode fuel ev
      loadItems fuel (n :: acc)

/-- Assemble the pairs of a mapping up to its end. -/
def loadPairs : Nat → Node × List (Node × Node) → LoadM (List (Node × Node))
  | 0, _ => exhausted
  | fuel + 1, st => do
    let (kev, _) ← nextEvent
    if kev = .mappingEnd then pure st.2
    else do
      let k ← loadNode fuel kev
      let (vev, _) ← nextEvent
      let v ← loadNode fuel vev
      loadPairs fuel (addChild (addChild st k) v)
end

/-- Assemble the documents up to the end of the stream; each starts with no anchors. -/
def loadDocuments : Nat → List Node → LoadM (List Node)
  | 0, docs => pure docs.reverse
  | fuel + 1, docs => do
    let (ev, _) ← nextEvent
    if ev = .streamEnd then pure docs.reverse
    else do
      modify fun p => { p with anchors := [] }
      let (ev, _) ← nextEvent
      let n ← loadNode fuel ev
      let _ ← nextEvent
      loadDocuments fuel (n :: docs)

def loadText (s : String) : Except ScanError (List Node) :=
  let fuel := 16 * (s.length + 8)
  let run : LoadM (List Node) := do
    let _ ← nextEvent
    loadDocuments fuel []
  run.run' (Parser.ofString s [])

/-! ## 2. Settings -/

mutual
/-- The settings tree of a node, every node with the file's origin; fails with a message on a
float that does not read again. -/
def Node.toItem (o : String) : Node → Except String Item
  | .str s => .ok (.leaf (some o) (.text s))
  | .int i => .ok (.leaf (some o) (.int i))
  | .bool b => .ok (.leaf (some o) (.bool b))
  | .real s =>
    match readFloat s with
    | some bits => .ok (.leaf (some o) (.float bits))
    | none => .error ("Parsing " ++ s ++ " as floating point number failed")
  | .array xs => do
    let items ← Node.itemsOf o xs
    .ok (.list (some o) items)
  | .hash es => do
    let members ← Node.membersOf o es []
    .ok (.table (some o) members)
  | .null => .ok (.leaf (some o) .nil)
  | .bad => .ok (.leaf (some o) .nil)

def Node.itemsOf (o : String) : List Node → Except String (List Item)
  | [] => .ok []
  | x :: rest => do
    let i ← Node.toItem o x
    let is ← Node.itemsOf o rest
    .ok (i :: is)

/-- The members of a mapping's pairs, added to `acc` in order; a pair whose key is not a string
is left out, its value unread. -/
def Node.membersOf (o : String) : List (Node × Node) → List (String × Item) →
    Except String (List (String × Item))
  | [], acc => .ok acc
  | (k, v) :: rest, acc =>
    match k with
    | .str n => do
      let item ← Node.toItem o v
      Node.membersOf o rest (upsert acc n item)
    | _ => Node.membersOf o rest acc
end

/-- The top-level settings of a YAML settings file's text; `origin` names the file. -/
def readYamlFile (origin text : String) : Except String (List (String × Item)) := do
  let docs ← (loadText text).mapError (·.text)
  match docs with
  | [] => pure []
  | [root] =>
    match ← root.toItem origin with
    | .table _ es => pure es
    | _ => pure []
  | ds => throw ("Got " ++ toString ds.length ++ " YAML documents, expected 1")

end Safekeep.Config.Yaml
