import Safekeep.Number.Nearest

/-!
# Configuration trees

Every source of configuration (a file, the environment) gives a tree of settings: scalars
(nothing, a boolean, a signed 64-bit integer, a float, a text), lists and tables. Each node
remembers where it was read, its origin, which error messages name; nodes made while merging
have none.

## 1. Keys

A key names a place in a tree: a name, a child of a place (`a.b`) or an element of a list at a
place (`a[2]`, `a[-1]` counting from the end). Names are made of ASCII letters, digits, blanks,
`_` and `-`; an index is an optional `-` and digits, with blanks or tabs around it. A key that
does not read this way names the table member of that exact text.

## 2. Setting a value

Sources are laid over one another by setting each of their top-level members at its key:

* at a name, the tree is first made a table; a table value is merged member by member into the
  table found there (a new empty one if none), every other value replaces what was there;
* at a child, the place of the parent is reached, made a table if it is not one, and the value
  set at the child's name;
* at an element, the place of the list is reached, made a list if it is not one, padded with
  nothing up to the index, and the element replaced.

Reaching a place creates what is missing: a missing member is created as nothing, a node that
is not a table (for a child) or a list (for an element) is replaced by an empty one. A name is
reached only in a table, so setting below a name of a tree that is not a table does nothing.
-/

namespace Safekeep.Config

/-- A scalar setting. -/
inductive Scalar
  | nil
  | bool (b : Bool)
  -- A signed 64-bit integer.
  | int (i : Int)
  -- A binary64 float, by its bits.
  | float (bits : UInt64)
  | text (s : String)
  deriving DecidableEq, Repr

/-- A tree of settings; every node carries its origin. -/
inductive Item
  | leaf (origin : Option String) (s : Scalar)
  | list (origin : Option String) (items : List Item)
  | table (origin : Option String) (entries : List (String × Item))
  deriving Repr

instance : Inhabited Item := ⟨.leaf none .nil⟩

namespace Item

def blank : Item := .leaf none .nil

def emptyTable : Item := .table none []

def origin : Item → Option String
  | .leaf o _ => o
  | .list o _ => o
  | .table o _ => o

end Item

def lookup (es : List (String × Item)) (k : String) : Option Item :=
  (es.find? (·.1 == k)).map (·.2)

def upsert (es : List (String × Item)) (k : String) (v : Item) : List (String × Item) :=
  if es.any (·.1 == k) then es.map fun e => if e.1 == k then (k, v) else e else es ++ [(k, v)]

/-! ## 1. Keys -/

/-- A key: a place in a tree. -/
inductive Key
  | name (id : String)
  | child (parent : Key) (id : String)
  | index (parent : Key) (i : Int)
  deriving DecidableEq, Repr

def isKeyChar (c : Char) : Bool :=
  ('a' ≤ c && c ≤ 'z') || ('A' ≤ c && c ≤ 'Z') || ('0' ≤ c && c ≤ '9') || c = ' ' || c = '_' || c = '-'

/-- A name at the front of a text, and the rest; none when it does not start with one. -/
def takeName (cs : List Char) : Option (String × List Char) :=
  let name := cs.takeWhile isKeyChar
  if name.isEmpty then none else some (String.ofList name, cs.drop name.length)

/-- An index and its closing bracket at the front of a text (after the opening bracket). -/
def takeIndex (cs : List Char) : Option (Int × List Char) :=
  let blank (c : Char) : Bool := c = ' ' || c = '\t'
  let cs := cs.dropWhile blank
  let (neg, cs) := match cs with
    | '-' :: rest => (true, rest)
    | _ => (false, cs)
  let ds := cs.takeWhile Number.isDigit
  if ds.isEmpty then none
  else
    let v : Int := Number.digitsValue ds
    let v := if neg then -v else v
    match (cs.drop ds.length).dropWhile blank with
    | ']' :: rest => if Number.i64Min ≤ v ∧ v ≤ Number.i64Max then some (v, rest) else none
    | _ => none

/-- Read the steps after a key's first name; `fuel` bounds the steps. -/
def keySteps (k : Key) : Nat → List Char → Option Key
  | _, [] => some k
  | 0, _ :: _ => none
  | fuel + 1, '.' :: rest =>
    match takeName rest with
    | some (id, more) => keySteps (.child k id) fuel more
    | none => none
  | fuel + 1, '[' :: rest =>
    match takeIndex rest with
    | some (i, more) => keySteps (.index k i) fuel more
    | none => none
  | _ + 1, _ :: _ => none

/-- The key a text names; a text that is not a key names the member of that exact text. -/
def Key.parse (s : String) : Key :=
  match takeName s.toList with
  | some (id, rest) => (keySteps (.name id) rest.length rest).getD (.name s)
  | none => .name s

/-! ## 2. Setting a value -/

/-- The position an index names in a list of a length: from the end when negative; none when it
lies before the start, or at 2^24 or beyond, where no list is padded out to it. -/
def slot (i : Int) (len : Nat) : Option Nat :=
  if 0 ≤ i then (if i.toNat < Nat.pow 2 24 then some i.toNat else none)
  else if (-i).toNat ≤ len then some (len - (-i).toNat) else none

/-- Apply `f` to a member of a table's entries, created as nothing when missing. -/
def atMember (es : List (String × Item)) (id : String) (f : Item → Item) : List (String × Item) :=
  upsert es id (f ((lookup es id).getD Item.blank))

def atElement (o : Option String) (xs : List Item) (i : Int) (f : Item → Item) : Item :=
  match slot i xs.length with
  | some u =>
    let xs := xs ++ List.replicate (u + 1 - xs.length) Item.blank
    .list o (xs.set u (f (xs.getD u Item.blank)))
  | none => .list o xs

/-- Apply `f` at the place a key reaches, creating what is missing on the way. -/
def Key.reach : Key → (Item → Item) → Item → Item
  | .name id, f, root =>
    match root with
    | .table o es => .table o (atMember es id f)
    | other => other
  | .child k id, f, root =>
    k.reach (fun p => match p with
      | .table o es => .table o (atMember es id f)
      | _ => .table none [(id, f Item.blank)]) root
  | .index k i, f, root =>
    k.reach (fun p => match p with
      | .list o xs => atElement o xs i f
      | _ => atElement none [] i f) root

mutual
/-- Set a value at a name of a tree, which is made a table first; a table value is merged into
the table found there member by member. -/
def setAt (id : String) (v : Item) (root : Item) : Item :=
  let (o, es) : Option String × List (String × Item) := match root with
    | .table o es => (o, es)
    | _ => (none, [])
  match v with
  | .table _ incoming => .table o (upsert es id (mergeAll incoming ((lookup es id).getD Item.emptyTable)))
  | _ => .table o (upsert es id v)
  termination_by sizeOf v

def mergeAll (incoming : List (String × Item)) (target : Item) : Item :=
  match incoming with
  | [] => target
  | (k, x) :: rest => mergeAll rest (setAt k x target)
  termination_by sizeOf incoming
end

/-- Set a value at a key. -/
def Key.set (k : Key) (v : Item) (root : Item) : Item :=
  match k with
  | .name id => setAt id v root
  | .child p id => p.reach (setAt id v) root
  | .index p i => p.reach (fun node => match node with
      | .list o xs => atElement o xs i fun _ => v
      | _ => atElement none [] i fun _ => v) root

def layer (root : Item) (entries : List (String × Item)) : Item :=
  entries.foldl (fun r e => (Key.parse e.1).set e.2 r) root

/-- The members of a table; none for any other node. -/
def Item.members : Item → List (String × Item)
  | .table _ es => es
  | _ => []

end Safekeep.Config
