import Safekeep.Json.Fault
import Safekeep.Json.Value

/-!
# Shapes: what a typed decoder expects

A `Shape` says what a typed decoder accepts at one place of a document: anything, a boolean, an
integer within a range, a text (possibly checked further), an optional value, a sequence, a
record with named fields, or one of a list of names. `Shape.decode` checks an already parsed
value against a shape and keeps only what the shape names; faults found this way have no place
in a text. Members of an object are looked at in key order, as the parsed value holds them.
-/

namespace Safekeep.Json

/-- What a typed decoder accepts. -/
inductive Shape
  -- Any value, kept as it is.
  | any
  -- `true` or `false`.
  | bool
  -- A whole number from `lo` to `hi`, called `name` in messages.
  | word (lo hi : Int) (name : String)
  -- A text, called `expecting` in messages; `refuse` gives the message for a text the decoder turns
  -- down after reading it.
  | text (expecting : String) (refuse : String → Option String)
  -- `null` or a value of the inner shape.
  | opt (inner : Shape)
  -- A sequence of values of one shape.
  | seq (elem : Shape)
  -- A record called `name`; with `defaulted` a missing field takes its default, otherwise a missing
  -- field that is not optional is a fault.
  | record (name : String) (defaulted : Bool) (fields : List (String × Shape))
  -- One of the names, written as a text (or as an object with one member whose value is `null`).
  | variants (names : List String)

def Shape.u64 : Shape := .word 0 (Int.pow 2 64 - 1) "u64"

def Shape.u32 : Shape := .word 0 (Int.pow 2 32 - 1) "u32"

def Shape.i64 : Shape := .word (-(Int.pow 2 63)) (Int.pow 2 63 - 1) "i64"

def Shape.string : Shape := .text "a string" (fun _ => none)

def Shape.path : Shape := .text "path string" (fun _ => none)

def Shape.optional : Shape → Bool
  | .opt _ => true
  | _ => false

def wordFault (lo hi : Int) (name : String) : Number → Option Fault
  | .nat v => if lo ≤ (v : Int) ∧ (v : Int) ≤ hi then none else some (.invalidValue (.unsigned v) name)
  | .neg v => if lo ≤ v ∧ v ≤ hi then none else some (.invalidValue (.signed v) name)
  | .float bits => some (.invalidType (.float bits) name)

/-- How a parsed value is named when it is not what a decoder expects. -/
def Value.unexpected : Value → Unexpected
  | .null => .unit
  | .bool b => .bool b
  | .num (.nat n) => .unsigned n
  | .num (.neg i) => .signed i
  | .num (.float b) => .float b
  | .str s => .str s
  | .arr _ => .seq
  | .obj _ => .map

/-- How a shape is named in messages. -/
def Shape.expecting : Shape → String
  | .any => "any value"
  | .bool => "a boolean"
  | .word _ _ name => name
  | .text e _ => e
  | .opt _ => "option"
  | .seq _ => "a sequence"
  | .record name _ _ => "struct " ++ name
  | .variants _ => "string or map"

def firstMissing (defaulted : Bool) (fields : List (String × Shape))
    (present : List (String × Value)) : Option String :=
  if defaulted then none
  else (fields.find? fun f => !f.2.optional && !(present.any fun p => p.1 == f.1)).map Prod.fst

def inFieldOrder (fields : List (String × Shape)) (present : List (String × Value)) :
    List (String × Value) :=
  fields.filterMap fun f => (present.find? fun p => p.1 == f.1).map fun p => (f.1, p.2)

mutual
/-- Check a parsed value against a shape. -/
def Shape.decode : Shape → Value → Except Fault Value
  | .any, v => .ok v
  | .bool, .bool b => .ok (.bool b)
  | .word lo hi name, .num n =>
    match wordFault lo hi name n with
    | some f => .error f
    | none => .ok (.num n)
  | .text _ refuse, .str s =>
    match refuse s with
    | some msg => .error (.custom msg)
    | none => .ok (.str s)
  | .opt _, .null => .ok .null
  | .opt inner, v => inner.decode v
  | .seq elem, .arr xs => Shape.decodeAll elem xs
  | .record _ defaulted fields, .obj ms => do
    let present ← Shape.decodeMembers fields ms
    match firstMissing defaulted fields present with
    | some f => .error (.missingField f)
    | none => .ok (.obj (inFieldOrder fields present))
  | .record name defaulted fields, .arr xs =>
    Shape.decodePositional name defaulted fields fields.length 0 fields xs
  | .variants names, .str s =>
    if names.contains s then .ok (.str s) else .error (.unknownVariant s names)
  | .variants names, .obj [(k, v)] =>
    if names.contains k then
      match v with
      | .null => .ok (.str k)
      | other => .error (.invalidType other.unexpected "unit")
    else .error (.unknownVariant k names)
  | .variants _, .obj _ => .error (.invalidValue .map "map with a single key")
  | s, v => .error (.invalidType v.unexpected s.expecting)
  termination_by s v => (sizeOf v, sizeOf s)

/-- Check every element of a sequence. -/
def Shape.decodeAll (elem : Shape) : List Value → Except Fault Value
  | [] => .ok (.arr [])
  | x :: rest => do
    let y ← elem.decode x
    match ← Shape.decodeAll elem rest with
    | .arr ys => .ok (.arr (y :: ys))
    | other => .ok other
  termination_by xs => (sizeOf xs, 0)

/-- Check the members of an object that name fields; the others are skipped. -/
def Shape.decodeMembers (fields : List (String × Shape)) :
    List (String × Value) → Except Fault (List (String × Value))
  | [] => .ok []
  | (k, v) :: rest =>
    match fields.find? (fun f => f.1 == k) with
    | some f => do
      let y ← f.2.decode v
      let ys ← Shape.decodeMembers fields rest
      .ok ((k, y) :: ys)
    | none => Shape.decodeMembers fields rest
  termination_by ms => (sizeOf ms, 0)

/-- Check a record written as a sequence: the elements fill the fields in order. -/
def Shape.decodePositional (name : String) (defaulted : Bool) (all : List (String × Shape))
    (count index : Nat) : List (String × Shape) → List Value → Except Fault Value
  | [], [] => .ok (.obj [])
  | [], extra => .error (.invalidLength (index + extra.length) "fewer elements in array")
  | (_ :: _), [] =>
    if defaulted then .ok (.obj [])
    else .error (.invalidLength index ("struct " ++ name ++ " with " ++ toString count ++ " elements"))
  | (f :: fs), (x :: xs) => do
    let y ← f.2.decode x
    match ← Shape.decodePositional name defaulted all count (index + 1) fs xs with
    | .obj ms => .ok (.obj ((f.1, y) :: ms))
    | other => .ok other
  termination_by _ xs => (sizeOf xs, 0)
end

end Safekeep.Json
