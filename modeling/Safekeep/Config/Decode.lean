import Safekeep.Config.Tree
import Safekeep.Text.Quoted
import Safekeep.Text.Lower

/-!
# Decoding configuration trees

A tree is decoded into typed settings by converting its scalars as the settings library does.

## 1. Conversions

* to an unsigned 64-bit integer: a nonnegative integer as it is, a float rounded half away from
  zero and saturated, a boolean as 0 or 1, a text `true`, `on` or `yes` (in any case) as 1,
  `false`, `off` or `no` as 0, any other text read as an unsigned decimal numeral;
* to a boolean: a number is true unless zero, a text `1`, `true`, `on` or `yes` (in any case) is
  true and `0`, `false`, `off` or `no` false;
* to a text: a boolean, integer or float in its usual spelling (floats without a trailing `.0`).

Anything else is a type mismatch that names what was found, what was wanted, the key it was
found under and the origin of the node.

## 2. Records, lists and variants

A record is decoded from a table member by member: members that name no field are skipped and
fields without a member keep their default. A list decodes a record too, its elements filling
the fields in order. A list of texts comes from a list whose elements are converted one by one.
A variant comes from a text naming it, or from a table of exactly one member whose name names
it.

A mismatch found below a member or an element names the whole key: member names joined by `.`,
element positions as `[i]`. Records, lists and variants given the wrong kind of node fail with
a plain message that names the node the way the decoder was handed it.
-/

namespace Safekeep.Config

open Safekeep.Number

/-! ## 1. Conversions -/

/-- What a decoder was given instead of what it wanted. -/
inductive Found
  | unit
  | bool (b : Bool)
  | int (i : Int)
  | float (bits : UInt64)
  | text (s : String)
  | seq
  | map
  deriving DecidableEq, Repr

/-- What a node is, for a message. -/
def Item.found : Item → Found
  | .leaf _ .nil => .unit
  | .leaf _ (.bool b) => .bool b
  | .leaf _ (.int i) => .int i
  | .leaf _ (.float f) => .float f
  | .leaf _ (.text s) => .text s
  | .list _ _ => .seq
  | .table _ _ => .map

/-- How a type mismatch names what was found. -/
def Found.name : Found → String
  | .unit => "unit value"
  | .bool b => "boolean `" ++ toString b ++ "`"
  | .int i => "integer 64 bit `" ++ intText i ++ "`"
  | .float b => "floating point `" ++ floatText .positional b ++ "`"
  | .text s => "string " ++ Text.quote s
  | .seq => "sequence"
  | .map => "map"

/-- A finite float's spelling with `.0` added when it has no point. -/
def withPoint (t : String) : String :=
  if t.toList.all (fun c => Number.isDigit c || c = '-') then t ++ ".0" else t

def Found.plainName : Found → String
  | .int i => "integer `" ++ intText i ++ "`"
  | .float b => "floating point `" ++ withPoint (floatText .positional b) ++ "`"
  | other => other.name

/-- Why a tree does not decode. -/
inductive DecodeError
  -- A scalar of the wrong kind, with the key it sits under and its origin.
  | mismatch (found : Found) (expected : String) (key : Option String) (origin : Option String)
  | message (text : String)
  deriving DecidableEq, Repr

namespace DecodeError

/-- The text of a decoding failure. -/
def text : DecodeError → String
  | .mismatch f e k o =>
    "invalid type: " ++ f.name ++ ", expected " ++ e ++
      (match k with
        | some k => " for key `" ++ k ++ "`"
        | none => "") ++
      (match o with
        | some o => " in " ++ o
        | none => "")
  | .message t => t

/-- Put a key step in front of a mismatch's key: a member name joined with `.` (unless the key
goes on with an element), or an element position. -/
def under (step : String) (dot : Bool) : DecodeError → DecodeError
  | .mismatch f e k o =>
    let rest := k.getD ""
    let sep := if dot && !rest.isEmpty && !rest.startsWith "[" then "." else ""
    .mismatch f e (some (step ++ sep ++ rest)) o
  | other => other

def wrongKind (f : Found) (expecting : String) : DecodeError :=
  .message ("invalid type: " ++ f.plainName ++ ", expected " ++ expecting)

end DecodeError

def isWordOf (s : String) (words : List String) : Bool := words.contains (Text.lower s)

/-- A node as an unsigned 64-bit integer. -/
def Item.toWord : Item → Except DecodeError Nat
  | .leaf o (.int i) =>
    if 0 ≤ i then .ok i.toNat else .error (.mismatch (.int i) "an unsigned 64 bit or less integer" none o)
  | .leaf o (.text s) =>
    if isWordOf s ["true", "on", "yes"] then .ok 1
    else if isWordOf s ["false", "off", "no"] then .ok 0
    else
      match readUnsigned u64Max s with
      | some n => .ok n
      | none => .error (.mismatch (.text s) "an integer" none o)
  | .leaf _ (.bool b) => .ok (if b then 1 else 0)
  | .leaf _ (.float f) => .ok (roundWord f)
  | .leaf o .nil => .error (.mismatch .unit "an integer" none o)
  | .list o _ => .error (.mismatch .seq "an integer" none o)
  | .table o _ => .error (.mismatch .map "an integer" none o)

/-- A node as a boolean. -/
def Item.toFlag : Item → Except DecodeError Bool
  | .leaf _ (.bool b) => .ok b
  | .leaf _ (.int i) => .ok (i ≠ 0)
  | .leaf _ (.float f) => .ok !(isZeroBits f)
  | .leaf o (.text s) =>
    if isWordOf s ["1", "true", "on", "yes"] then .ok true
    else if isWordOf s ["0", "false", "off", "no"] then .ok false
    else .error (.mismatch (.text (Text.lower s)) "a boolean" none o)
  | .leaf o .nil => .error (.mismatch .unit "a boolean" none o)
  | .list o _ => .error (.mismatch .seq "a boolean" none o)
  | .table o _ => .error (.mismatch .map "a boolean" none o)

/-- A node as a text. -/
def Item.toText : Item → Except DecodeError String
  | .leaf _ (.text s) => .ok s
  | .leaf _ (.bool b) => .ok (toString b)
  | .leaf _ (.int i) => .ok (intText i)
  | .leaf _ (.float f) => .ok (floatText .positional f)
  | .leaf o .nil => .error (.mismatch .unit "a string" none o)
  | .list o _ => .error (.mismatch .seq "a string" none o)
  | .table o _ => .error (.mismatch .map "a string" none o)

/-! ## 2. Records, lists and variants -/

def decodeEach {α : Type} (f : Item → Except DecodeError α) (xs : List Item) : Except DecodeError (List α) :=
  (xs.zipIdx.mapM fun (x, i) => (f x).mapError (·.under ("[" ++ toString i ++ "]") false))

def Item.toTexts : Item → Except DecodeError (List String)
  | .list _ xs => decodeEach Item.toText xs
  | other => .error (DecodeError.wrongKind other.found "a sequence")

/-- A field of a record: its name and how a node changes the record. -/
structure Field (α : Type) where
  name : String
  put : Item → α → Except DecodeError α

/-- Decode a record named `typeName` from a node, starting from its defaults. -/
def decodeRecord {α : Type} (typeName : String) (fields : List (Field α)) (init : α) :
    Item → Except DecodeError α
  | .table _ es =>
    es.foldlM (fun acc (k, v) =>
      match fields.find? (·.name == k) with
      | some f => (f.put v acc).mapError (·.under k true)
      | none => .ok acc) init
  | .list _ xs =>
    (fields.zip xs).zipIdx.foldlM (fun acc ((f, v), i) =>
      (f.put v acc).mapError (·.under ("[" ++ toString i ++ "]") false)) init
  | other => .error (DecodeError.wrongKind other.found ("struct " ++ typeName))

/-- Decode a variant of an enumeration named `typeName` from a node. -/
def decodeVariant {α : Type} (typeName : String) (variants : List (String × α)) :
    Item → Except DecodeError α :=
  let pick (s : String) : Except DecodeError α :=
    match variants.find? (·.1 == s) with
    | some (_, v) => .ok v
    | none => .error (.message ("enum " ++ typeName ++ " does not have variant constructor " ++ s))
  fun
  | .leaf _ (.text s) => pick s
  | .table _ [(k, _)] => pick k
  | _ => .error (.message ("value of enum " ++ typeName ++
      " should be represented by either string or table with exactly one key"))

end Safekeep.Config
