import Safekeep.Config.Tree
import Safekeep.Json.Read

/-!
# Configuration files in JSON

A JSON document becomes a tree node for node: null as nothing, numbers that fit a signed 64-bit
word as integers and all others as floats (a whole number beyond the word rounded to the
nearest float), objects as tables with one member per key (a repeated key's last value). A document whose top is not an object
gives no settings. A document that does not read fails with the reader's message.
-/

namespace Safekeep.Config

open Safekeep.Json

def scalarOfNumber : Json.Number → Scalar
  | .nat n => if (n : Int) ≤ Number.i64Max then .int n else .float (Number.nearestBits false n 1)
  | .neg i => .int i
  | .float b => .float b

mutual
/-- A JSON document as a tree whose every node has one origin. -/
def itemOfJson (o : Option String) : Json.Value → Item
  | .null => .leaf o .nil
  | .bool b => .leaf o (.bool b)
  | .num n => .leaf o (scalarOfNumber n)
  | .str s => .leaf o (.text s)
  | .arr xs => .list o (itemsOfJson o xs)
  | .obj ms => .table o ((membersOfJson o ms).foldl (fun acc (k, v) => upsert acc k v) [])

def itemsOfJson (o : Option String) : List Json.Value → List Item
  | [] => []
  | x :: rest => itemOfJson o x :: itemsOfJson o rest

def membersOfJson (o : Option String) : List (String × Json.Value) → List (String × Item)
  | [] => []
  | (k, v) :: rest => (k, itemOfJson o v) :: membersOfJson o rest
end

def readJsonFile (origin : String) (text : String) : Except String (List (String × Item)) :=
  match Json.parse text with
  | .error f => .error f.text
  | .ok v => .ok (itemOfJson (some origin) v).members

end Safekeep.Config
