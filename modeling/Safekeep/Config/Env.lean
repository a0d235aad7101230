import Safekeep.Config.Tree
import Safekeep.Text.Lower

/-!
# Settings from the environment

Environment variables named `BACKUP_…` (in any case) give settings. The name is lower-cased,
the prefix `backup_` dropped, and every `__` turned into `.`, so `BACKUP_SETTINGS__X` sets the
member `x` of `settings`. The value is read as the most specific scalar it spells: `true` or
`false` in any case as a boolean, then a signed 64-bit decimal numeral as an integer, then a
float literal as a float, and otherwise as the text itself (blanks and all). Every such setting
has the origin `the environment`.
-/

namespace Safekeep.Config

open Safekeep.Number

def environmentOrigin : String := "the environment"

def envPrefix : String := "backup_"

/-- A variable's value as the most specific scalar it spells. -/
def guessScalar (v : String) : Scalar :=
  let l := Text.lower v
  if l = "true" then .bool true
  else if l = "false" then .bool false
  else
    match readSigned i64Min i64Max v with
    | some i => .int i
    | none =>
      match readFloat v with
      | some b => .float b
      | none => .text v

def envKey (name : String) : Option String :=
  let key := Text.lower name
  if key.startsWith envPrefix then
    some ((String.ofList (key.toList.drop envPrefix.length)).replace "__" ".")
  else none

/-- The settings the environment gives, one member per key (a later variable of the same key
winning). -/
def envEntries (vars : List (String × String)) : List (String × Item) :=
  vars.foldl (fun acc (name, v) =>
    match envKey name with
    | some k => upsert acc k (.leaf (some environmentOrigin) (guessScalar v))
    | none => acc) []

end Safekeep.Config
