import Safekeep.Text.Blank
import Safekeep.Text.Quoted
import Safekeep.Number.Decimal
import Std.Data.HashSet

/-!
# Job selections

A job selection names the jobs a command asks for: `*` or `all` (in any ASCII case) for every
configured job, or parts separated by `;` or `,`, each an id or an inclusive range `a-b` split at
its first `-`, such as `1-3;7`. Blanks around the whole text, around each part and around each
bound are ignored, and parts left empty are skipped. An id is the decimal numeral of a 32-bit
unsigned word with an optional `+`. Each id is kept at its first occurrence only, and a text
without any id is refused.
-/

namespace Safekeep

/-- Which jobs a command asked for. -/
inductive Selection
  -- Every configured job.
  | all
  -- These jobs, in the order asked.
  | ids (ids : List Nat)
  deriving DecidableEq, Repr

/-- Why a selection text was refused. -/
inductive SelectionError
  -- A bound or part that is no id.
  | notAnId (text : String)
  -- A range whose start lies after its end.
  | emptyRange (part : String)
  -- No part names a job.
  | noJob
  deriving DecidableEq, Repr

/-- The message of a refused selection; a text that is no id is shown quoted with escapes. -/
def SelectionError.message : SelectionError → String
  | .notAnId t => "not a job id: " ++ Text.quote t
  | .emptyRange p => "empty range " ++ p
  | .noJob => "no job given"

namespace Selection

def isAllWord (s : String) : Bool := s.toList.map Char.toLower == ['a', 'l', 'l']

def readId (s : String) : Except SelectionError Nat :=
  let t := Text.trim s
  match Number.readUnsigned Number.u32Max t with
  | some n => .ok n
  | none => .error (.notAnId t)

/-- The ids a part stands for: an id, or the range between the bounds around its first `-`. -/
def partIds (part : String) : Except SelectionError (List Nat) :=
  let cs := part.toList
  match cs.dropWhile (· ≠ '-') with
  | [] => (readId part).map fun n => [n]
  | _ :: after => do
    let lo ← readId (String.ofList (cs.takeWhile (· ≠ '-')))
    let hi ← readId (String.ofList after)
    if lo > hi then .error (.emptyRange part) else .ok (List.range' lo (hi + 1 - lo))

/-- Split a text at every `;` and `,`, keeping empty pieces. -/
def splitParts : List Char → List (List Char)
  | [] => [[]]
  | c :: rest =>
    if c = ';' ∨ c = ',' then [] :: splitParts rest
    else match splitParts rest with
      | [] => [[c]]
      | p :: ps => (c :: p) :: ps

def firstOccurrences (xs : List Nat) : List Nat :=
  (xs.foldl (fun (acc : Array Nat × Std.HashSet Nat) x =>
    if acc.2.contains x then acc else (acc.1.push x, acc.2.insert x)) (#[], ∅)).1.toList

/-- The parts of a text: the pieces between separators, each trimmed, the empty ones dropped. -/
def parts (t : String) : List String :=
  ((splitParts t.toList).map fun p => Text.trim (String.ofList p)).filter (· ≠ "")

/-- Read a selection text. -/
def parse (input : String) : Except SelectionError Selection := do
  let t := Text.trim input
  if t = "*" ∨ isAllWord t then return .all
  let ids ← (parts t).mapM partIds
  match ids.flatten with
  | [] => .error .noJob
  | found => .ok (.ids (firstOccurrences found))

/-- The jobs a selection picks among the configured ones: every configured id for `all`, the
asked ids (known or not) otherwise. -/
def resolve (sel : Selection) (configured : List Nat) : List Nat :=
  match sel with
  | .all => configured
  | .ids asked => asked

end Selection

end Safekeep
