/-!
# Decimal numerals

Reading and writing integers in decimal. A numeral for an unsigned width is an optional `+`
followed by one or more ASCII digits whose value does not exceed the width's maximum; a signed
numeral may start with `-` instead. Anything else, an empty text and a lone sign included, is
refused.
-/

namespace Safekeep.Number

def u32Max : Nat := Nat.pow 2 32 - 1

def u64Max : Nat := Nat.pow 2 64 - 1

def i64Max : Int := Int.pow 2 63 - 1

def i64Min : Int := -(Int.pow 2 63)

def isDigit (c : Char) : Bool := '0' ≤ c && c ≤ '9'

def readDigits : List Char → Option Nat
  | [] => none
  | cs => if cs.all isDigit then some (cs.foldl (fun n c => 10 * n + (c.toNat - '0'.toNat)) 0)
    else none

/-- An unsigned numeral no larger than `max`: optional `+`, then digits. -/
def readUnsigned (max : Nat) (s : String) : Option Nat :=
  let cs := s.toList
  let body := match cs with
    | '+' :: rest => rest
    | _ => cs
  match readDigits body with
  | some n => if n ≤ max then some n else none
  | none => none

/-- A signed numeral between `lo` and `hi`: optional `+` or `-`, then digits. -/
def readSigned (lo hi : Int) (s : String) : Option Int :=
  let (neg, body) := match s.toList with
    | '+' :: rest => (false, rest)
    | '-' :: rest => (true, rest)
    | cs => (false, cs)
  match readDigits body with
  | some n =>
    let v : Int := if neg then -(n : Int) else n
    if lo ≤ v ∧ v ≤ hi then some v else none
  | none => none

def digitsOf (n : Nat) : List Char := Nat.toDigits 10 n

def intText (i : Int) : String :=
  match i with
  | .ofNat n => String.ofList (digitsOf n)
  | .negSucc n => String.ofList ('-' :: digitsOf (n + 1))

end Safekeep.Number
