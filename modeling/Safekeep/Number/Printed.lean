import Safekeep.Number.Precision
import Safekeep.Number.Shortest

/-!
# Floats printed with a fixed number of digits

The three conversions of formatted printing, on the exact value of a float, rounding half to
even:

* fixed (`f`): the value rounded to `p` places after the point;
* exponent (`e`): one digit, the point, `p` digits, then `e`, a sign and at least two digits of
  the exponent, the value rounded to `p + 1` significant digits;
* general (`g`): with `P` significant digits (`p`, or 1 when `p` is 0), the exponent `X` the
  value has in exponent form; when `P > X ≥ -4` the fixed form with `P - 1 - X` places, else the
  exponent form with `P - 1`; trailing zeros of the fraction, and then a bare point, removed.

A fourth, hexadecimal (`a`), writes the exact significand in base 16: `0x`, a leading digit,
the point and the digits after it, `p`, a sign and the binary exponent in decimal. The digits
after the point take four bits of the significand each, and the leading digit what they leave
over: one bit in double precision (`1`, or `0` below the normal range), four in the extended
precision. Without a precision the trailing zeros are dropped; with one the digits are rounded
to it, half to even, and a carry out of a leading `f` gives `1` and moves the exponent by four.

The alternate form keeps the point (and, for `g`, the zeros). Upper-case letters write `E`,
`X`, `P`, the hexadecimal digits, `INF` and `NAN`. The sign is left to the caller.
-/

namespace Safekeep.Number

def scaledRound (m : Nat) (e k : Int) : Nat :=
  let num := m * Nat.pow 2 (max e 0).toNat * Nat.pow 10 (max k 0).toNat
  let den := Nat.pow 2 (max (-e) 0).toNat * Nat.pow 10 (max (-k) 0).toNat
  roundEven num den

/-- The decimal digits of a number, at least `n` of them (zeros in front). -/
def digitsAtLeast (n v : Nat) : List Char :=
  let ds := Nat.toDigits 10 v
  List.replicate (n - ds.length) '0' ++ ds

def fixedForm (m : Nat) (e : Int) (p : Nat) (alt : Bool) : String :=
  let ds := digitsAtLeast (p + 1) (scaledRound m e p)
  let whole := ds.take (ds.length - p)
  let frac := ds.drop (ds.length - p)
  String.ofList (whole ++ (if p > 0 ∨ alt then '.' :: frac else []))

/-- The exponent `X` of `m × 2^e` in exponent form with `p` digits after the point (after
rounding), and the `p + 1` significant digits. -/
def exponentParts (m : Nat) (e : Int) (p : Nat) : Int × Nat :=
  if m = 0 then (0, 0)
  else
    let r := Ratio.ofPow2 m e
    let guess : Int := ((r.num.log2 : Int) - r.den.log2) * 30103 / 100000
    let x := decimalExponent r 8 guess
    let n := scaledRound m e ((p : Int) - x)
    if n ≥ Nat.pow 10 (p + 1) then (x + 1, scaledRound m e ((p : Int) - (x + 1))) else (x, n)

def exponentSuffix (upper : Bool) (x : Int) : String :=
  let sign := if x < 0 then "-" else "+"
  String.ofList ((if upper then 'E' else 'e') :: sign.toList ++ digitsAtLeast 2 x.natAbs)

def exponentForm (m : Nat) (e : Int) (p : Nat) (alt upper : Bool) : String :=
  let (x, n) := exponentParts m e p
  let ds := digitsAtLeast (p + 1) n
  let mant := ds.take 1 ++ (if p > 0 ∨ alt then '.' :: ds.drop 1 else [])
  String.ofList mant ++ exponentSuffix upper x

/-- Remove the trailing zeros of a fraction, and a point left bare. -/
def dropFractionZeros (s : String) : String :=
  if s.contains '.' then
    let cs := (s.toList.reverse.dropWhile (· = '0'))
    let cs := match cs with
      | '.' :: more => more
      | _ => cs
    String.ofList cs.reverse
  else s

/-- The general form of `m × 2^e` with `p` significant digits (0 read as 1). -/
def generalForm (m : Nat) (e : Int) (p : Nat) (alt upper : Bool) : String :=
  let P := if p = 0 then 1 else p
  let (x, _) := exponentParts m e (P - 1)
  if (P : Int) > x ∧ x ≥ -4 then
    let s := fixedForm m e (P - 1 - x).toNat alt
    if alt then s else dropFractionZeros s
  else
    let s := exponentForm m e (P - 1) alt upper
    if alt then s
    else
      let mant := s.toList.takeWhile fun c => c ≠ 'e' && c ≠ 'E'
      dropFractionZeros (String.ofList mant) ++ String.ofList (s.toList.drop mant.length)

def hexValueOf (ds : List Nat) : Nat := ds.foldl (fun n d => 16 * n + d) 0

/-- The `n` base-16 digits of `v` (below `16 ^ n`), most significant first. -/
def hexDigitsOf (n v : Nat) : List Nat := (List.range n).reverse.map fun i => v / Nat.pow 16 i % 16

/-- The hexadecimal form of a float of format `f` split into its leading digit, the digits
after the point and the binary exponent, before any rounding. -/
def hexParts (f : FloatFormat) (m : Nat) (e : Int) : Nat × List Nat × Int :=
  let fracBits := f.precision - ((f.precision - 1) % 4 + 1)
  let x : Int := if m = 0 then 0 else e + fracBits
  (m / Nat.pow 2 fracBits, hexDigitsOf (fracBits / 4) (m % Nat.pow 2 fracBits), x)

/-- The digits after the point rounded to `p` of them, half to even: the leading digit, the
digits and the exponent. A carry out of a leading `f` gives `1` and adds four to the
exponent. -/
def hexRounded (leading : Nat) (ds : List Nat) (x : Int) (p : Nat) : Nat × List Nat × Int :=
  let kept := ds.take p
  let next := ds.getD p 0
  let more := (ds.drop (p + 1)).any (· ≠ 0)
  let last := if p = 0 then leading else kept.getLastD 0
  if next > 8 ∨ (next = 8 ∧ (more ∨ last % 2 = 1)) then
    let v := leading * Nat.pow 16 p + hexValueOf kept + 1
    if v / Nat.pow 16 p > 15 then (1, List.replicate p 0, x + 4)
    else (v / Nat.pow 16 p, hexDigitsOf p (v % Nat.pow 16 p), x)
  else (leading, kept, x)

/-- The hexadecimal form of `m × 2^e`, a float of format `f`, with `p` digits after the point
(as many as the value needs when none is asked). -/
def hexForm (f : FloatFormat) (m : Nat) (e : Int) (p : Option Nat) (alt upper : Bool) : String :=
  let (leading, ds, x) := hexParts f m e
  let trimmed := (ds.reverse.dropWhile (· = 0)).reverse
  let (leading, ds, x) := match p with
    | none => (leading, trimmed, x)
    | some p =>
      if p ≥ trimmed.length then (leading, trimmed ++ List.replicate (p - trimmed.length) 0, x)
      else hexRounded leading ds x p
  let digit (d : Nat) : Char :=
    let c := Nat.digitChar d
    if upper then c.toUpper else c
  let mant := digit leading :: (if ds.isEmpty ∧ ¬alt then [] else '.' :: ds.map digit)
  let sign := if x < 0 then "-" else "+"
  (if upper then "0X" else "0x") ++ String.ofList mant ++ (if upper then "P" else "p") ++ sign ++
    toString x.natAbs

/-- The digits of a float of format `f` written by conversion `letter` (`f`, `F`, `e`, `E`,
`g`, `G`, `a` or `A`) with precision `p` (6 when none is given, except for `a`), without its
sign. -/
def FloatValue.printed (f : FloatFormat) (v : FloatValue) (letter : Char) (p : Option Nat)
    (alt : Bool) : String :=
  let upper := letter.isUpper
  match v with
  | .infinite _ => if upper then "INF" else "inf"
  | .nan _ => if upper then "NAN" else "nan"
  | .finite _ m e =>
    let l := letter.toLower
    if l = 'f' then fixedForm m e (p.getD 6) alt
    else if l = 'e' then exponentForm m e (p.getD 6) alt upper
    else if l = 'a' then hexForm f m e p alt upper
    else generalForm m e (p.getD 6) alt upper

end Safekeep.Number
