import Safekeep.Number.Decimal

/-!
# Shortest decimal form of a binary64 float

`shortest x` gives, for a finite nonzero float, the decimal `c × 10^t` with the fewest digits
that reads back to `x`, and among those the one nearest to `x`. A float is taken apart from its
bits into `m × 2^q`; the interval of reals that round to it runs half a gap to either side (a
quarter below when `m` is the smallest mantissa of its binade), ends included when `m` is even.
For 1, 2, … 17 digits the two grid points around `x` are tested in exact arithmetic; the first
grid with a point inside wins.

Two layouts write the digits: `Layout.scientific` switches to `d.ddde±x` outside the decimal
point positions −5 to 16, and `Layout.positional` never does.
-/

namespace Safekeep.Number

/-- A nonnegative rational as numerator and denominator. -/
structure Ratio where
  num : Nat
  den : Nat

def Ratio.le (a b : Ratio) : Bool := a.num * b.den ≤ b.num * a.den

def Ratio.lt (a b : Ratio) : Bool := a.num * b.den < b.num * a.den

def Ratio.ofPow2 (n : Nat) (e : Int) : Ratio :=
  if 0 ≤ e then ⟨n * Nat.pow 2 e.toNat, 1⟩ else ⟨n, Nat.pow 2 (-e).toNat⟩

def Ratio.ofPow10 (n : Nat) (e : Int) : Ratio :=
  if 0 ≤ e then ⟨n * Nat.pow 10 e.toNat, 1⟩ else ⟨n, Nat.pow 10 (-e).toNat⟩

/-- A finite float taken apart: sign, mantissa and binary exponent, value `± m × 2^q`. -/
structure Binary where
  negative : Bool
  mantissa : Nat
  exponent : Int

/-- The parts of a float from its bits; `none` for an infinity or a NaN. -/
def Binary.ofBits (bits : UInt64) : Option Binary :=
  let b := bits.toNat
  let negative : Bool := b / Nat.pow 2 63 % 2 == 1
  let e : Nat := b / Nat.pow 2 52 % Nat.pow 2 11
  let f : Nat := b % Nat.pow 2 52
  if e == 2047 then none
  else if e == 0 then some ⟨negative, f, -1074⟩
  else some ⟨negative, f + Nat.pow 2 52, (e : Int) - 1075⟩

/-- The decimal exponent `k` with `10^k ≤ r < 10^(k+1)`, for `r > 0`; searched within `fuel`. -/
def decimalExponent (r : Ratio) : Nat → Int → Int
  | 0, k => k
  | fuel + 1, k =>
    if (Ratio.ofPow10 1 (k + 1)).le r then decimalExponent r fuel (k + 1)
    else if r.lt (Ratio.ofPow10 1 k) then decimalExponent r fuel (k - 1)
    else k

/-- Digits `c` and exponent `t` with `c × 10^t` the shortest nearest decimal of `m × 2^q`. -/
def shortestOf (m : Nat) (q : Int) : Nat × Int :=
  let lowerQuarter := m == Nat.pow 2 52 && q > -1074
  let v := Ratio.ofPow2 (4 * m) (q - 2)
  let lo := Ratio.ofPow2 (4 * m - (if lowerQuarter then 1 else 2)) (q - 2)
  let hi := Ratio.ofPow2 (4 * m + 2) (q - 2)
  let inside (x : Ratio) : Bool :=
    if m % 2 == 0 then lo.le x && x.le hi else lo.lt x && x.lt hi
  let k := decimalExponent v 700 0
  let rec search : Nat → Nat → Nat × Int
    | 0, _ => (m, 0)
    | fuel + 1, n =>
      let t := k - n + 1
      let grid := Ratio.ofPow10 1 t
      let down := v.num * grid.den / (v.den * grid.num)
      let up := down + 1
      let dIn := inside (Ratio.ofPow10 down t)
      let uIn := inside (Ratio.ofPow10 up t)
      if dIn && uIn then
        -- the nearer of the two; a tie goes down
        let below := Ratio.ofPow10 down t
        let above := Ratio.ofPow10 up t
        let dGap := v.num * below.den * above.den - below.num * v.den * above.den
        let uGap := above.num * v.den * below.den - v.num * below.den * above.den
        if uGap < dGap then (up, t) else (down, t)
      else if dIn then (down, t)
      else if uIn then (up, t)
      else search fuel (n + 1)
  search 17 1

def trimZeros : Nat → Nat × Int → Nat × Int
  | 0, p => p
  | fuel + 1, (c, t) => if c ≠ 0 ∧ c % 10 = 0 then trimZeros fuel (c / 10, t + 1) else (c, t)

/-- How a float's digits are laid out in text. -/
inductive Layout
  -- Positional between decimal point positions −5 and 16, `.0` on whole numbers, otherwise `d.ddd`
  -- with an exponent `e+x` or `e-x`.
  | scientific
  -- Always positional, no `.0` on whole numbers.
  | positional

def zeros (n : Nat) : List Char := List.replicate n '0'

/-- Lay out digits `ds` (no trailing zeros) with decimal point position `p`: the value is
`0.ds × 10^p`. -/
def layDigits : Layout → List Char → Int → List Char
  | .positional, ds, p =>
    if p ≤ 0 then '0' :: '.' :: (zeros (-p).toNat ++ ds)
    else if ds.length ≤ p.toNat then ds ++ zeros (p.toNat - ds.length)
    else ds.take p.toNat ++ '.' :: ds.drop p.toNat
  | .scientific, ds, p =>
    if 0 < p ∧ p ≤ 16 then
      if ds.length ≤ p.toNat then ds ++ zeros (p.toNat - ds.length) ++ ['.', '0']
      else ds.take p.toNat ++ '.' :: ds.drop p.toNat
    else if -5 < p ∧ p ≤ 0 then '0' :: '.' :: (zeros (-p).toNat ++ ds)
    else
      let x := p - 1
      let expo := (if x < 0 then ['-'] else ['+']) ++ digitsOf x.natAbs
      match ds with
      | [d] => d :: 'e' :: expo
      | d :: rest => d :: '.' :: rest ++ 'e' :: expo
      | [] => '0' :: 'e' :: expo

/-- The text of a float in a layout: shortest digits, `NaN`, `inf` and `-inf` spelled out. -/
def floatText (layout : Layout) (bits : UInt64) : String :=
  match Binary.ofBits bits with
  | none =>
    if bits.toNat % Nat.pow 2 52 ≠ 0 then "NaN"
    else if bits.toNat / Nat.pow 2 63 % 2 = 1 then "-inf" else "inf"
  | some b =>
    let sign := if b.negative then ['-'] else []
    if b.mantissa = 0 then
      String.ofList (sign ++ match layout with
        | .scientific => ['0', '.', '0']
        | .positional => ['0'])
    else
      let (c, t) := trimZeros 20 (shortestOf b.mantissa b.exponent)
      let ds := digitsOf c
      String.ofList (sign ++ layDigits layout ds (t + ds.length))

end Safekeep.Number
