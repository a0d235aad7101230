import Safekeep.Number.Decimal
import Safekeep.Number.Shortest

/-!
# Nearest floats

Turning exact numbers into binary64 floats and back.

## 1. Rounding a rational

`nearestBits` gives the binary64 float nearest to a nonnegative rational, a tie going to the
neighbour with an even last bit. Below the smallest normal float the grid is that of the
subnormals; beyond the largest finite float the result is an infinity.

## 2. Decimal float literals

`readFloat` reads the decimal float literals the standard library accepts: an optional sign,
then `inf`, `infinity` or `nan` in any case, or digits with an optional point and fraction (at
least one digit in all) and an optional exponent `e` or `E` with an optional sign and at least
one digit. The value is the exact decimal rounded by `nearestBits`.

## 3. Back to whole numbers

`roundWord` is a float rounded half away from zero and then saturated into an unsigned 64-bit
word: negative values and NaN give 0, values above the word's range its largest value.
-/

namespace Safekeep.Number

/-! ## 1. Rounding a rational -/

def roundEven (a b : Nat) : Nat :=
  let q := a / b
  let r := a % b
  if 2 * r > b ∨ (2 * r = b ∧ q % 2 = 1) then q + 1 else q

/-- The exponent `e` with `2^e ≤ num / den < 2^(e+1)`, for positive `num` and `den`. -/
def binaryExponent (num den : Nat) : Int :=
  let e : Int := (num.log2 : Int) - den.log2
  let below : Bool :=
    if 0 ≤ e then num < den * Nat.pow 2 e.toNat else num * Nat.pow 2 (-e).toNat < den
  if below then e - 1 else e

def infinityBits : UInt64 := 0x7ff0000000000000

/-- The bits of the binary64 float nearest to `num / den` (with `den > 0`), negated when asked. -/
def nearestBits (negative : Bool) (num den : Nat) : UInt64 :=
  let sign : Nat := if negative then Nat.pow 2 63 else 0
  if num = 0 ∨ den = 0 then UInt64.ofNat sign
  else
    let e := binaryExponent num den
    if e < -1022 then
      -- subnormal grid: units of 2^-1074; a carry to 2^52 is the smallest normal float
      UInt64.ofNat (sign + roundEven (num * Nat.pow 2 1074) den)
    else
      let shift : Int := 52 - e
      let q := if 0 ≤ shift then roundEven (num * Nat.pow 2 shift.toNat) den
        else roundEven num (den * Nat.pow 2 (-shift).toNat)
      let (q, e) := if q = Nat.pow 2 53 then (Nat.pow 2 52, e + 1) else (q, e)
      if e > 1023 then UInt64.ofNat sign + infinityBits
      else UInt64.ofNat (sign + (e + 1023).toNat * Nat.pow 2 52 + (q - Nat.pow 2 52))

/-- The float nearest to `± m × 10^x`. Exponents far outside the float range are clamped first,
which changes no result: beyond them every nonzero value is an infinity or a zero. -/
def decimalBits (negative : Bool) (m : Nat) (x : Int) (digits : Nat) : UInt64 :=
  let x := max (-((digits : Int) + 400)) (min 400 x)
  if 0 ≤ x then nearestBits negative (m * Nat.pow 10 x.toNat) 1
  else nearestBits negative m (Nat.pow 10 (-x).toNat)

/-! ## 2. Decimal float literals -/

def nanBits : UInt64 := 0x7ff8000000000000

/-- Whether a text spells `inf`, `infinity` or `nan`, in any case; their bits. -/
def specialFloat? (s : List Char) : Option UInt64 :=
  let t := String.ofList (s.map Char.toLower)
  if t = "inf" ∨ t = "infinity" then some infinityBits
  else if t = "nan" then some nanBits
  else none

def spanDigits (s : List Char) : List Char × List Char := (s.takeWhile isDigit, s.dropWhile isDigit)

/-- The value of digits, zero for none. -/
def digitsValue (ds : List Char) : Nat := ds.foldl (fun n c => 10 * n + (c.toNat - '0'.toNat)) 0

/-- An exponent part after its `e`: an optional sign, then at least one digit, nothing after. -/
def readExponent (s : List Char) : Option Int :=
  let (neg, body) := match s with
    | '-' :: rest => (true, rest)
    | '+' :: rest => (false, rest)
    | _ => (false, s)
  if body.isEmpty ∨ !body.all isDigit then none
  else
    let v : Int := digitsValue body
    some (if neg then -v else v)

/-- An unsigned decimal literal: mantissa digits, exponent and digit count. -/
def readMantissa (s : List Char) : Option (Nat × Int × Nat) :=
  let (whole, rest) := spanDigits s
  let (frac, rest) := match rest with
    | '.' :: more => spanDigits more
    | _ => ([], rest)
  if whole.isEmpty ∧ frac.isEmpty then none
  else
    let e : Option Int := match rest with
      | [] => some 0
      | c :: more => if c = 'e' ∨ c = 'E' then readExponent more else none
    e.map fun x => (digitsValue (whole ++ frac), x - frac.length, whole.length + frac.length)

/-- The bits of a decimal float literal, or none when the text is not one. -/
def readFloat (text : String) : Option UInt64 :=
  let (negative, body) := match text.toList with
    | '-' :: rest => (true, rest)
    | '+' :: rest => (false, rest)
    | cs => (false, cs)
  match specialFloat? body with
  | some bits => some (if negative then bits + 0x8000000000000000 else bits)
  | none =>
    (readMantissa body).map fun (m, x, digits) => decimalBits negative m x digits

/-! ## 3. Back to whole numbers -/

/-- A float rounded half away from zero, then saturated into an unsigned 64-bit word. -/
def roundWord (bits : UInt64) : Nat :=
  match Binary.ofBits bits with
  | none => if bits = infinityBits then u64Max else 0
  | some b =>
    if b.negative then 0
    else
      let whole :=
        if 0 ≤ b.exponent then b.mantissa * Nat.pow 2 b.exponent.toNat
        else
          let d := Nat.pow 2 (-b.exponent).toNat
          b.mantissa / d + (if 2 * (b.mantissa % d) ≥ d then 1 else 0)
      min whole u64Max

def isZeroBits (bits : UInt64) : Bool := bits.toNat % Nat.pow 2 63 = 0

end Safekeep.Number
