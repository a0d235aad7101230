import Safekeep.Number.Nearest

/-!
# Floats of a given precision

A binary floating-point format is fixed by the bits of its significand and the exponent range
of its normal numbers: double precision has 53 bits and exponents −1022 to 1023, the extended
precision of the x87 unit 64 bits and exponents −16382 to 16383. `FloatFormat.round` rounds a
nonnegative rational to the nearest number of a format, a tie going to the even significand;
below the normal range the grid is that of the subnormal numbers, beyond it the result is an
infinity.

`readCFloat` reads a number at the front of a text the way the system's float reader does:
leading white space, an optional sign, then `inf` or `infinity` or `nan` (with an optional
parenthesized tail) in any case, a hexadecimal number `0x` with an optional point and an
optional binary exponent `p`, or a decimal number with an optional point and an optional
exponent `e`; an exponent counts only when digits follow it. It gives the value, what is left
of the text, and whether the value was out of range, or nothing when no number starts the
text.
-/

namespace Safekeep.Number

/-- A binary floating-point format: the bits of its significand, and the exponents of the
leading bit of its smallest and largest normal numbers. -/
structure FloatFormat where
  precision : Nat
  minExp : Int
  maxExp : Int

def FloatFormat.double : FloatFormat := ⟨53, -1022, 1023⟩

def FloatFormat.extended : FloatFormat := ⟨64, -16382, 16383⟩

/-- A float with its sign: finite `m × 2^e`, infinite, or not a number. -/
inductive FloatValue
  | finite (negative : Bool) (m : Nat) (e : Int)
  | infinite (negative : Bool)
  | nan (negative : Bool)
  deriving DecidableEq, Repr

def FloatValue.negative : FloatValue → Bool
  | .finite n _ _ => n
  | .infinite n => n
  | .nan n => n

/-- The float of a format nearest to `num / den`, negated when asked; a tie goes to the even
significand. -/
def FloatFormat.round (f : FloatFormat) (negative : Bool) (num den : Nat) : FloatValue :=
  if num = 0 ∨ den = 0 then .finite negative 0 0
  else
    let e := max (binaryExponent num den) f.minExp
    let shift : Int := (f.precision : Int) - 1 - e
    let q := if 0 ≤ shift then roundEven (num * Nat.pow 2 shift.toNat) den
      else roundEven num (den * Nat.pow 2 (-shift).toNat)
    let (q, e) := if q = Nat.pow 2 f.precision then (Nat.pow 2 (f.precision - 1), e + 1) else (q, e)
    if e > f.maxExp then .infinite negative
    else .finite negative q (e + 1 - (f.precision : Int))

/-- Whether `num / den` lies outside what a format holds as a normal number: too large for
it, or nonzero and below its smallest normal number. -/
def FloatFormat.outOfRange (f : FloatFormat) (num den : Nat) : Bool :=
  if num = 0 ∨ den = 0 then false
  else
    match f.round false num den with
    | .infinite _ => true
    | _ => binaryExponent num den < f.minExp

/-- What reading a number gave: the value, the characters left, and whether the value was out
of range. -/
structure CRead where
  value : FloatValue
  rest : List Char
  outOfRange : Bool

def isCSpace (c : Char) : Bool :=
  c = ' ' || c = '\t' || c = '\n' || c = '\r' || c.toNat = 11 || c.toNat = 12

def startsCaseless (cs : List Char) (w : String) : Bool :=
  (cs.take w.length).map Char.toLower == w.toList

def hexValue (c : Char) : Option Nat :=
  if '0' ≤ c ∧ c ≤ '9' then some (c.toNat - 48)
  else if 'a' ≤ c ∧ c ≤ 'f' then some (c.toNat - 87)
  else if 'A' ≤ c ∧ c ≤ 'F' then some (c.toNat - 55)
  else none

/-- An exponent after its letter: an optional sign and digits, and what follows; nothing
when no digit comes. -/
def spanExponent (cs : List Char) : Option (Int × List Char) :=
  let (neg, body) : Bool × List Char := match cs with
    | '-' :: more => (true, more)
    | '+' :: more => (false, more)
    | _ => (false, cs)
  let ds := body.takeWhile isDigit
  if ds.isEmpty then none
  else
    let v : Int := min (digitsValue ds) 100000
    some (if neg then -v else v, body.drop ds.length)

def scaledValue (f : FloatFormat) (negative : Bool) (m : Nat) (base : Nat) (x : Int) : FloatValue × Bool :=
  let (num, den) := if 0 ≤ x then (m * Nat.pow base x.toNat, 1) else (m, Nat.pow base (-x).toNat)
  (f.round negative num den, f.outOfRange num den)

/-- The tail `(chars)` that may follow `nan`. -/
def nanTail (cs : List Char) : List Char :=
  match cs with
  | '(' :: more =>
    let body := more.takeWhile fun c => c.isAlphanum || c = '_'
    match more.drop body.length with
    | ')' :: after => after
    | _ => cs
  | _ => cs

/-- Read a float at the front of a text the way the system's reader does. -/
def readCFloat (f : FloatFormat) (text : List Char) : Option CRead :=
  let cs := text.dropWhile isCSpace
  let (negative, body) : Bool × List Char := match cs with
    | '-' :: more => (true, more)
    | '+' :: more => (false, more)
    | _ => (false, cs)
  if startsCaseless body "infinity" then some ⟨.infinite negative, body.drop 8, false⟩
  else if startsCaseless body "inf" then some ⟨.infinite negative, body.drop 3, false⟩
  else if startsCaseless body "nan" then some ⟨.nan negative, nanTail (body.drop 3), false⟩
  else
    let hex : Option CRead :=
      match body with
      | '0' :: x :: more =>
        if x = 'x' ∨ x = 'X' then
          let whole := more.takeWhile fun c => (hexValue c).isSome
          let afterWhole := more.drop whole.length
          let (frac, afterFrac) : List Char × List Char := match afterWhole with
            | '.' :: rest => let fr := rest.takeWhile fun c => (hexValue c).isSome; (fr, rest.drop fr.length)
            | _ => ([], afterWhole)
          if whole.isEmpty ∧ frac.isEmpty then none
          else
            let m := (whole ++ frac).foldl (fun n c => 16 * n + (hexValue c).getD 0) 0
            let (p, rest) : Int × List Char := match afterFrac with
              | c :: more => if c = 'p' ∨ c = 'P' then (spanExponent more).getD (0, afterFrac) else (0, afterFrac)
              | [] => (0, [])
            let (v, range) := scaledValue f negative m 2 (p - 4 * frac.length)
            some ⟨v, rest, range⟩
        else none
      | _ => none
    match hex with
    | some r => some r
    | none =>
      let whole := body.takeWhile isDigit
      let afterWhole := body.drop whole.length
      let (frac, afterFrac) : List Char × List Char := match afterWhole with
        | '.' :: rest => let fr := rest.takeWhile isDigit; (fr, rest.drop fr.length)
        | _ => ([], afterWhole)
      if whole.isEmpty ∧ frac.isEmpty then none
      else
        let (x, rest) : Int × List Char := match afterFrac with
          | c :: more => if c = 'e' ∨ c = 'E' then (spanExponent more).getD (0, afterFrac) else (0, afterFrac)
          | [] => (0, [])
        let m := digitsValue (whole ++ frac)
        let x := x - frac.length
        -- far outside every format's range the value is a zero or an infinity either way
        let x := max (-((whole.length + frac.length : Nat) + 6000 : Int)) (min 6000 x)
        let (v, range) := scaledValue f negative m 10 x
        some ⟨v, rest, range⟩

end Safekeep.Number
