import BuildStamp.Text.Writing

/-!
# Binary64 — floating-point numbers of 64 bits

A number is read from decimal digits by rounding to the nearest value, a tie going to the even
one, and written with the fewest digits that read back as the same number, in positional form.
Where two of the shortest decimals are equally near the larger is written.  All arithmetic is on
natural numbers.

* `Binary64` — the values;
* `Binary64.ofDecimal` — the value nearest to a decimal number;
* `Binary64.shortest` — the fewest digits that read back;
* `Binary64.text` — positional form with at least one digit after the point.
-/

namespace BuildStamp

/-- A value of the 64-bit binary format. -/
inductive Binary64 where
  | nan
  | infinity (negative : Bool)
  -- The value `mantissa * 2 ^ exponent`, with a mantissa below `2 ^ 53` and an exponent from
  -- `-1074`, the mantissa being at least `2 ^ 52` where the exponent is larger.
  | finite (negative : Bool) (mantissa : Nat) (exponent : Int)
  deriving DecidableEq, Repr

namespace Binary64

/-! ## Ratios -/

/-- A positive ratio of natural numbers. -/
structure Ratio where
  num : Nat
  den : Nat

/-- The ratio `n * base ^ exponent`. -/
def Ratio.power (n base : Nat) (exponent : Int) : Ratio :=
  if 0 ≤ exponent then ⟨n * base ^ exponent.toNat, 1⟩ else ⟨n, base ^ (-exponent).toNat⟩

/-- The ratio divided by `base ^ exponent`. -/
def Ratio.unscale (r : Ratio) (base : Nat) (exponent : Int) : Ratio :=
  if 0 ≤ exponent then ⟨r.num, r.den * base ^ exponent.toNat⟩
  else ⟨r.num * base ^ (-exponent).toNat, r.den⟩

/-- Whether `a ≤ b`. -/
def Ratio.le (a b : Ratio) : Bool :=
  a.num * b.den ≤ b.num * a.den

/-- The nearest natural number, of two the even one. -/
def Ratio.round (r : Ratio) : Nat :=
  let whole := r.num / r.den
  let twice := 2 * (r.num % r.den)
  if twice < r.den ∨ (twice = r.den ∧ whole % 2 = 0) then whole else whole + 1

/-- The nearest natural number, of two the larger one. -/
def Ratio.roundUp (r : Ratio) : Nat :=
  (2 * r.num + r.den) / (2 * r.den)

/-- The least `n` with `r < 10 ^ n`. -/
def Ratio.decimalOrder (r : Ratio) : Int :=
  if r.den ≤ r.num then (Nat.toDigits 10 (r.num / r.den)).length
  else 1 - ((Nat.toDigits 10 ((r.den - 1) / r.num)).length : Int)

/-! ## Reading -/

def minExponent : Int := -1074

def maxExponent : Int := 971

def ofRatio (negative : Bool) (r : Ratio) : Binary64 :=
  let guess : Int := (Nat.log2 r.num : Int) - Nat.log2 r.den - 52
  let scaled := r.unscale 2 guess
  let exponent := max minExponent (if scaled.num < scaled.den * 2 ^ 52 then guess - 1 else guess)
  let mantissa := (r.unscale 2 exponent).round
  let (mantissa, exponent) :=
    if mantissa = 2 ^ 53 then (2 ^ 52, exponent + 1) else (mantissa, exponent)
  if maxExponent < exponent then .infinity negative else .finite negative mantissa exponent

/-- The value nearest to `digits * 10 ^ exponent`.  A number with more than 310 digits before the
point is beyond all finite values, and one that begins more than 330 places after it is zero. -/
def ofDecimal (negative : Bool) (digits : Nat) (exponent : Int) : Binary64 :=
  let order : Int := (Nat.toDigits 10 digits).length + exponent
  if digits = 0 ∨ order < -330 then .finite negative 0 minExponent
  else if 310 < order then .infinity negative
  else ofRatio negative (Ratio.power digits 10 exponent)

/-! ## Writing -/

/-- The ends of the interval of numbers that read back as `mantissa * 2 ^ exponent`. -/
def bounds (mantissa : Nat) (exponent : Int) : Ratio × Ratio :=
  let below := if mantissa = 2 ^ 52 ∧ minExponent < exponent then 1 else 2
  (Ratio.power (4 * mantissa - below) 2 (exponent - 2),
    Ratio.power (4 * mantissa + 2) 2 (exponent - 2))

/-- Whether a number reads back as `mantissa * 2 ^ exponent`; the ends of the interval do if the
mantissa is even. -/
def readsBack (mantissa : Nat) (exponent : Int) (r : Ratio) : Bool :=
  let (low, high) := bounds mantissa exponent
  if mantissa % 2 = 0 then low.le r && r.le high else !r.le low && !high.le r

/-- Of the multiples of `10 ^ place` next to the value, the nearer one that reads back; if both are
equally near, the larger. -/
def onGrid? (mantissa : Nat) (exponent place : Int) : Option Nat :=
  let value := Ratio.power mantissa 2 exponent
  let scaled := value.unscale 10 place
  let low := scaled.num / scaled.den
  let near := scaled.roundUp
  let far := if near = low then low + 1 else low
  let fits (n : Nat) : Bool := readsBack mantissa exponent (Ratio.power n 10 place)
  if fits near then some near else if fits far then some far else none

/-- The fewest digits that read back as a positive value, and the place of the last of them. -/
def shortest (mantissa : Nat) (exponent : Int) : Nat × Int :=
  let order := (Ratio.power mantissa 2 exponent).decimalOrder
  let attempt (count : Nat) : Option (Nat × Int) :=
    let place := order - (count + 1)
    (onGrid? mantissa exponent place).map (·, place)
  ((List.range 17).findSome? attempt).getD (0, 0)

/-- Digits and the place of the last of them, in positional form. -/
def positional (digits : Nat) (place : Int) : String :=
  let all := Nat.toDigits 10 digits
  if 0 ≤ place then String.ofList (all ++ List.replicate place.toNat '0') ++ ".0"
  else
    let places := (-place).toNat
    let padded := Text.padLeft (places + 1) all
    let whole := padded.take (padded.length - places)
    let fraction := padded.drop (padded.length - places)
    let kept := (fraction.reverse.dropWhile (· == '0')).reverse
    String.ofList whole ++ "." ++ (if kept = [] then "0" else String.ofList kept)

def text : Binary64 → String
  | .nan => "NaN"
  | .infinity negative => if negative then "-inf" else "inf"
  | .finite negative mantissa exponent =>
      let size :=
        if mantissa = 0 then "0.0"
        else
          let (digits, place) := shortest mantissa exponent
          positional digits place
      if negative then "-" ++ size else size

end Binary64
end BuildStamp
