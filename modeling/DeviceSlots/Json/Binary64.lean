/-!
# Binary floating-point numbers

Magnitudes in the binary64 format, in exact arithmetic: a magnitude is a mantissa below `2 ^ 53`
times a power of two not below `2 ^ (-1074)`. A ratio is rounded to the nearest magnitude, a tie to
the one with an even mantissa. The decimal text of a magnitude has the fewest digits that are
rounded back to it, and among those the nearest ones.
-/

namespace DeviceSlots.Json

/-- The magnitude `mantissa * 2 ^ exponent`. -/
structure Binary64 where
  mantissa : Nat
  exponent : Int
  deriving DecidableEq, Repr

/-- A ratio of natural numbers. -/
structure Ratio where
  num : Nat
  den : Nat
  deriving DecidableEq, Repr

namespace Ratio

/-- The ratio times `base ^ exponent`. -/
def shift (r : Ratio) (base : Nat) : Int → Ratio
  | .ofNat k => ⟨r.num * Nat.pow base k, r.den⟩
  | .negSucc k => ⟨r.num, r.den * Nat.pow base (k + 1)⟩

/-- The product of two ratios. -/
def mul (r s : Ratio) : Ratio := ⟨r.num * s.num, r.den * s.den⟩

/-- The quotient of two ratios. -/
def div (r s : Ratio) : Ratio := ⟨r.num * s.den, r.den * s.num⟩

/-- The nearest whole number, a tie to the even one. -/
def roundEven (r : Ratio) : Nat :=
  let q := r.num / r.den
  let twice := 2 * (r.num % r.den)
  if twice > r.den || (twice = r.den && q % 2 = 1) then q + 1 else q

end Ratio

namespace Binary64

/-- The least exponent. -/
def minExponent : Int := -1074

/-- The greatest exponent. -/
def maxExponent : Int := 971

/-- The value of the leading bit of a mantissa that has all 53 bits. -/
def leading : Nat := Nat.pow 2 52

/-- The magnitude zero. -/
def zero : Binary64 := ⟨0, minExponent⟩

/-- The magnitude as a ratio. -/
def toRatio (x : Binary64) : Ratio := (⟨x.mantissa, 1⟩ : Ratio).shift 2 x.exponent

/-- The magnitude nearest to a ratio, or `none` if that is beyond the greatest one. -/
def ofRatio? (r : Ratio) : Option Binary64 :=
  if r.num = 0 then some zero
  else
    let estimate : Int := (Nat.log2 r.num : Int) - Nat.log2 r.den - 52
    let scaled := r.shift 2 (-estimate)
    let fitting := if scaled.num < scaled.den * leading then estimate - 1 else estimate
    let exponent := max minExponent fitting
    let mantissa := (r.shift 2 (-exponent)).roundEven
    let rounded : Binary64 :=
      if mantissa = 2 * leading then ⟨leading, exponent + 1⟩ else ⟨mantissa, exponent⟩
    if rounded.exponent > maxExponent then none else some rounded

/-- The greatest power of ten that is used in one step. -/
def maxPower : Nat := 308

/-- The magnitude divided by a power of ten, in steps of at most `10 ^ 308` that are rounded one by
one. -/
def divPower (x : Binary64) (power : Nat) : Binary64 :=
  if power ≤ maxPower then quotient x power
  else if x.mantissa = 0 then zero
  else divPower (quotient x maxPower) (power - maxPower)
  termination_by power
  decreasing_by simp only [maxPower] at *; omega
where
  /-- One rounded division by the rounded power of ten. -/
  quotient (x : Binary64) (power : Nat) : Binary64 :=
    ((ofRatio? ⟨Nat.pow 10 power, 1⟩).bind fun p => ofRatio? (x.toRatio.div p.toRatio)).getD zero

/-- The magnitude times a power of ten, both rounded before the product is; `none` if that is beyond
the greatest magnitude. -/
def mulPower? (x : Binary64) (power : Nat) : Option Binary64 :=
  if power ≤ maxPower then
    (ofRatio? ⟨Nat.pow 10 power, 1⟩).bind fun p => ofRatio? (x.toRatio.mul p.toRatio)
  else if x.mantissa = 0 then some zero
  else none

/-- The magnitude of a decimal significand times a power of ten. -/
def ofDecimal? (significand : Nat) (exponent : Int) : Option Binary64 := do
  let x ← ofRatio? ⟨significand, 1⟩
  match exponent with
  | .ofNat power => x.mulPower? power
  | .negSucc power => some (x.divPower (power + 1))

/-! ## Decimal text -/

/-- The decimal number of `digits * 10 ^ exponent` that lies in the given bounds next to a value, if
the grid of that exponent has one. -/
def onGrid? (value low high : Ratio) (closed : Bool) (exponent : Int) : Option Nat :=
  let scaled := value.shift 10 (-exponent)
  let below := scaled.num / scaled.den
  let within (d : Nat) : Bool :=
    let lowEnd := low.shift 10 (-exponent)
    let highEnd := high.shift 10 (-exponent)
    if closed then lowEnd.num ≤ d * lowEnd.den && d * highEnd.den ≤ highEnd.num
    else lowEnd.num < d * lowEnd.den && d * highEnd.den < highEnd.num
  match below > 0 && within below, within (below + 1) with
  | true, true => some scaled.roundEven
  | true, false => some below
  | false, true => some (below + 1)
  | false, false => none

/-- The coarsest decimal grid, from an exponent on downwards, that has a number in the bounds. -/
def coarsest (value low high : Ratio) (closed : Bool) : (steps : Nat) → Int → Nat × Int
  | 0, exponent => (0, exponent)
  | steps + 1, exponent =>
    match onGrid? value low high closed exponent with
    | some digits => (digits, exponent)
    | none => coarsest value low high closed steps (exponent - 1)

/-- The shortest decimal that is rounded to a magnitude other than zero, as a whole number and a
power of ten. -/
def shortest (x : Binary64) : Nat × Int :=
  let quarter (n : Nat) : Ratio := (⟨n, 1⟩ : Ratio).shift 2 (x.exponent - 2)
  let gap := if x.mantissa = leading && x.exponent > minExponent then 1 else 2
  coarsest (quarter (4 * x.mantissa)) (quarter (4 * x.mantissa - gap))
    (quarter (4 * x.mantissa + 2)) (x.mantissa % 2 = 0) 700 310

/-- Drops the zeros at the end of a decimal and raises its exponent accordingly. -/
def stripZeros : (fuel : Nat) → Nat → Int → Nat × Int
  | 0, digits, exponent => (digits, exponent)
  | fuel + 1, digits, exponent =>
    if digits % 10 = 0 && digits > 0 then stripZeros fuel (digits / 10) (exponent + 1)
    else (digits, exponent)

/-- The text of a magnitude. Positional notation is used from `10 ^ (-5)` up to `10 ^ 16`, always
with a digit after the point; beyond, an exponent with its sign follows the shortest digits. -/
def text (x : Binary64) : String :=
  if x.mantissa = 0 then "0.0"
  else
    let (whole, power) := x.shortest
    let (significand, exponent) := stripZeros 20 whole power
    let digits := Nat.toDigits 10 significand
    let pointAt := digits.length + exponent
    let zeros (n : Int) : List Char := List.replicate n.toNat '0'
    if exponent ≥ 0 && pointAt ≤ 16 then
      String.ofList (digits ++ zeros exponent ++ ['.', '0'])
    else if 0 < pointAt && pointAt ≤ 16 then
      String.ofList (digits.take pointAt.toNat ++ ['.'] ++ digits.drop pointAt.toNat)
    else if -5 < pointAt && pointAt ≤ 0 then
      String.ofList (['0', '.'] ++ zeros (-pointAt) ++ digits)
    else
      let fraction := if digits.length = 1 then [] else '.' :: digits.drop 1
      let sign := if pointAt > 0 then '+' else '-'
      String.ofList (digits.take 1 ++ fraction ++ ['e', sign] ++
        Nat.toDigits 10 (pointAt - 1).natAbs)

end Binary64

end DeviceSlots.Json
