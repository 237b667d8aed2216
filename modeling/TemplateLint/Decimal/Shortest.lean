import TemplateLint.Decimal.Double
import TemplateLint.Text.Digit

/-!
# Shortest decimal text of a double

The fewest digits that are read back as the same double, the nearest such digits where several
would do, laid out by `layout`: positional from `0.00001` up to sixteen digits before the point,
with an exponent elsewhere.  Main exports: `Double.shortest`, `Double.text`.
-/

namespace TemplateLint.Double

/-- A decimal `digits · 10 ^ exponent`. -/
structure Decimal where
  digits : Nat
  exponent : Int
deriving DecidableEq, Repr

/-- The interval of magnitudes that are read as this double, in units of a quarter of its last
place: a common denominator, the two ends, and whether the ends belong to it. -/
structure Interval where
  low : Nat
  high : Nat
  denominator : Nat
  closed : Bool
deriving Repr

def interval (value : Double) : Interval :=
  let (num, den) := ({ value with exponent := value.exponent - 2 } : Double).ratio
  let unit := num / value.mantissa
  let below :=
    if value.mantissa == mantissaLimit / 2 && leastExponent < value.exponent then 1 else 2
  { low := (4 * value.mantissa - below) * unit
    high := (4 * value.mantissa + 2) * unit
    denominator := den
    closed := value.mantissa % 2 == 0 }

/-- `num / den` lies in the interval. -/
def Interval.contains (range : Interval) (num den : Nat) : Bool :=
  let point := num * range.denominator
  if range.closed then range.low * den ≤ point && point ≤ range.high * den
  else range.low * den < point && point < range.high * den

/-- `10 ^ exponent` as a quotient. -/
def tenPower (exponent : Int) : Nat × Nat :=
  if 0 ≤ exponent then (Nat.pow 10 exponent.toNat, 1) else (1, Nat.pow 10 (-exponent).toNat)

/-- The exponent `k` with `10 ^ k ≤ num / den < 10 ^ (k + 1)`, by counting decimal digits. -/
def decimalExponent (num den : Nat) : Int :=
  let guess : Int := ((Text.decimal num).length : Int) - ((Text.decimal den).length : Int)
  let (a, b) := tenPower guess
  if a * den ≤ num * b then guess else guess - 1

/-- The nearest point of the decimal grid with the given exponent that is read as `value`. -/
def gridPoint? (value : Double) (exponent : Int) : Option Decimal :=
  let (num, den) := value.ratio
  let (a, b) := tenPower exponent
  let floor := num * b / (den * a)
  let accepts := fun digits => value.interval.contains (digits * a) b
  let below := num * b - floor * a * den
  let above := (floor + 1) * a * den - num * b
  match accepts floor, accepts (floor + 1) with
  | true, true =>
      some ⟨if below < above || (below == above && floor % 2 == 0) then floor else floor + 1,
        exponent⟩
  | true, false => some ⟨floor, exponent⟩
  | false, true => some ⟨floor + 1, exponent⟩
  | false, false => none

/-- The coarsest grid that has a point, tried from the leading digit on. -/
def shortestFrom (value : Double) (exponent : Int) : Nat → Decimal
  | 0 => ⟨value.mantissa, value.exponent⟩
  | fuel + 1 =>
      match value.gridPoint? exponent with
      | some point => point
      | none => shortestFrom value (exponent - 1) fuel

/-- The fewest digits that are read back as this positive double. -/
def shortest (value : Double) : Decimal :=
  let (num, den) := value.ratio
  shortestFrom value (decimalExponent num den) 18

/-- Digits without the zeros that end them, which go into the exponent. -/
def Decimal.stripZeros : Nat → Decimal → Decimal
  | 0, value => value
  | fuel + 1, value =>
      if value.digits != 0 && value.digits % 10 == 0 then
        stripZeros fuel ⟨value.digits / 10, value.exponent + 1⟩
      else value

/-- The written form: positional with a point while the number is at least `0.00001` and has at
most sixteen digits before the point, otherwise one digit before the point and an exponent. -/
def Decimal.layout (value : Decimal) : List Char :=
  let digits := Text.decimal value.digits
  let point : Int := digits.length + value.exponent
  if 0 ≤ value.exponent && point ≤ 16 then
    digits ++ List.replicate value.exponent.toNat '0' ++ ['.', '0']
  else if 0 < point && point ≤ 16 then
    digits.take point.toNat ++ ['.'] ++ digits.drop point.toNat
  else if -5 < point && point ≤ 0 then
    ['0', '.'] ++ List.replicate (-point).toNat '0' ++ digits
  else
    let fraction := if digits.length == 1 then [] else '.' :: digits.drop 1
    let power := point - 1
    let sign := if power < 0 then '-' else '+'
    digits.take 1 ++ fraction ++ ['e', sign] ++ Text.decimal power.natAbs

/-- The shortest text that is read back as the same double. -/
def text (value : Double) : List Char :=
  let sign := if value.negative then ['-'] else []
  if value.isZero then sign ++ ['0', '.', '0']
  else sign ++ (Decimal.stripZeros 20 value.shortest).layout

end TemplateLint.Double
