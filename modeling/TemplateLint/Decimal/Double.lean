/-!
# Finite double-precision numbers

A finite double is kept as the exact dyadic number `± mantissa · 2 ^ exponent`, so that every
statement about it is one about integers.  `Double.nearest` rounds a quotient of naturals to the
closest double, a tie going to the even mantissa; products, quotients and powers of ten are
rounded through it.
-/

namespace TemplateLint

/-- The finite double `± mantissa · 2 ^ exponent`, in the form with the longest mantissa. -/
structure Double where
  negative : Bool
  mantissa : Nat
  exponent : Int
deriving DecidableEq, Repr, Inhabited

namespace Double

/-- Mantissas have at most 53 bits. -/
def mantissaLimit : Nat := 0x20000000000000

def leastExponent : Int := -1074

/-- The exponent of the largest numbers. -/
def greatestExponent : Int := 971

/-- Positive zero. -/
def zero : Double := ⟨false, 0, leastExponent⟩

/-- `(a, b)` with `num / den / 2 ^ exponent = a / b`. -/
def scaled (num den : Nat) (exponent : Int) : Nat × Nat :=
  if 0 ≤ exponent then (num, den * Nat.pow 2 exponent.toNat)
  else (num * Nat.pow 2 (-exponent).toNat, den)

/-- The integer nearest to `num / den`; a tie goes to the even one. -/
def roundQuotient (num den : Nat) : Nat :=
  let quotient := num / den
  let twice := 2 * (num % den)
  if twice > den || (twice == den && quotient % 2 == 1) then quotient + 1 else quotient

/-- The exponent at which the quotient `num / den` has a mantissa of 53 bits, or the least one. -/
def exponentFor (num den : Nat) : Int :=
  let guess := max ((Nat.log2 num : Int) - (Nat.log2 den : Int) - 53) leastExponent
  let (a, b) := scaled num den guess
  if mantissaLimit ≤ a / b then guess + 1 else guess

/-- The double nearest to `num / den`, or none beyond the largest one. -/
def nearest (negative : Bool) (num den : Nat) : Option Double :=
  if num == 0 then some { zero with negative := negative }
  else
    let exponent := exponentFor num den
    let (a, b) := scaled num den exponent
    let rounded := roundQuotient a b
    let (mantissa, exponent) :=
      if rounded == mantissaLimit then (mantissaLimit / 2, exponent + 1) else (rounded, exponent)
    if greatestExponent < exponent then none else some ⟨negative, mantissa, exponent⟩

def ratio (value : Double) : Nat × Nat :=
  if 0 ≤ value.exponent then (value.mantissa * Nat.pow 2 value.exponent.toNat, 1)
  else (value.mantissa, Nat.pow 2 (-value.exponent).toNat)

def isZero (value : Double) : Bool :=
  value.mantissa == 0

def withSign (value : Double) (negative : Bool) : Double :=
  { value with negative := negative }

def mul? (left right : Double) : Option Double :=
  let (a, b) := left.ratio
  let (c, d) := right.ratio
  nearest false (a * c) (b * d)

/-- The rounded quotient of two magnitudes; the divisor is not zero. -/
def div? (left right : Double) : Option Double :=
  let (a, b) := left.ratio
  let (c, d) := right.ratio
  nearest false (a * d) (b * c)

def ofNat? (value : Nat) : Option Double :=
  nearest false value 1

/-- The double nearest to `digits · 10 ^ exponent`, or none beyond the largest one. -/
def ofDecimal? (negative : Bool) (digits : Nat) (exponent : Int) : Option Double :=
  if digits == 0 then some { zero with negative := negative }
  else if exponent > 400 then none
  else if 0 ≤ exponent then nearest negative (digits * Nat.pow 10 exponent.toNat) 1
  else
    let magnitude : Int := (Nat.log2 digits : Int) / 3 + exponent
    if magnitude < -400 then some { zero with negative := negative }
    else nearest negative digits (Nat.pow 10 (-exponent).toNat)

/-- The integer that the double denotes, when it denotes one. -/
def toInt? (value : Double) : Option Int :=
  let (a, b) := value.ratio
  if a % b == 0 then
    some (if value.negative then -((a / b : Nat) : Int) else ((a / b : Nat) : Int))
  else none

end Double

end TemplateLint
