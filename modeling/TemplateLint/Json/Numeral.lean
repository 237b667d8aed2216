import TemplateLint.Json.Value
import TemplateLint.Text.Digit

/-!
# Reading of JSON numbers

An integer that fits 64 bits is kept exactly.  Every other number becomes a double: as many leading
digits as fit an unsigned word of 64 bits are rounded to a double, which is then scaled by the
double nearest to the power of ten that is left.  Main export: `Numeral.read?`.
-/

namespace TemplateLint.Numeral

/-- The greatest significand. -/
def limit : Nat := 0xffffffffffffffff

/-- A significand and the power of ten that scales it. -/
structure Parts where
  significand : Nat
  exponent : Int
deriving Repr

/-- The digits before the point: those that no longer fit only raise the exponent. -/
def wholePart (significand : Nat) : List Nat → Parts
  | [] => ⟨significand, 0⟩
  | digit :: rest =>
      let next := significand * 10 + digit
      if next ≤ limit then wholePart next rest else ⟨significand, rest.length + 1⟩

/-- The digits after the point, up to the first that does not fit. -/
def fraction (parts : Parts) : List Nat → Parts
  | [] => parts
  | digit :: rest =>
      let next := parts.significand * 10 + digit
      if next ≤ limit then fraction ⟨next, parts.exponent - 1⟩ rest else parts

/-- Scale a double by a power of ten; exponents beyond the table of powers are reached by dividing
by `10 ^ 308` first. -/
def scale? (value : Double) (exponent : Int) : Nat → Option Double
  | 0 => none
  | fuel + 1 =>
      if exponent.natAbs ≤ 308 then do
        let power ← Double.ofDecimal? false 1 exponent.natAbs
        if 0 ≤ exponent then value.mul? power else value.div? power
      else if value.isZero then some value
      else if 0 ≤ exponent then none
      else do
        let power ← Double.ofDecimal? false 1 308
        let reduced ← value.div? power
        scale? reduced (exponent + 308) fuel

/-- The double of a significand and its power of ten, none beyond the largest one. -/
def Parts.toDouble? (parts : Parts) (negative : Bool) : Option Double := do
  let value ← Double.ofNat? parts.significand
  let scaled ← scale? value parts.exponent 4
  some (scaled.withSign negative)

/-- The values of the leading digits, and what follows them. -/
def takeDigits : List Char → List Nat × List Char
  | [] => ([], [])
  | c :: rest =>
      match Text.asciiDigit? c with
      | some digit =>
          let (digits, rest) := takeDigits rest
          (digit :: digits, rest)
      | none => ([], c :: rest)

/-- The greatest exponent that is counted. -/
def exponentLimit : Nat := 0x7fffffff

def digitsValue (digits : List Nat) : Nat :=
  digits.foldl (fun value digit => value * 10 + digit) 0

/-- The double of the parts once the text of an exponent has been read. -/
def withExponent? (parts : Parts) (negative : Bool) (down : Bool) (digits : List Nat) :
    Option Double :=
  let power := digitsValue digits
  if exponentLimit < power then
    if parts.significand != 0 && !down then none
    else some (Double.zero.withSign negative)
  else
    let shift : Int := if down then -(power : Int) else power
    let least : Int := -0x80000000
    let exponent := max least (min (parts.exponent + shift) exponentLimit)
    ({ parts with exponent := exponent } : Parts).toDouble? negative

/-- What follows the digits of a number: an exponent, or the end of the number. -/
def finish? (parts : Parts) (negative : Bool) : List Char → Option (Double × List Char)
  | c :: rest =>
      if c = 'e' ∨ c = 'E' then do
        let (down, rest) := match rest with
          | '+' :: rest => (false, rest)
          | '-' :: rest => (true, rest)
          | rest => (false, rest)
        let (digits, rest) := takeDigits rest
        if digits.isEmpty then none
        else do
          let value ← withExponent? parts negative down digits
          some (value, rest)
      else do
        let value ← parts.toDouble? negative
        some (value, c :: rest)
  | [] => do
      let value ← parts.toDouble? negative
      some (value, [])

/-- An integer of at most 64 bits, signed when negative; minus zero and integers out of range are
doubles. -/
def integer? (negative : Bool) (significand : Nat) : Option Number :=
  if !negative then some (.integer significand)
  else if significand != 0 && significand ≤ 0x8000000000000000 then
    some (.integer (-(significand : Int)))
  else do
    let value ← Double.ofNat? significand
    some (.double (value.withSign true))

/-- The number after an optional minus sign, and what follows it. -/
def unsigned? (negative : Bool) (chars : List Char) : Option (Number × List Char) := do
  let (digits, rest) := takeDigits chars
  match digits with
  | [] => none
  | 0 :: _ :: _ => none
  | digits =>
      let parts := wholePart 0 digits
      match rest with
      | '.' :: rest =>
          let (decimals, rest) := takeDigits rest
          if decimals.isEmpty then none
          else do
            let (value, rest) ← finish? (fraction parts decimals) negative rest
            some (.double value, rest)
      | 'e' :: _ | 'E' :: _ => do
          let (value, rest) ← finish? parts negative rest
          some (.double value, rest)
      | rest =>
          if parts.exponent = 0 then do
            let value ← integer? negative parts.significand
            some (value, rest)
          else do
            let value ← parts.toDouble? negative
            some (.double value, rest)

/-- The number at the start of a text, and what follows it. -/
def read? : List Char → Option (Number × List Char)
  | '-' :: rest => unsigned? true rest
  | chars => unsigned? false chars

end TemplateLint.Numeral
