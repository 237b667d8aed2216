import TemplateLint.Json.Value
import TemplateLint.Toml.Moment

/-!
# Words of TOML

A value without quotes or brackets is a run of word characters: a truth value, a number or a
moment.  Settings have no infinities, so `inf` and `nan` are read as `null`.
Main exports: `Toml.isWordChar`, `Toml.word?`.
-/

namespace TemplateLint.Toml

def isWordChar (c : Char) : Bool :=
  c.isAlphanum || ['_', '+', '-', '.', ':'].contains c

/-- The digits without the underscores, each of which must stand between two digits. -/
def joinDigits? (isDigit : Char → Bool) : List Char → Option (List Char)
  | [] => none
  | [c] => if isDigit c then some [c] else none
  | c :: '_' :: rest => do
      if isDigit c then
        let digits ← joinDigits? isDigit rest
        some (c :: digits)
      else none
  | c :: next :: rest => do
      if isDigit c then
        let digits ← joinDigits? isDigit (next :: rest)
        some (c :: digits)
      else none

def integer? (value : Int) : Option Json :=
  if Number.leastSigned ≤ value ∧ value ≤ Number.greatestUnsigned then some (Json.ofInt value)
  else none

/-- The integer written to a base after its mark. -/
def baseInteger? (base : Nat) (text : List Char) : Option Json := do
  let isDigit := fun c => match Text.hexValue? c with
    | some value => decide (value < base)
    | none => false
  let digits ← joinDigits? isDigit text
  let value := digits.foldl (fun value c => value * base + (Text.hexValue? c).getD 0) 0
  integer? value

/-- The digits of a whole number: no zero stands before others. -/
def wholeDigits? (text : List Char) : Option (List Char) := do
  let digits ← joinDigits? Char.isDigit text
  match digits with
  | '0' :: _ :: _ => none
  | digits => some digits

def exponent? (text : List Char) : Option Int := do
  let (negative, text) := match text with
    | '-' :: rest => (true, rest)
    | '+' :: rest => (false, rest)
    | rest => (false, rest)
  let digits ← joinDigits? Char.isDigit text
  let value ← Text.asciiNat? digits
  some (if negative then -(value : Int) else value)

/-- A double as a value; none beyond the largest one. -/
def double? (negative : Bool) (digits : Nat) (exponent : Int) : Option Json := do
  let value ← Double.ofDecimal? negative digits exponent
  some (.number (.double value))

def isExponentMark (c : Char) : Bool :=
  c == 'e' || c == 'E'

def decimal? (negative : Bool) (text : List Char) : Option Json := do
  let mantissa := text.takeWhile fun c => !isExponentMark c
  let exponentPart := text.drop mantissa.length
  let whole := mantissa.takeWhile (· != '.')
  let fractionPart := mantissa.drop whole.length
  let wholeDigits ← wholeDigits? whole
  let wholeValue ← Text.asciiNat? wholeDigits
  match fractionPart, exponentPart with
  | [], [] => integer? (if negative then -(wholeValue : Int) else wholeValue)
  | fractionPart, exponentPart => do
      let fraction ← match fractionPart with
        | [] => some []
        | _ :: digits => joinDigits? Char.isDigit digits
      let exponent ← match exponentPart with
        | [] => some 0
        | _ :: digits => exponent? digits
      let value ← Text.asciiNat? (wholeDigits ++ fraction)
      double? negative value (exponent - fraction.length)

def signed? (negative : Bool) (text : List Char) : Option Json :=
  if text = ['i', 'n', 'f'] ∨ text = ['n', 'a', 'n'] then some .null else decimal? negative text

/-- The member under which a moment is kept. -/
def momentKey : String := "$__toml_private_datetime"

def word? (text : List Char) : Option Json :=
  match text with
  | ['t', 'r', 'u', 'e'] => some (.bool true)
  | ['f', 'a', 'l', 's', 'e'] => some (.bool false)
  | '+' :: rest => signed? false rest
  | '-' :: rest => signed? true rest
  | '0' :: 'x' :: rest => baseInteger? 16 rest
  | '0' :: 'o' :: rest => baseInteger? 8 rest
  | '0' :: 'b' :: rest => baseInteger? 2 rest
  | text =>
      match Moment.read? text with
      | some moment => some (.object [(momentKey, .text moment.text)])
      | none => signed? false text

end TemplateLint.Toml
