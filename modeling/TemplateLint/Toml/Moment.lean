import TemplateLint.Text.Digit

/-!
# Dates and times in TOML

A moment is a date, a time of day, or both with an optional offset; seconds may be left out.
Main exports: `Moment`, `Moment.read?`, `Moment.text`.
-/

namespace TemplateLint.Toml

/-- A day of the calendar. -/
structure Day where
  year : Nat
  month : Nat
  day : Nat
deriving DecidableEq, Repr

/-- A time of day; the fraction is in billionths of a second. -/
structure Clock where
  hour : Nat
  minute : Nat
  second : Option Nat
  fraction : Option Nat
deriving DecidableEq, Repr

/-- The distance from universal time. -/
inductive Offset where
  | universal
  | minutes (value : Int)
deriving DecidableEq, Repr

/-- A date, a time, or both. -/
inductive Moment where
  | date (day : Day)
  | time (clock : Clock)
  | dateTime (day : Day) (clock : Clock) (offset : Option Offset)
deriving DecidableEq, Repr

namespace Moment

/-- The number written by exactly `count` digits, and what follows them. -/
def digits? (count : Nat) (chars : List Char) : Option (Nat × List Char) := do
  let taken := chars.take count
  if taken.length = count then
    let value ← Text.asciiNat? taken
    some (value, chars.drop count)
  else none

def after? (expected : Char) : List Char → Option (List Char)
  | [] => none
  | c :: rest => if c = expected then some rest else none

/-- The year has a 29th of February. -/
def isLeap (year : Nat) : Bool :=
  year % 4 == 0 && (year % 100 != 0 || year % 400 == 0)

def monthLength (year month : Nat) : Nat :=
  if month = 2 then (if isLeap year then 29 else 28)
  else if [4, 6, 9, 11].contains month then 30 else 31

/-- A day, and what follows it. -/
def readDay? (chars : List Char) : Option (Day × List Char) := do
  let (year, chars) ← digits? 4 chars
  let chars ← after? '-' chars
  let (month, chars) ← digits? 2 chars
  let chars ← after? '-' chars
  let (day, chars) ← digits? 2 chars
  if 1 ≤ month ∧ month ≤ 12 ∧ 1 ≤ day ∧ day ≤ monthLength year month then
    some (⟨year, month, day⟩, chars)
  else none

/-- The fraction in billionths; digits beyond the ninth do not count. -/
def billionths (digits : List Char) : Nat :=
  let padded := (digits ++ List.replicate 9 '0').take 9
  (Text.asciiNat? padded).getD 0

/-- The fraction after the seconds, and what follows it. -/
def readFraction? (chars : List Char) : Option (Option Nat × List Char) :=
  match chars with
  | '.' :: rest =>
      let digits := rest.takeWhile Char.isDigit
      if digits = [] then none else some (some (billionths digits), rest.drop digits.length)
  | chars => some (none, chars)

/-- A time of day, and what follows it. -/
def readClock? (chars : List Char) : Option (Clock × List Char) := do
  let (hour, chars) ← digits? 2 chars
  let chars ← after? ':' chars
  let (minute, chars) ← digits? 2 chars
  if 23 < hour ∨ 59 < minute then none
  else
    match chars with
    | ':' :: rest => do
        let (second, rest) ← digits? 2 rest
        let (fraction, rest) ← readFraction? rest
        if 60 < second then none else some (⟨hour, minute, some second, fraction⟩, rest)
    | chars => some (⟨hour, minute, none, none⟩, chars)

def readOffset? (chars : List Char) : Option (Option Offset) := do
  match chars with
  | [] => some none
  | ['Z'] => some (some .universal)
  | ['z'] => some (some .universal)
  | sign :: rest =>
      let (hour, rest) ← digits? 2 rest
      let rest ← after? ':' rest
      let (minute, rest) ← digits? 2 rest
      let total : Int := hour * 60 + minute
      if rest ≠ [] ∨ 23 < hour ∨ 59 < minute then none
      else if sign = '+' then some (some (.minutes total))
      else if sign = '-' then some (some (.minutes (-total)))
      else none

def isJoint (c : Char) : Bool :=
  c == 'T' || c == 't' || c == ' '

def read? (chars : List Char) : Option Moment :=
  match readDay? chars with
  | some (day, []) => some (.date day)
  | some (day, c :: rest) =>
      if isJoint c then do
        let (clock, rest) ← readClock? rest
        let offset ← readOffset? rest
        some (.dateTime day clock offset)
      else none
  | none =>
      match readClock? chars with
      | some (clock, []) => some (.time clock)
      | _ => none

/-- A number with zeros before it up to a width. -/
def padded (width value : Nat) : List Char :=
  let digits := Text.decimal value
  List.replicate (width - digits.length) '0' ++ digits

/-- A fraction without the zeros at its end, of one digit at least. -/
def fractionText (fraction : Nat) : List Char :=
  let digits := ((padded 9 fraction).reverse.dropWhile (· == '0')).reverse
  if digits = [] then ['.', '0'] else '.' :: digits

def dayText (day : Day) : List Char :=
  padded 4 day.year ++ '-' :: padded 2 day.month ++ '-' :: padded 2 day.day

def clockText (clock : Clock) : List Char :=
  let seconds := match clock.second with
    | none => []
    | some second =>
        ':' :: padded 2 second ++ (match clock.fraction with
          | none => []
          | some fraction => fractionText fraction)
  padded 2 clock.hour ++ ':' :: padded 2 clock.minute ++ seconds

def offsetText : Offset → List Char
  | .universal => ['Z']
  | .minutes value =>
      let sign := if value < 0 then '-' else '+'
      sign :: padded 2 (value.natAbs / 60) ++ ':' :: padded 2 (value.natAbs % 60)

def text : Moment → String
  | .date day => String.ofList (dayText day)
  | .time clock => String.ofList (clockText clock)
  | .dateTime day clock offset =>
      let offset := match offset with
        | none => []
        | some offset => offsetText offset
      String.ofList (dayText day ++ 'T' :: clockText clock ++ offset)

end Moment

end TemplateLint.Toml
