import TemplateLint.Text.Digit
import TemplateLint.Uri.Domain
import TemplateLint.Uri.Percent

/-!
# Hosts

A host is an address of version 4 or 6 or a domain name, each with one written form.  Schemes
without a web address take almost any text for a host.
Main exports: `UriError`, `Host.read`, `Host.readPlain`.
-/

namespace TemplateLint

/-- Why a text is no URI. -/
inductive UriError where
  | relative
  | emptyHost
  | badDomain
  | badHostCharacter
  | badVersionFour
  | badVersionSix
  | badPort
deriving DecidableEq, Repr

def UriError.message : UriError → String
  | .relative => "relative URL without a base"
  | .emptyHost => "empty host"
  | .badDomain => "invalid international domain name"
  | .badHostCharacter => "invalid domain character"
  | .badVersionFour => "invalid IPv4 address"
  | .badVersionSix => "invalid IPv6 address"
  | .badPort => "invalid port number"

namespace Host

/-! ## Addresses of version 4 -/

def readBase? (base : Nat) (digits : List Char) : Option Nat :=
  digits.foldlM (fun value c => do
    let digit ← Text.hexValue? c
    if digit < base then some (value * base + digit) else none) 0

/-- A number of an address: hexadecimal after `0x`, octal after `0`, decimal otherwise. -/
def part? : List Char → Option Nat
  | [] => none
  | '0' :: 'x' :: digits => readBase? 16 digits
  | '0' :: 'X' :: digits => readBase? 16 digits
  | '0' :: d :: digits => readBase? 8 (d :: digits)
  | digits => readBase? 10 digits

/-- The parts between dots, without an empty one at the end. -/
def dottedParts (name : List Char) : List (List Char) :=
  let parts := Domain.splitDots name
  if parts.getLast? = some [] then parts.dropLast else parts

/-- The last part of the name is a number, so that the name must be an address. -/
def endsInNumber (name : List Char) : Bool :=
  match (dottedParts name).getLast? with
  | none => false
  | some last => (!last.isEmpty && last.all Char.isDigit) || (part? last).isSome

/-- The value of an address whose last number fills the places that the others leave. -/
def versionFour? (name : List Char) : Option Nat := do
  let parts := dottedParts name
  if 4 < parts.length then none
  else
    let numbers ← parts.mapM part?
    let last ← numbers.getLast?
    let first := numbers.dropLast
    if Nat.pow 256 (4 - first.length) ≤ last ∨ first.any (255 < ·) then none
    else some (first.zipIdx.foldl (fun sum (n, place) => sum + n * Nat.pow 256 (3 - place)) last)

def versionFourText (value : Nat) : List Char :=
  ['.'].intercalate <| [3, 2, 1, 0].map fun place => Text.decimal (value / Nat.pow 256 place % 256)

/-! ## Addresses of version 6 -/

def piece? (digits : List Char) : Option Nat :=
  if digits = [] ∨ 4 < digits.length then none else readBase? 16 digits

/-- A number of an address of version 4 inside one of version 6. -/
def octet? (digits : List Char) : Option Nat := do
  let value ← Text.asciiNat? digits
  if 255 < value ∨ (digits.head? = some '0' ∧ 1 < digits.length) then none else some value

/-- The pieces of a part without `::`; an address of version 4 may end the last part. -/
def pieces? (last : Bool) : List (List Char) → Option (List Nat)
  | [] => some []
  | [text] =>
      if last ∧ text.contains '.' then
        match (Domain.splitDots text).mapM octet? with
        | some [a, b, c, d] => some [a * 256 + b, c * 256 + d]
        | _ => none
      else (piece? text).map ([·])
  | text :: rest => do
      let piece ← piece? text
      let others ← pieces? last rest
      some (piece :: others)

def splitGap : List Char → List Char × Option (List Char)
  | [] => ([], none)
  | ':' :: ':' :: rest => ([], some rest)
  | c :: rest =>
      let (before, after) := splitGap rest
      (c :: before, after)

/-- The parts of a text between single colons, none for the empty text. -/
def splitColons (text : List Char) : List (List Char) :=
  if text = [] then [] else text.splitOn ':'

def versionSix? (text : List Char) : Option (List Nat) :=
  match splitGap text with
  | (whole, none) => do
      let pieces ← pieces? true (splitColons whole)
      if pieces.length = 8 then some pieces else none
  | (before, some after) => do
      let before ← pieces? false (splitColons before)
      let after ← pieces? true (splitColons after)
      let count := before.length + after.length
      if 7 < count then none
      else some (before ++ List.replicate (8 - count) 0 ++ after)

/-- The lengths of the runs of zeros that start at each place. -/
def zeroRuns : List Nat → List Nat
  | [] => []
  | piece :: rest =>
      let runs := zeroRuns rest
      (if piece = 0 then runs.headD 0 + 1 else 0) :: runs

def pieceText (piece : Nat) : List Char :=
  Nat.toDigits 16 piece

/-- The written form: the first of the longest runs of at least two zeros is left out. -/
def versionSixText (pieces : List Nat) : List Char :=
  let runs := zeroRuns pieces
  let longest := runs.foldl max 0
  if longest < 2 then [':'].intercalate (pieces.map pieceText)
  else
    let start := (runs.takeWhile (· ≠ longest)).length
    let before := [':'].intercalate ((pieces.take start).map pieceText)
    let after := [':'].intercalate ((pieces.drop (start + longest)).map pieceText)
    before ++ [':', ':'] ++ after

/-- An address between brackets, from what follows the opening one. -/
def readBracketed (text : List Char) : Except UriError String :=
  if text.getLast? = some ']' then
    match versionSix? text.dropLast with
    | some pieces => .ok (String.ofList ('[' :: versionSixText pieces ++ [']']))
    | none => .error .badVersionSix
  else .error .badVersionSix

/-! ## Hosts of either kind of scheme -/

/-- The host of a web address in its written form. -/
def read : List Char → Except UriError String
  | '[' :: rest => readBracketed rest
  | text =>
      let bytes := Percent.decode (Utf8.encode (String.ofList text))
      match Domain.toAscii? (Utf8.display bytes).toList with
      | none => .error .badDomain
      | some [] => .error .emptyHost
      | some name =>
          if endsInNumber name then
            match versionFour? name with
            | some value => .ok (String.ofList (versionFourText value))
            | none => .error .badVersionFour
          else .ok (String.ofList name)

def isForbidden (c : Char) : Bool :=
  ['\x00', '\t', '\n', '\r', ' ', '#', '/', ':', '<', '>', '?', '@', '[', '\\', ']', '^',
    '|'].contains c

/-- The host of any other scheme: the text itself, with control characters escaped. -/
def readPlain : List Char → Except UriError String
  | '[' :: rest => readBracketed rest
  | text =>
      if text.any isForbidden then .error .badHostCharacter
      else .ok (Percent.encode Percent.isControl text)

end Host

end TemplateLint
