import TemplateLint.Text.Digit

/-!
# Quoted text of TOML

Text between quotes, on one line or over several: between double quotes escapes are resolved,
between single quotes there are none.
Main exports: `Toml.quoted?`, `Toml.quotedBlock?`, `Toml.literal?`, `Toml.literalBlock?`.
-/

namespace TemplateLint.Toml

/-- A character that may stand in a text: the tabulator and whatever is no control character. -/
def isTextChar (c : Char) : Bool :=
  c == '\t' || (0x20 ≤ c.toNat && c.toNat != 0x7f)

def isBlank (c : Char) : Bool :=
  c == ' ' || c == '\t'

/-- What follows a line end, if there is one here. -/
def lineEnd? : List Char → Option (List Char)
  | '\n' :: rest => some rest
  | '\r' :: '\n' :: rest => some rest
  | _ => none

/-- The character of a code point, surrogates excluded. -/
def char? (code : Nat) : Option Char :=
  if code < 0xd800 ∨ (0xdfff < code ∧ code < 0x110000) then some (Char.ofNat code) else none

/-- The character written by exactly `count` hexadecimal digits, and what follows them. -/
def hexChar? (count : Nat) (chars : List Char) : Option (Char × List Char) := do
  let digits := chars.take count
  if digits.length = count then
    let value ← digits.foldlM (fun value c => do
      let digit ← Text.hexValue? c
      some (value * 16 + digit)) 0
    let c ← char? value
    some (c, chars.drop count)
  else none

/-- The character of an escape after its backslash, and what follows it. -/
def escaped? : List Char → Option (Char × List Char)
  | 'b' :: rest => some ('\x08', rest)
  | 't' :: rest => some ('\t', rest)
  | 'n' :: rest => some ('\n', rest)
  | 'f' :: rest => some ('\x0c', rest)
  | 'r' :: rest => some ('\r', rest)
  | 'e' :: rest => some ('\x1b', rest)
  | '"' :: rest => some ('"', rest)
  | '\\' :: rest => some ('\\', rest)
  | 'x' :: rest => hexChar? 2 rest
  | 'u' :: rest => hexChar? 4 rest
  | 'U' :: rest => hexChar? 8 rest
  | _ => none

/-- The text before the closing double quote, and what follows it. -/
def quotedFrom? : Nat → List Char → Option (List Char × List Char)
  | 0, _ => none
  | _ + 1, [] => none
  | _ + 1, '"' :: rest => some ([], rest)
  | fuel + 1, '\\' :: rest => do
      let (c, rest) ← escaped? rest
      let (text, rest) ← quotedFrom? fuel rest
      some (c :: text, rest)
  | fuel + 1, c :: rest => do
      if isTextChar c then
        let (text, rest) ← quotedFrom? fuel rest
        some (c :: text, rest)
      else none

/-- A text of one line after its opening double quote, and what follows it. -/
def quoted? (chars : List Char) : Option (List Char × List Char) :=
  quotedFrom? (chars.length + 1) chars

/-- A text of one line after its opening single quote, and what follows it. -/
def literal? : List Char → Option (List Char × List Char)
  | [] => none
  | '\'' :: rest => some ([], rest)
  | c :: rest => do
      if isTextChar c then
        let (text, rest) ← literal? rest
        some (c :: text, rest)
      else none

/-- What follows the line ends and blanks here. -/
def skipLines (chars : List Char) : List Char :=
  chars.dropWhile fun c => isBlank c || c == '\n' || c == '\r'

/-- What follows a backslash that joins lines: blanks, a line end, and all blanks and line ends
after it. -/
def joined? (chars : List Char) : Option (List Char) :=
  (lineEnd? (chars.dropWhile isBlank)).map skipLines

/-- Three closing quotes, with up to two more that belong to the text. -/
def closing? (quote : Char) (chars : List Char) : Option (List Char × List Char) :=
  let count := min 5 (chars.takeWhile (· == quote)).length
  if count < 3 then none else some (List.replicate (count - 3) quote, chars.drop count)

/-- The text before the closing double quotes, and what follows them. -/
def quotedBlockFrom? : Nat → List Char → Option (List Char × List Char)
  | 0, _ => none
  | fuel + 1, chars =>
      match closing? '"' chars with
      | some found => some found
      | none =>
          match chars with
          | [] => none
          | '\\' :: rest =>
              match joined? rest with
              | some rest => quotedBlockFrom? fuel rest
              | none => do
                  let (c, rest) ← escaped? rest
                  let (text, rest) ← quotedBlockFrom? fuel rest
                  some (c :: text, rest)
          | '\r' :: '\n' :: rest => do
              let (text, rest) ← quotedBlockFrom? fuel rest
              some ('\r' :: '\n' :: text, rest)
          | c :: rest => do
              if isTextChar c || c == '\n' then
                let (text, rest) ← quotedBlockFrom? fuel rest
                some (c :: text, rest)
              else none

/-- The text before the closing single quotes, and what follows them. -/
def literalBlockFrom? : Nat → List Char → Option (List Char × List Char)
  | 0, _ => none
  | fuel + 1, chars =>
      match closing? '\'' chars with
      | some found => some found
      | none =>
          match chars with
          | [] => none
          | '\r' :: '\n' :: rest => do
              let (text, rest) ← literalBlockFrom? fuel rest
              some ('\r' :: '\n' :: text, rest)
          | c :: rest => do
              if isTextChar c || c == '\n' then
                let (text, rest) ← literalBlockFrom? fuel rest
                some (c :: text, rest)
              else none

/-- A line end right after the opening quotes does not count. -/
def dropFirstLineEnd (chars : List Char) : List Char :=
  (lineEnd? chars).getD chars

/-- A text of several lines after its opening double quotes, and what follows it. -/
def quotedBlock? (chars : List Char) : Option (List Char × List Char) :=
  quotedBlockFrom? (chars.length + 1) (dropFirstLineEnd chars)

/-- A text of several lines after its opening single quotes, and what follows it. -/
def literalBlock? (chars : List Char) : Option (List Char × List Char) :=
  literalBlockFrom? (chars.length + 1) (dropFirstLineEnd chars)

end TemplateLint.Toml
