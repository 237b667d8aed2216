import TemplateLint.Json.Numeral

/-!
# Reading of JSON texts

A text is read by its grammar in one pass.  Every call of the reader takes at least one character,
so the length of the text is fuel enough; nesting is limited to `depthLimit` brackets.  A repeated
key keeps the place of its first use and the value of its last.
Main exports: `Json.read?`, `Json.readMembers?`.
-/

namespace TemplateLint.Json

/-- More open brackets than this are refused. -/
def depthLimit : Nat := 127

def isBlank (c : Char) : Bool :=
  c == ' ' || c == '\n' || c == '\t' || c == '\r'

def skipBlanks (chars : List Char) : List Char :=
  chars.dropWhile isBlank

/-- The value of four hexadecimal digits, and what follows them. -/
def fourHex? : List Char → Option (Nat × List Char)
  | a :: b :: c :: d :: rest => do
      let a ← Text.hexValue? a
      let b ← Text.hexValue? b
      let c ← Text.hexValue? c
      let d ← Text.hexValue? d
      some (((a * 16 + b) * 16 + c) * 16 + d, rest)
  | _ => none

/-- The character of a `\u` escape, and what follows it; a surrogate must come in a pair. -/
def unicodeEscape? (chars : List Char) : Option (Char × List Char) := do
  let (code, rest) ← fourHex? chars
  if 0xd800 ≤ code ∧ code ≤ 0xdbff then
    match rest with
    | '\\' :: 'u' :: rest => do
        let (low, rest) ← fourHex? rest
        if 0xdc00 ≤ low ∧ low ≤ 0xdfff then
          some (Char.ofNat (0x10000 + (code - 0xd800) * 0x400 + (low - 0xdc00)), rest)
        else none
    | _ => none
  else if 0xdc00 ≤ code ∧ code ≤ 0xdfff then none
  else some (Char.ofNat code, rest)

/-- The character of an escape after its backslash, and what follows it. -/
def escaped? : List Char → Option (Char × List Char)
  | '"' :: rest => some ('"', rest)
  | '\\' :: rest => some ('\\', rest)
  | '/' :: rest => some ('/', rest)
  | 'b' :: rest => some ('\x08', rest)
  | 'f' :: rest => some ('\x0c', rest)
  | 'n' :: rest => some ('\n', rest)
  | 'r' :: rest => some ('\r', rest)
  | 't' :: rest => some ('\t', rest)
  | 'u' :: rest => unicodeEscape? rest
  | _ => none

/-- The characters of a string up to its closing quote, and what follows it. -/
def stringChars? : Nat → List Char → Option (List Char × List Char)
  | 0, _ => none
  | _ + 1, [] => none
  | _ + 1, '"' :: rest => some ([], rest)
  | fuel + 1, '\\' :: rest => do
      let (c, rest) ← escaped? rest
      let (chars, rest) ← stringChars? fuel rest
      some (c :: chars, rest)
  | fuel + 1, c :: rest =>
      if c.toNat < 32 then none
      else do
        let (chars, rest) ← stringChars? fuel rest
        some (c :: chars, rest)

/-- The text of a string after its opening quote, and what follows it. -/
def string? (chars : List Char) : Option (String × List Char) := do
  let (content, rest) ← stringChars? (chars.length + 1) chars
  some (String.ofList content, rest)

mutual

/-- A value inside at most `depth` more brackets, and what follows it. -/
def scanValue (fuel depth : Nat) (chars : List Char) : Option (Json × List Char) :=
  match fuel with
  | 0 => none
  | fuel + 1 =>
      match chars with
      | 'n' :: 'u' :: 'l' :: 'l' :: rest => some (.null, rest)
      | 't' :: 'r' :: 'u' :: 'e' :: rest => some (.bool true, rest)
      | 'f' :: 'a' :: 'l' :: 's' :: 'e' :: rest => some (.bool false, rest)
      | '"' :: rest => do
          let (content, rest) ← string? rest
          some (.text content, rest)
      | '[' :: rest =>
          match depth with
          | 0 => none
          | depth + 1 =>
              match skipBlanks rest with
              | ']' :: rest => some (.array [], rest)
              | rest => do
                  let (items, rest) ← scanItems fuel depth rest
                  some (.array items, rest)
      | '{' :: rest =>
          match depth with
          | 0 => none
          | depth + 1 => do
              let (members, rest) ← scanMembers fuel depth rest
              some (.object (Members.overlay [] members), rest)
      | chars => do
          let (value, rest) ← Numeral.read? chars
          some (.number value, rest)

/-- The items of an array up to its closing bracket, and what follows it. -/
def scanItems (fuel depth : Nat) (chars : List Char) : Option (List Json × List Char) :=
  match fuel with
  | 0 => none
  | fuel + 1 => do
      let (item, rest) ← scanValue fuel depth chars
      match skipBlanks rest with
      | ']' :: rest => some ([item], rest)
      | ',' :: rest => do
          let (items, rest) ← scanItems fuel depth (skipBlanks rest)
          some (item :: items, rest)
      | _ => none

/-- The members of an object after its opening brace, and what follows the closing one. -/
def scanMembers (fuel depth : Nat) (chars : List Char) :
    Option (List (String × Json) × List Char) :=
  match fuel with
  | 0 => none
  | fuel + 1 =>
      match skipBlanks chars with
      | '}' :: rest => some ([], rest)
      | rest => scanMemberList fuel depth rest

/-- One or more members of an object up to its closing brace, and what follows it. -/
def scanMemberList (fuel depth : Nat) (chars : List Char) :
    Option (List (String × Json) × List Char) :=
  match fuel with
  | 0 => none
  | fuel + 1 =>
      match chars with
      | '"' :: rest => do
          let (name, rest) ← string? rest
          match skipBlanks rest with
          | ':' :: rest => do
              let (value, rest) ← scanValue fuel depth (skipBlanks rest)
              match skipBlanks rest with
              | '}' :: rest => some ([(name, value)], rest)
              | ',' :: rest => do
                  let (members, rest) ← scanMemberList fuel depth (skipBlanks rest)
                  some ((name, value) :: members, rest)
              | _ => none
          | _ => none
      | _ => none

end

/-- The value that a text holds, blanks around it apart. -/
def read? (source : String) : Option Json := do
  let chars := source.toList
  let (value, rest) ← scanValue (3 * chars.length + 3) depthLimit (skipBlanks chars)
  if (skipBlanks rest).isEmpty then some value else none

/-- The members of the object that a text holds, repeated keys included. -/
def readMembers? (source : String) : Option (List (String × Json)) := do
  let chars := source.toList
  match skipBlanks chars with
  | '{' :: rest => do
      let (members, rest) ← scanMembers (3 * chars.length + 3) (depthLimit - 1) rest
      if (skipBlanks rest).isEmpty then some members else none
  | _ => none

end TemplateLint.Json
