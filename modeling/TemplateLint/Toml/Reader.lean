import TemplateLint.Toml.Quoted
import TemplateLint.Toml.Scalar
import TemplateLint.Toml.Table

/-!
# Reading of TOML documents

A document is a sequence of lines: table headers, and keys with their values.  Every call of the
readers below takes at least one character, so the length of the text is fuel enough.
Main export: `Toml.read?`.
-/

namespace TemplateLint.Toml

/-- More open brackets than this are refused. -/
def depthLimit : Nat := 80

def skipBlanks (chars : List Char) : List Char :=
  chars.dropWhile isBlank

/-- What follows a comment, if there is one here. -/
def skipComment? : List Char → Option (List Char)
  | '#' :: rest => some (rest.dropWhile isTextChar)
  | chars => some chars

/-- What follows the end of a line: blanks, a comment, and a line end or the end of the text. -/
def finishLine? (chars : List Char) : Option (List Char) := do
  match ← skipComment? (skipBlanks chars) with
  | [] => some []
  | chars => lineEnd? chars

/-- What follows the blanks, comments and line ends here. -/
def skipSpace? : Nat → List Char → Option (List Char)
  | 0, _ => none
  | fuel + 1, chars =>
      match skipBlanks chars with
      | '#' :: rest =>
          match rest.dropWhile isTextChar with
          | [] => some []
          | rest => do
              let rest ← lineEnd? rest
              skipSpace? fuel rest
      | chars =>
          match lineEnd? chars with
          | some rest => skipSpace? fuel rest
          | none => some chars

/-! ## Keys -/

def isKeyChar (c : Char) : Bool :=
  c.isAlphanum || c == '_' || c == '-'

/-- One part of a key, and what follows it. -/
def keyPart? : List Char → Option (String × List Char)
  | '"' :: rest => do
      let (text, rest) ← quoted? rest
      some (String.ofList text, rest)
  | '\'' :: rest => do
      let (text, rest) ← literal? rest
      some (String.ofList text, rest)
  | chars =>
      let text := chars.takeWhile isKeyChar
      if text = [] then none else some (String.ofList text, chars.drop text.length)

/-- A key of one or more parts with dots between them, and what follows it and its blanks. -/
def key? : Nat → List Char → Option (List String × List Char)
  | 0, _ => none
  | fuel + 1, chars => do
      let (part, rest) ← keyPart? (skipBlanks chars)
      match skipBlanks rest with
      | '.' :: rest => do
          let (parts, rest) ← key? fuel rest
          some (part :: parts, rest)
      | rest => some ([part], rest)

/-! ## Values -/

/-- A word, and what follows it; a blank may stand between a date and a time. -/
def scanWord? (chars : List Char) : Option (Json × List Char) := do
  let word := chars.takeWhile isWordChar
  let rest := chars.drop word.length
  let (word, rest) := match Moment.readDay? word, rest with
    | some (_, []), ' ' :: d :: more =>
        if d.isDigit then
          let time := (d :: more).takeWhile isWordChar
          (word ++ ' ' :: time, (d :: more).drop time.length)
        else (word, rest)
    | _, _ => (word, rest)
  let value ← word? word
  some (value, rest)

mutual

/-- A value inside at most `depth` more brackets, and what follows it. -/
def scanValue (fuel depth : Nat) (chars : List Char) : Option (Json × List Char) :=
  match fuel with
  | 0 => none
  | fuel + 1 =>
      match chars with
      | '"' :: '"' :: '"' :: rest => do
          let (text, rest) ← quotedBlock? rest
          some (.text (String.ofList text), rest)
      | '"' :: rest => do
          let (text, rest) ← quoted? rest
          some (.text (String.ofList text), rest)
      | '\'' :: '\'' :: '\'' :: rest => do
          let (text, rest) ← literalBlock? rest
          some (.text (String.ofList text), rest)
      | '\'' :: rest => do
          let (text, rest) ← literal? rest
          some (.text (String.ofList text), rest)
      | '[' :: rest =>
          match depth with
          | 0 => none
          | depth + 1 => do
              let (items, rest) ← scanItems fuel depth rest
              some (.array items, rest)
      | '{' :: rest =>
          match depth with
          | 0 => none
          | depth + 1 => do
              let (table, rest) ← scanMembers fuel depth [] rest
              some (.object (toMembers table), rest)
      | chars => scanWord? chars

/-- The items of an array up to its closing bracket, and what follows it. -/
def scanItems (fuel depth : Nat) (chars : List Char) : Option (List Json × List Char) :=
  match fuel with
  | 0 => none
  | fuel + 1 => do
      match ← skipSpace? (chars.length + 1) chars with
      | ']' :: rest => some ([], rest)
      | chars =>
          let (item, rest) ← scanValue fuel depth chars
          match ← skipSpace? (rest.length + 1) rest with
          | ']' :: rest => some ([item], rest)
          | ',' :: rest =>
              let (items, rest) ← scanItems fuel depth rest
              some (item :: items, rest)
          | _ => none

/-- The members of a table up to its closing brace, put into it, and what follows it. -/
def scanMembers (fuel depth : Nat) (table : Table) (chars : List Char) :
    Option (Table × List Char) :=
  match fuel with
  | 0 => none
  | fuel + 1 => do
      match ← skipSpace? (chars.length + 1) chars with
      | '}' :: rest => some (table, rest)
      | chars =>
          let (key, rest) ← key? (chars.length + 1) chars
          match rest with
          | '=' :: rest =>
              let (value, rest) ← scanValue fuel depth (skipBlanks rest)
              let table ← assign? value key table
              match ← skipSpace? (rest.length + 1) rest with
              | '}' :: rest => some (table, rest)
              | ',' :: rest => scanMembers fuel depth table rest
              | _ => none
          | _ => none

end

/-! ## Lines -/

/-- The tables read so far, and the path of the header that the next keys belong to. -/
structure Progress where
  root : Table
  header : List String

/-- The path and the name of a header between its brackets, and what follows its key. -/
def headerKey? (chars : List Char) : Option (List String × String × List Char) := do
  let (parts, rest) ← key? (chars.length + 1) chars
  let name ← parts.getLast?
  some (parts.dropLast, name, rest)

/-- One line with something on it, and what follows it. -/
def line? (progress : Progress) (chars : List Char) : Option (Progress × List Char) := do
  match chars with
  | '[' :: '[' :: rest =>
      let (path, name, rest) ← headerKey? rest
      match rest with
      | ']' :: ']' :: rest =>
          let root ← append? path name progress.root
          let rest ← finishLine? rest
          some (⟨root, path ++ [name]⟩, rest)
      | _ => none
  | '[' :: rest =>
      let (path, name, rest) ← headerKey? rest
      match rest with
      | ']' :: rest =>
          let root ← define? path name progress.root
          let rest ← finishLine? rest
          some (⟨root, path ++ [name]⟩, rest)
      | _ => none
  | chars =>
      let (key, rest) ← key? (chars.length + 1) chars
      match rest with
      | '=' :: rest =>
          let (value, rest) ← scanValue (2 * rest.length + 2) depthLimit (skipBlanks rest)
          let root ← change? (assign? value key) progress.header progress.root
          let rest ← finishLine? rest
          some (⟨root, progress.header⟩, rest)
      | _ => none

def lines? : Nat → Progress → List Char → Option Table
  | 0, _, _ => none
  | fuel + 1, progress, chars => do
      match ← skipSpace? (chars.length + 1) chars with
      | [] => some progress.root
      | chars =>
          let (progress, rest) ← line? progress chars
          lines? fuel progress rest

/-- The members of the table that a document denotes; a byte order mark may come first. -/
def read? (source : String) : Option Members := do
  let chars := match source.toList with
    | '\uFEFF' :: rest => rest
    | chars => chars
  let root ← lines? (chars.length + 1) ⟨[], []⟩ chars
  some (toMembers root)

end TemplateLint.Toml
