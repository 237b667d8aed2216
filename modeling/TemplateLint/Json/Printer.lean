import TemplateLint.Json.Value
import TemplateLint.Decimal.Shortest

/-!
# Written form of JSON values

The compact form has no blanks; the pretty form puts each item on a line of its own, indented by
two more blanks than the line that opens it.  In both, text is escaped only where it must be.
Main exports: `Json.compact`, `Json.pretty`.
-/

namespace TemplateLint.Json

/-- A character inside a string: quotes, backslashes and control characters are escaped. -/
def escape (c : Char) : List Char :=
  if c = '"' then ['\\', '"']
  else if c = '\\' then ['\\', '\\']
  else if c = '\n' then ['\\', 'n']
  else if c = '\r' then ['\\', 'r']
  else if c = '\t' then ['\\', 't']
  else if c = '\x08' then ['\\', 'b']
  else if c = '\x0c' then ['\\', 'f']
  else if c.toNat < 32 then
    ['\\', 'u', '0', '0', Text.hexDigit (c.toNat / 16), Text.hexDigit (c.toNat % 16)]
  else [c]

def quoted (text : String) : List Char :=
  '"' :: text.toList.flatMap escape ++ ['"']

/-- A number: doubles in their shortest form. -/
def numeral : Number → List Char
  | .integer value => (Text.integerText value).toList
  | .double value => value.text

mutual

def compactChars : Json → List Char
  | .null => ['n', 'u', 'l', 'l']
  | .bool true => ['t', 'r', 'u', 'e']
  | .bool false => ['f', 'a', 'l', 's', 'e']
  | .number value => numeral value
  | .text value => quoted value
  | .array items => '[' :: compactItems items
  | .object members => '{' :: compactMembers members

/-- The items of an array and the bracket that closes it. -/
def compactItems : List Json → List Char
  | [] => [']']
  | [item] => compactChars item ++ [']']
  | item :: next :: rest => compactChars item ++ ',' :: compactItems (next :: rest)

/-- The members of an object and the brace that closes it. -/
def compactMembers : List (String × Json) → List Char
  | [] => ['}']
  | [(name, value)] => quoted name ++ ':' :: compactChars value ++ ['}']
  | (name, value) :: next :: rest =>
      quoted name ++ ':' :: compactChars value ++ ',' :: compactMembers (next :: rest)

end

/-- A line break and the indentation of the given depth. -/
def lineBreak (depth : Nat) : List Char :=
  '\n' :: List.replicate (2 * depth) ' '

mutual

/-- The form with one item a line, inside brackets of the given depth. -/
def prettyChars (depth : Nat) : Json → List Char
  | .null => ['n', 'u', 'l', 'l']
  | .bool true => ['t', 'r', 'u', 'e']
  | .bool false => ['f', 'a', 'l', 's', 'e']
  | .number value => numeral value
  | .text value => quoted value
  | .array [] => ['[', ']']
  | .array (item :: rest) => '[' :: prettyItems depth (item :: rest)
  | .object [] => ['{', '}']
  | .object (member :: rest) => '{' :: prettyMembers depth (member :: rest)

/-- The items of an array, a line each, and the bracket that closes it. -/
def prettyItems (depth : Nat) : List Json → List Char
  | [] => lineBreak depth ++ [']']
  | [item] => lineBreak (depth + 1) ++ prettyChars (depth + 1) item ++ lineBreak depth ++ [']']
  | item :: next :: rest =>
      lineBreak (depth + 1) ++ prettyChars (depth + 1) item ++ ',' ::
        prettyItems depth (next :: rest)

/-- The members of an object, a line each, and the brace that closes it. -/
def prettyMembers (depth : Nat) : List (String × Json) → List Char
  | [] => lineBreak depth ++ ['}']
  | [(name, value)] =>
      lineBreak (depth + 1) ++ quoted name ++ ':' :: ' ' :: prettyChars (depth + 1) value ++
        lineBreak depth ++ ['}']
  | (name, value) :: next :: rest =>
      lineBreak (depth + 1) ++ quoted name ++ ':' :: ' ' :: prettyChars (depth + 1) value ++ ',' ::
        prettyMembers depth (next :: rest)

end

def compact (value : Json) : String :=
  String.ofList (compactChars value)

def pretty (value : Json) : String :=
  String.ofList (prettyChars 0 value)

end TemplateLint.Json
