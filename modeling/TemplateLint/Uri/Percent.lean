import TemplateLint.Text.Digit
import TemplateLint.Text.Utf8

/-!
# Percent-encoding

Characters that a part of a URI reserves are written as `%` and two hexadecimal digits for each of
their bytes, and so is everything outside ASCII.
Main exports: `Percent.encode`, `Percent.encodeBytes`, `Percent.decode`, and the reserved sets.
-/

namespace TemplateLint.Percent

def escape (byte : UInt8) : List Char :=
  ['%', Text.upperHexDigit (byte.toNat / 16), Text.upperHexDigit (byte.toNat % 16)]

/-- A character, escaped when it is reserved or outside ASCII. -/
def encodeChar (reserved : Char → Bool) (c : Char) : List Char :=
  if 0x7f < c.toNat ∨ reserved c then (Utf8.encode (String.singleton c)).flatMap escape else [c]

/-- A text with its reserved characters escaped. -/
def encode (reserved : Char → Bool) (text : List Char) : String :=
  String.ofList (text.flatMap (encodeChar reserved))

/-- Bytes as a text, with the reserved ones and those outside ASCII escaped. -/
def encodeBytes (reserved : Char → Bool) (bytes : List UInt8) : String :=
  String.ofList <| bytes.flatMap fun byte =>
    let c := Char.ofNat byte.toNat
    if 0x7f < byte.toNat ∨ reserved c then escape byte else [c]

/-- The value of a byte that is a hexadecimal digit. -/
def hexByte? (byte : UInt8) : Option Nat :=
  Text.hexValue? (Char.ofNat byte.toNat)

/-- The bytes with every escape replaced by what it stands for; a percent sign without two
hexadecimal digits after it stands for itself. -/
def decode : List UInt8 → List UInt8
  | [] => []
  | [byte] => [byte]
  | [byte, next] => [byte, next]
  | byte :: high :: low :: rest =>
      if byte = 0x25 then
        match hexByte? high, hexByte? low with
        | some high, some low => UInt8.ofNat (high * 16 + low) :: decode rest
        | _, _ => byte :: decode (high :: low :: rest)
      else byte :: decode (high :: low :: rest)

/-! ## What the parts of a URI reserve -/

def isControl (c : Char) : Bool :=
  c.toNat < 0x20 || c.toNat == 0x7f

def inQuery (c : Char) : Bool :=
  isControl c || [' ', '"', '#', '<', '>'].contains c

/-- Reserved in a query of the schemes with a web address. -/
def inSpecialQuery (c : Char) : Bool :=
  inQuery c || c == '\''

def inFragment (c : Char) : Bool :=
  isControl c || [' ', '"', '<', '>', '\x60'].contains c

def inPath (c : Char) : Bool :=
  inFragment c || ['#', '?', '{', '}'].contains c

def inStep (c : Char) : Bool :=
  inPath c || ['/', '%', '\\'].contains c

def inUserInfo (c : Char) : Bool :=
  inPath c || ['/', ':', ';', '=', '@', '[', '\\', ']', '^', '|'].contains c

end TemplateLint.Percent
