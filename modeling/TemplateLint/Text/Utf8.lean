/-!
# UTF-8 text in bytes

Strict reading for files, and repairing reading for tool output and for names on screen: each
maximal ill-formed sequence is read as one replacement character.
Main exports: `decode?`, `repair`, `decodeLossy`, `encode`.
-/

namespace TemplateLint.Utf8

def encode (text : String) : List UInt8 :=
  text.toUTF8.toList

/-- The text that the bytes spell, when they are well-formed. -/
def decode? (bytes : ByteArray) : Option String :=
  String.fromUTF8? bytes

/-- What stands in a repaired text for an ill-formed sequence. -/
def replacement : Char := '\uFFFD'

/-- What a first byte announces: how many bytes follow it, the bounds of the byte after it, and
its own share of the code point. -/
structure Lead where
  followers : Nat
  low : UInt8
  high : UInt8
  bits : Nat
deriving Repr

/-- A byte that may start a sequence of more than one byte. -/
def Lead.of? (first : UInt8) : Option Lead :=
  if 0xc2 ≤ first && first ≤ 0xdf then some ⟨1, 0x80, 0xbf, first.toNat - 0xc0⟩
  else if first == 0xe0 then some ⟨2, 0xa0, 0xbf, 0⟩
  else if first == 0xed then some ⟨2, 0x80, 0x9f, 0x0d⟩
  else if 0xe1 ≤ first && first ≤ 0xef then some ⟨2, 0x80, 0xbf, first.toNat - 0xe0⟩
  else if first == 0xf0 then some ⟨3, 0x90, 0xbf, 0⟩
  else if 0xf1 ≤ first && first ≤ 0xf3 then some ⟨3, 0x80, 0xbf, first.toNat - 0xf0⟩
  else if first == 0xf4 then some ⟨3, 0x80, 0x8f, 4⟩
  else none

/-- Take the announced bytes for as long as they fit: the code point when all are there, and what
follows the bytes taken. -/
def takeFollowers : Nat → UInt8 → UInt8 → Nat → List UInt8 → Option Nat × List UInt8
  | 0, _, _, bits, rest => (some bits, rest)
  | _ + 1, _, _, _, [] => (none, [])
  | n + 1, low, high, bits, byte :: rest =>
      if low ≤ byte && byte ≤ high then
        takeFollowers n 0x80 0xbf (bits * 64 + (byte.toNat - 0x80)) rest
      else (none, byte :: rest)

theorem takeFollowers_length_le (n : Nat) (low high : UInt8) (bits : Nat) (bytes : List UInt8) :
    (takeFollowers n low high bits bytes).2.length ≤ bytes.length := by
  induction n generalizing low high bits bytes with
  | zero => simp [takeFollowers]
  | succ n inductionHypothesis =>
      cases bytes with
      | nil => simp [takeFollowers]
      | cons byte rest =>
          simp only [takeFollowers]
          split
          · exact Nat.le_succ_of_le (inductionHypothesis ..)
          · simp

/-- The characters of the bytes, with a replacement character for each ill-formed sequence. -/
def repair : List UInt8 → List Char
  | [] => []
  | first :: rest =>
      if first < 0x80 then Char.ofNat first.toNat :: repair rest
      else
        match Lead.of? first with
        | none => replacement :: repair rest
        | some lead =>
            let taken := takeFollowers lead.followers lead.low lead.high lead.bits rest
            let char := match taken.1 with
              | some code => Char.ofNat code
              | none => replacement
            char :: repair taken.2
termination_by bytes => bytes.length
decreasing_by
  · simp
  · simp
  · exact Nat.lt_succ_of_le (takeFollowers_length_le ..)

/-- The text of the bytes: themselves when they are well-formed, repaired otherwise. -/
def decodeLossy (bytes : ByteArray) : String :=
  match decode? bytes with
  | some text => text
  | none => String.ofList (repair bytes.toList)

/-- The text of listed bytes, repaired where they are ill-formed. -/
def display (bytes : List UInt8) : String :=
  decodeLossy ⟨bytes.toArray⟩

/-- Well-formed bytes are read as they are. -/
theorem decodeLossy_of_decode? {bytes : ByteArray} {text : String}
    (wellFormed : decode? bytes = some text) : decodeLossy bytes = text := by
  simp [decodeLossy, wellFormed]

end TemplateLint.Utf8
