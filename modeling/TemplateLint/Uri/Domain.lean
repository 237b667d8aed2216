import TemplateLint.Text.Utf8

/-!
# Domain names in ASCII

A domain name is brought to lower case and each of its labels with characters outside ASCII is
written in Punycode.  Main exports: `Domain.toAscii?`, `Punycode.encode`.
-/

namespace TemplateLint

namespace Punycode

/-- The character of a digit to base 36. -/
def digit (value : Nat) : Char :=
  if value < 26 then Char.ofNat (97 + value) else Char.ofNat (22 + value)

/-- The threshold of a digit at the given position. -/
def threshold (position bias : Nat) : Nat :=
  if position ≤ bias then 1 else if bias + 26 ≤ position then 26 else position - bias

theorem threshold_bounds (position bias : Nat) :
    1 ≤ threshold position bias ∧ threshold position bias ≤ 26 := by
  unfold threshold
  split
  · omega
  · split <;> omega

/-- Divide a delta down to 455, counting positions. -/
def shrink (delta position : Nat) : Nat × Nat :=
  if 455 < delta then shrink (delta / 35) (position + 36) else (delta, position)
termination_by delta
decreasing_by exact Nat.div_lt_self (by omega) (by omega)

def adapt (delta count : Nat) (first : Bool) : Nat :=
  let delta := if first then delta / 700 else delta / 2
  let (delta, position) := shrink (delta + delta / count) 0
  position + 36 * delta / (delta + 38)

def digits (bias position value : Nat) : List Char :=
  let t := threshold position bias
  if value < t then [digit value]
  else digit (t + (value - t) % (36 - t)) :: digits bias (position + 36) ((value - t) / (36 - t))
termination_by value
decreasing_by
  have bounds := threshold_bounds position bias
  have shrinks : (value - threshold position bias) / (36 - threshold position bias) ≤
      value - threshold position bias := Nat.div_le_self ..
  omega

/-- How far writing has come: the code point reached, the delta, the bias, and how many characters
have been written. -/
structure Progress where
  code : Nat
  delta : Nat
  bias : Nat
  handled : Nat
  written : List Char

/-- Write every character of one code point, walking over the whole label. -/
def writeCode (plain code : Nat) (label : List Char) (progress : Progress) : Progress :=
  label.foldl (fun progress c =>
    if c.toNat < code then { progress with delta := progress.delta + 1 }
    else if c.toNat = code then
      { progress with
        written := progress.written ++ digits progress.bias 36 progress.delta
        bias := adapt progress.delta (progress.handled + 1) (progress.handled == plain)
        delta := 0
        handled := progress.handled + 1 }
    else progress) progress

/-- The label with the code points that are not plain written after it as deltas. -/
def encode (label : List Char) : List Char :=
  let plain := label.filter fun c => c.toNat < 128
  let codes := ((label.filter fun c => 128 ≤ c.toNat).map Char.toNat).eraseDups.mergeSort
  let start := if plain = [] then [] else plain ++ ['-']
  let progress := codes.foldl (fun progress code =>
    let delta := progress.delta + (code - progress.code) * (progress.handled + 1)
    let progress := writeCode plain.length code label { progress with code, delta }
    { progress with delta := progress.delta + 1, code := code + 1 })
    ⟨128, 0, 72, plain.length, start⟩
  progress.written

end Punycode

namespace Domain

/-- A character of a domain name in its folded form; an ignored character vanishes. -/
def fold (c : Char) : List Char :=
  let n := c.toNat
  if n = 0xad then []
  else if n = 0x3002 ∨ n = 0xff0e ∨ n = 0xff61 then ['.']
  else if 0xff01 ≤ n ∧ n ≤ 0xff5e then [(Char.ofNat (n - 0xfee0)).toLower]
  else if 0xc0 ≤ n ∧ n ≤ 0xde ∧ n ≠ 0xd7 then [Char.ofNat (n + 32)]
  else if 0x100 ≤ n ∧ n ≤ 0x137 ∧ n ≠ 0x130 ∧ n ≠ 0x131 ∧ n % 2 = 0 then [Char.ofNat (n + 1)]
  else if 0x391 ≤ n ∧ n ≤ 0x3a9 ∧ n ≠ 0x3a2 then [Char.ofNat (n + 32)]
  else if 0x400 ≤ n ∧ n ≤ 0x40f then [Char.ofNat (n + 80)]
  else if 0x410 ≤ n ∧ n ≤ 0x42f then [Char.ofNat (n + 32)]
  else [c.toLower]

def isForbidden (c : Char) : Bool :=
  c.toNat ≤ 0x20 || c.toNat == 0x7f || c == Utf8.replacement ||
    ['#', '/', ':', '<', '>', '?', '@', '[', '\\', ']', '^', '|', '%'].contains c

def labelToAscii (label : List Char) : List Char :=
  if label.all fun c => c.toNat < 128 then label
  else 'x' :: 'n' :: '-' :: '-' :: Punycode.encode label

def splitDots (text : List Char) : List (List Char) :=
  text.splitOn '.'

/-- The domain name in ASCII, when it holds no forbidden character. -/
def toAscii? (name : List Char) : Option (List Char) :=
  let folded := name.flatMap fold
  if folded.any isForbidden then none
  else some (['.'].intercalate ((splitDots folded).map labelToAscii))

end Domain

end TemplateLint
