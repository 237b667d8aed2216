import TemplateLint.Text.Digit

/-!
# Problems found in a template

Main exports: `Problem`, `Problem.label`, `Problem.ofFields?`.
-/

namespace TemplateLint

/-- A problem at a place: the line counts from zero, the column is the tool's own. -/
structure Problem where
  line : Nat
  column : Nat
  code : String
  message : String
deriving DecidableEq, Repr

namespace Problem

/-- The greatest line or column. -/
def greatestNumber : Nat := 0xffffffff

/-- The message with its code, as editors show it. -/
def label (problem : Problem) : String :=
  problem.message ++ " (" ++ problem.code ++ ")"

/-- The number of a line or column; digits of other scripts and larger numbers are none. -/
def number? (digits : List Char) : Option Nat :=
  (Text.asciiNat? digits).filter (· ≤ greatestNumber)

/-- The problem that the fields of a report denote; the tool counts lines from one. -/
def ofFields? (line column code message : List Char) : Option Problem := do
  let line ← number? line
  let column ← number? column
  some ⟨line - 1, column, String.ofList code, String.ofList message⟩

end Problem

end TemplateLint
