import TemplateLint.Report.Problem

/-!
# The delimited report

One problem a line, each field between tags.  The fields are not escaped: the file name reaches as
far as it can, and so does the code after it.
Main exports: `Report.Delimited.fields?`, `Report.delimited`.
-/

namespace TemplateLint.Report

namespace Delimited

/-- What follows a tag, if the text starts with it. -/
def strip? : List Char → List Char → Option (List Char)
  | [], chars => some chars
  | _ :: _, [] => none
  | t :: tag, c :: chars => if t = c then strip? tag chars else none

/-- The longest text before a tag after which the rest is accepted, with what that gave. -/
def longest? {α : Type} (tag : List Char) (accept : List Char → Option α) :
    List Char → Option (List Char × α)
  | [] => none
  | c :: chars =>
      match longest? tag accept chars with
      | some (before, value) => some (c :: before, value)
      | none => do
          let rest ← strip? tag (c :: chars)
          let value ← accept rest
          some ([], value)

/-- The fields of a problem. -/
structure Fields where
  file : List Char
  line : List Char
  column : List Char
  code : List Char
  message : List Char
deriving DecidableEq, Repr

/-- The text, unless it is empty. -/
def nonEmpty? (chars : List Char) : Option (List Char) :=
  if chars = [] then none else some chars

/-- Code and message: neither is empty. -/
def codeAndMessage? (chars : List Char) : Option (List Char × List Char) := do
  let (code, message) ← longest? "</code><message>".toList nonEmpty? chars
  let code ← nonEmpty? code
  some (code, message)

/-- A run of digits of any script, and what follows it. -/
def number? (chars : List Char) : Option (List Char × List Char) :=
  let digits := chars.takeWhile Text.isDecimal
  if digits = [] then none else some (digits, chars.drop digits.length)

def afterFile? (chars : List Char) : Option (List Char × List Char × List Char × List Char) := do
  let (line, rest) ← number? chars
  let rest ← strip? [':'] rest
  let (column, rest) ← number? rest
  let rest ← strip? "</line><code>".toList rest
  let (code, message) ← codeAndMessage? rest
  some (line, column, code, message)

/-- A line without the carriage return that may end it. -/
def dropReturn (line : List Char) : List Char :=
  if line.getLast? = some '\r' then line.dropLast else line

/-- A line without the tag that must end it. -/
def dropEnd? (line : List Char) : Option (List Char) :=
  (strip? "</message>".toList.reverse (dropReturn line).reverse).map List.reverse

/-- The fields of the problem that a line reports. -/
def fields? (line : List Char) : Option Fields := do
  let body ← dropEnd? line
  let body ← strip? "<filename>".toList body
  let (file, line, column, code, message) ← longest? "</filename><line>".toList afterFile? body
  some ⟨file, line, column, code, message⟩

/-- The problem that a line reports. -/
def problem? (line : List Char) : Option Problem := do
  let fields ← fields? line
  Problem.ofFields? fields.line fields.column fields.code fields.message

end Delimited

def lines (text : String) : List (List Char) :=
  text.toList.splitOn '\n'

/-- The problems of a delimited report. -/
def delimited (stdout : String) : List Problem :=
  (lines stdout).filterMap Delimited.problem?

end TemplateLint.Report
