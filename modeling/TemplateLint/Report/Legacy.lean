import TemplateLint.Report.Problem

/-!
# The legacy report

One problem a line: code, line and column, message, with blanks between them.  Blanks may run over
line ends, and the message ends with its line.
Main exports: `Report.Legacy.scan?`, `Report.legacy`.
-/

namespace TemplateLint.Report

namespace Legacy

/-- The fields of a problem. -/
structure Fields where
  code : List Char
  line : List Char
  column : List Char
  message : List Char
deriving DecidableEq, Repr

def isCodeLetter (c : Char) : Bool :=
  'A' ≤ c && c ≤ 'Z'

/-- The longest non-empty run of such characters, and what follows it. -/
def run? (accepts : Char → Bool) (chars : List Char) : Option (List Char × List Char) :=
  let taken := chars.takeWhile accepts
  if taken = [] then none else some (taken, chars.drop taken.length)

/-- The rest of the line without the carriage return that may end it, and what follows. -/
def restOfLine (chars : List Char) : List Char × List Char :=
  let line := chars.takeWhile (· ≠ '\n')
  let rest := chars.drop line.length
  if line.getLast? = some '\r' then (line.dropLast, rest) else (line, rest)

/-- Where nothing but blanks follow: the last blank that is no line end stands for the message, and
what follows it.  The blanks are given in reverse. -/
def blankMessage? (after : List Char) : List Char → Option (List Char × List Char)
  | [] => none
  | [_] => none
  | c :: rest => if c = '\n' then blankMessage? (c :: after) rest else some ([c], after)

/-- The message after the blanks that follow the column, and what follows it. -/
def message? (blanks rest : List Char) : Option (List Char × List Char) :=
  match rest with
  | [] => blankMessage? [] blanks.reverse
  | rest => some (restOfLine rest)

def afterColon? : List Char → Option (List Char)
  | ':' :: rest => some rest
  | _ => none

/-- The problem at the start of a line, and what follows it. -/
def scan? (chars : List Char) : Option (Fields × List Char) := do
  let (letters, rest) ← run? isCodeLetter chars
  let (digits, rest) ← run? Text.isDecimal rest
  let (_, rest) ← run? Text.isBlank rest
  let (line, rest) ← run? Text.isDecimal rest
  let rest ← afterColon? rest
  let (column, rest) ← run? Text.isDecimal rest
  let (blanks, rest) ← run? Text.isBlank rest
  let (message, rest) ← message? blanks rest
  some (⟨letters ++ digits, line, column, message⟩, rest)

/-- What follows the next line end. -/
def nextLine? (chars : List Char) : Option (List Char) :=
  match chars.drop (chars.takeWhile (· ≠ '\n')).length with
  | [] => none
  | _ :: rest => some rest

theorem nextLine?_length {chars rest : List Char} (found : nextLine? chars = some rest) :
    rest.length < chars.length := by
  have total := List.length_drop (l := chars) (i := (chars.takeWhile (· ≠ '\n')).length)
  unfold nextLine? at found
  split at found
  · cases found
  · next equation =>
      cases found
      rw [equation] at total
      simp only [List.length_cons] at total
      omega

theorem restOfLine_length (chars : List Char) :
    (restOfLine chars).2.length ≤ chars.length := by
  unfold restOfLine
  simp only
  split <;> simp

theorem blankMessage?_length {blanks after message rest : List Char}
    (found : blankMessage? after blanks = some (message, rest)) :
    rest.length ≤ after.length + blanks.length := by
  induction blanks generalizing after with
  | nil => cases found
  | cons c others inductionHypothesis =>
      cases others with
      | nil => cases found
      | cons next others =>
          simp only [blankMessage?] at found
          split at found
          · have bound := inductionHypothesis found
            simp only [List.length_cons] at bound ⊢
            omega
          · cases found
            simp

theorem message?_length {blanks text message rest : List Char}
    (found : message? blanks text = some (message, rest)) :
    rest.length ≤ blanks.length + text.length := by
  unfold message? at found
  split at found
  · have bound := blankMessage?_length found
    simpa using bound
  · have same := congrArg Prod.snd (Option.some.inj found)
    have bound := restOfLine_length text
    rw [same] at bound
    exact Nat.le_trans bound (Nat.le_add_left ..)

theorem afterColon?_length {chars rest : List Char} (found : afterColon? chars = some rest) :
    rest.length < chars.length := by
  unfold afterColon? at found
  split at found
  · cases found
    simp
  · cases found

/-- Blanks and what follows them make up the text. -/
theorem run?_parts {accepts : Char → Bool} {chars taken rest : List Char}
    (found : run? accepts chars = some (taken, rest)) :
    taken.length + rest.length = chars.length := by
  unfold run? at found
  simp only at found
  split at found
  · cases found
  · cases found
    have bound : (chars.takeWhile accepts).length ≤ chars.length :=
      (List.takeWhile_sublist accepts).length_le
    simp only [List.length_drop]
    omega

/-- What follows a problem is no longer than the text. -/
theorem scan?_length {chars rest : List Char} {fields : Fields}
    (found : scan? chars = some (fields, rest)) : rest.length ≤ chars.length := by
  simp only [scan?, Option.bind_eq_bind, Option.bind_eq_some_iff] at found
  obtain ⟨⟨_, _⟩, letters, ⟨_, _⟩, digits, ⟨_, _⟩, blanks, ⟨_, _⟩, line, _, colon, ⟨_, _⟩, column,
    ⟨_, _⟩, gap, ⟨_, _⟩, message, found⟩ := found
  have letters := run?_parts letters
  have digits := run?_parts digits
  have blanks := run?_parts blanks
  have line := run?_parts line
  have colon := afterColon?_length colon
  have column := run?_parts column
  have gap := run?_parts gap
  have message := message?_length message
  simp only [Option.some.injEq, Prod.mk.injEq] at found
  obtain ⟨_, rfl⟩ := found
  simp only at letters digits blanks line colon column gap message
  omega

end Legacy

/-- The fields of every problem, from the start of a line on: after a problem the search goes on
with the next line after it. -/
def legacyFields (chars : List Char) : List Legacy.Fields :=
  match _found : Legacy.scan? chars with
  | some (fields, rest) =>
      match _follows : Legacy.nextLine? rest with
      | some rest => fields :: legacyFields rest
      | none => [fields]
  | none =>
      match _follows : Legacy.nextLine? chars with
      | some rest => legacyFields rest
      | none => []
termination_by chars.length
decreasing_by
  · exact Nat.lt_of_lt_of_le (Legacy.nextLine?_length (by assumption))
      (Legacy.scan?_length (by assumption))
  · exact Legacy.nextLine?_length (by assumption)

/-- The problems of a legacy report. -/
def legacy (stdout : String) : List Problem :=
  (legacyFields stdout.toList).filterMap fun fields =>
    Problem.ofFields? fields.line fields.column fields.code fields.message

end TemplateLint.Report
