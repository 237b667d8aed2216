import TemplateLint.Flag
import TemplateLint.Proofs.DelimitedPattern

/-!
# Reading delimited reports back

The tool fills the fields of a problem into a template and prints one line for each problem, with
other lines in between.  The reader gets the problems back, and nothing from the other lines: the
fields need no escaping as long as code and message do not hold the tags in front of them.
Main exports: `fill`, `Entry`, `IsLaidOut`, `PrintedLine`, `Printout`, `Printout.read_back`.
-/

namespace TemplateLint.Report

/-! ## Decimal numbers -/

section decimals

theorem readDigits_append (value : Nat) (first second : List Char) :
    Text.readDigits value (first ++ second) =
      (Text.readDigits value first).bind fun next => Text.readDigits next second := by
  induction first generalizing value with
  | nil => rfl
  | cons c first inductionHypothesis =>
      rw [List.cons_append]
      simp only [Text.readDigits, Option.bind_eq_bind]
      cases Text.asciiDigit? c with
      | none => rfl
      | some digit => exact inductionHypothesis _

theorem asciiDigit?_digitChar {digit : Nat} (small : digit < 10) :
    Text.asciiDigit? digit.digitChar = some digit := by
  revert digit
  decide

theorem isDecimal_digitChar {digit : Nat} (small : digit < 10) :
    Text.isDecimal digit.digitChar = true := by
  revert digit
  decide

/-- The decimal text of a number is read as the number. -/
theorem readDigits_decimal (number : Nat) :
    Text.readDigits 0 (Text.decimal number) = some number := by
  induction number using Nat.strong_induction_on with
  | _ number inductionHypothesis =>
      rw [Text.decimal, Nat.toDigits_eq_if (by decide)]
      split
      · next small => simp [Text.readDigits, asciiDigit?_digitChar small]
      · next large =>
          have smaller : number / 10 < number := Nat.div_lt_self (by omega) (by decide)
          have last : number % 10 < 10 := Nat.mod_lt number (by decide)
          have front := inductionHypothesis (number / 10) smaller
          rw [Text.decimal] at front
          rw [readDigits_append, front]
          simp only [Option.bind_some, Text.readDigits, asciiDigit?_digitChar last]
          exact congrArg some (Nat.div_add_mod' number 10)

theorem isDecimal_of_mem_decimal {number : Nat} {c : Char} (member : c ∈ Text.decimal number) :
    Text.isDecimal c = true := by
  induction number using Nat.strong_induction_on with
  | _ number inductionHypothesis =>
      rw [Text.decimal, Nat.toDigits_eq_if (by decide)] at member
      split at member
      · next small =>
          rw [List.mem_singleton.mp member]
          exact isDecimal_digitChar small
      · next large =>
          have smaller : number / 10 < number := Nat.div_lt_self (by omega) (by decide)
          rcases List.mem_append.mp member with front | last
          · exact inductionHypothesis (number / 10) smaller front
          · rw [List.mem_singleton.mp last]
            exact isDecimal_digitChar (Nat.mod_lt number (by decide))

theorem decimal_ne_nil (number : Nat) : Text.decimal number ≠ [] :=
  Nat.toDigits_ne_nil

/-- A number that is not too large is read back. -/
theorem number?_decimal {number : Nat} (bounded : number ≤ Problem.greatestNumber) :
    Problem.number? (Text.decimal number) = some number := by
  have read : Text.asciiNat? (Text.decimal number) = some number := by
    cases digits : Text.decimal number with
    | nil => exact absurd digits (decimal_ne_nil number)
    | cons first rest =>
        rw [Text.asciiNat?, ← digits]
        exact readDigits_decimal number
        simp
  rw [Problem.number?, read]
  simp [bounded]

end decimals

/-! ## The layout -/

/-- Fill texts in for the names that stand in braces; the letters of a name that is being read are
kept. -/
def fill (field : List Char → List Char) : Option (List Char) → List Char → List Char
  | none, [] => []
  | none, c :: rest =>
      if c = '\x7b' then fill field (some []) rest else c :: fill field none rest
  | some _, [] => []
  | some name, c :: rest =>
      if c = '\x7d' then field name ++ fill field none rest
      else fill field (some (name ++ [c])) rest

/-- The line that the template makes of the fields of a problem. -/
def layOut (file place code message : List Char) : List Char :=
  let field := fun name =>
    if name = "filename".toList then file
    else if name = "line".toList then place
    else if name = "code".toList then code
    else if name = "message".toList then message
    else []
  fill field none Flag.delimitedTemplate.toList

set_option maxRecDepth 4000 in
theorem layOut_eq (file place code message : List Char) :
    layOut file place code message =
      fileTag ++ (file ++ (lineTag ++ (place ++ (codeTag ++ (code ++ (messageTag ++
        (message ++ endTag))))))) := by
  rfl

/-- The text is laid out like a problem, in some way in which the numbers can be read. -/
def IsLaidOut (text : List Char) : Prop :=
  ∃ file line column code message,
    text = layOut file (line ++ ':' :: column) code message ∧
      (∃ number, Problem.number? line = some number) ∧
      (∃ number, Problem.number? column = some number) ∧ code ≠ [] ∧ message ≠ []

/-! ## Other lines -/

namespace Delimited

theorem codeAndMessage?_eq_some {chars code message : List Char}
    (found : codeAndMessage? chars = some (code, message)) :
    chars = code ++ (messageTag ++ message) ∧ code ≠ [] ∧ message ≠ [] := by
  rw [codeAndMessage?_eq] at found
  obtain ⟨⟨before, after⟩, parts, found⟩ := Option.bind_eq_some_iff.mp found
  obtain ⟨filled, present, found⟩ := Option.bind_eq_some_iff.mp found
  cases found
  obtain ⟨rest, same, remains⟩ := longest?_eq_some parts
  obtain ⟨rfl, some⟩ := nonEmpty?_eq_some.mp remains
  obtain ⟨rfl, other⟩ := nonEmpty?_eq_some.mp present
  exact ⟨same, other, some⟩

theorem afterFile?_eq_some {chars line column code message : List Char}
    (found : afterFile? chars = some (line, column, code, message)) :
    chars = line ++ ':' :: column ++ (codeTag ++ (code ++ (messageTag ++ message))) ∧
      code ≠ [] ∧ message ≠ [] := by
  rw [afterFile?_eq] at found
  obtain ⟨⟨first, rest⟩, one, found⟩ := Option.bind_eq_some_iff.mp found
  obtain ⟨place, colon, found⟩ := Option.bind_eq_some_iff.mp found
  obtain ⟨⟨second, more⟩, two, found⟩ := Option.bind_eq_some_iff.mp found
  obtain ⟨inner, tag, found⟩ := Option.bind_eq_some_iff.mp found
  obtain ⟨⟨before, after⟩, parts, found⟩ := Option.bind_eq_some_iff.mp found
  cases found
  obtain ⟨same, filled⟩ := codeAndMessage?_eq_some parts
  refine ⟨?_, filled⟩
  have fromLine := number?_eq_some one
  have fromColon := strip?_eq_some.mp colon
  have fromColumn := number?_eq_some two
  have fromTag := strip?_eq_some.mp tag
  simp only at fromColon fromTag
  rw [fromLine, fromColon, fromColumn, fromTag, same]
  simp

/-- The fields that are read in a line are laid out in it. -/
theorem fields?_eq_some {line : List Char} {fields : Fields} (found : fields? line = some fields) :
    dropReturn line = layOut fields.file (fields.line ++ ':' :: fields.column) fields.code
      fields.message ∧ fields.code ≠ [] ∧ fields.message ≠ [] := by
  rw [fields?_eq] at found
  obtain ⟨body, ended, found⟩ := Option.bind_eq_some_iff.mp found
  obtain ⟨inner, begun, found⟩ := Option.bind_eq_some_iff.mp found
  obtain ⟨⟨file, first, second, code, message⟩, parts, found⟩ := Option.bind_eq_some_iff.mp found
  cases found
  obtain ⟨rest, same, accepted⟩ := longest?_eq_some parts
  obtain ⟨place, filled⟩ := afterFile?_eq_some accepted
  refine ⟨?_, filled⟩
  rw [dropEnd?_eq_some.mp ended, strip?_eq_some.mp begun, same, place, layOut_eq]
  simp only [List.append_assoc]

/-- Whatever is read as a problem is laid out like one. -/
theorem isLaidOut_of_problem? {line : List Char} {problem : Problem}
    (read : problem? line = some problem) : IsLaidOut (dropReturn line) := by
  obtain ⟨fields, found, denotes⟩ := Option.bind_eq_some_iff.mp read
  obtain ⟨same, filled⟩ := fields?_eq_some found
  obtain ⟨number, readFirst, denotes⟩ := Option.bind_eq_some_iff.mp denotes
  obtain ⟨other, readSecond, -⟩ := Option.bind_eq_some_iff.mp denotes
  exact ⟨fields.file, fields.line, fields.column, fields.code, fields.message, same,
    ⟨number, readFirst⟩, ⟨other, readSecond⟩, filled⟩

/-- The code and the message that are read in a line are parts of that line. -/
theorem fields?_oneLine {line : List Char} {fields : Fields} (found : fields? line = some fields)
    (oneLine : '\n' ∉ line) : '\n' ∉ fields.code ∧ '\n' ∉ fields.message := by
  obtain ⟨same, -⟩ := fields?_eq_some found
  have part {c : Char} (member : c ∈ dropReturn line) : c ∈ line := by
    unfold dropReturn at member
    split at member
    · exact List.mem_of_mem_dropLast member
    · exact member
  rw [layOut_eq] at same
  constructor
  · intro member
    exact oneLine (part (by simp [same, member]))
  · intro member
    exact oneLine (part (by simp [same, member]))

end Delimited

/-! ## Problems -/

/-- A problem as the tool knows it: the line counts from one.  A field is one line of text, and
neither code nor message holds the tags that stand before it. -/
structure Entry where
  file : List Char
  line : Nat
  column : Nat
  code : List Char
  message : List Char
  file_oneLine : '\n' ∉ file
  line_bounded : line ≤ Problem.greatestNumber
  column_bounded : column ≤ Problem.greatestNumber
  code_filled : code ≠ []
  code_oneLine : '\n' ∉ code
  code_plain : ¬ lineTag <:+: code
  message_filled : message ≠ []
  message_oneLine : '\n' ∉ message
  message_plain : ¬ lineTag <:+: message
  message_whole : ¬ messageTag <:+: message

namespace Entry

/-- Line and column as the tool prints them. -/
def place (entry : Entry) : List Char :=
  Text.decimal entry.line ++ ':' :: Text.decimal entry.column

/-- The line that the tool prints. -/
def text (entry : Entry) : List Char :=
  layOut entry.file entry.place entry.code entry.message

/-- The line without the tag at its end. -/
def body (entry : Entry) : List Char :=
  fileTag ++ (entry.file ++ (lineTag ++ (entry.place ++ (codeTag ++ (entry.code ++
    (messageTag ++ entry.message))))))

theorem text_eq (entry : Entry) : entry.text = entry.body ++ endTag := by
  rw [text, layOut_eq, body]
  simp only [List.append_assoc]

/-- The problem that is to be read. -/
def problem (entry : Entry) : Problem :=
  ⟨entry.line - 1, entry.column, String.ofList entry.code, String.ofList entry.message⟩

theorem not_mem_place {c : Char} (entry : Entry) (plain : Text.isDecimal c = false)
    (other : c ≠ ':') : c ∉ entry.place := by
  have notDigit (number : Nat) : c ∉ Text.decimal number := by
    intro member
    rw [isDecimal_of_mem_decimal member] at plain
    cases plain
  simp [place, notDigit, other]

theorem text_oneLine (entry : Entry) : '\n' ∉ entry.text := by
  have inPlace := entry.not_mem_place (by decide : Text.isDecimal '\n' = false) (by decide)
  rw [text_eq, body]
  simp only [List.mem_append, not_or]
  exact ⟨⟨by decide, entry.file_oneLine, by decide, inPlace, by decide, entry.code_oneLine,
    by decide, entry.message_oneLine⟩, by decide⟩

end Entry

namespace Delimited

/-- A text without the first character of a tag is clear of the tag. -/
theorem clear_of_not_mem {t : Char} {tag text : List Char} (absent : t ∉ text) :
    Clear (t :: tag) text = true := by
  induction text with
  | nil => rfl
  | cons c text inductionHypothesis =>
      rw [List.mem_cons, not_or] at absent
      have other : ¬ c = t := fun equal => absent.1 equal.symm
      have unlike : Alike (t :: tag) (c :: text) = false := by
        simp [Alike, List.isPrefixOf_cons_cons, absent.1, other]
      rw [Clear, unlike, inductionHypothesis absent.2]
      rfl

/-- The tag before the place does not occur after it. -/
theorem lineTag_absent (entry : Entry) :
    ¬ lineTag <:+: entry.place ++ (codeTag ++ (entry.code ++ (messageTag ++ entry.message))) := by
  intro occurs
  have noBracket := entry.not_mem_place (by decide : Text.isDecimal '<' = false) (by decide)
  have afterPlace := infix_of_clear (clear_of_not_mem noBracket) occurs
  have inCode := infix_of_clear (by decide : Clear lineTag codeTag = true) afterPlace
  rcases infix_of_apart (by decide : Apart lineTag messageTag = true) inCode with inside | later
  · exact entry.code_plain inside
  · exact entry.message_plain (infix_of_clear (by decide) later)

theorem number?_decimal_append (number : Nat) {c : Char} (ends : Text.isDecimal c = false)
    (rest : List Char) :
    number? (Text.decimal number ++ c :: rest) = some (Text.decimal number, c :: rest) := by
  have taken : (Text.decimal number ++ c :: rest).takeWhile Text.isDecimal =
      Text.decimal number := by
    rw [List.takeWhile_append_of_pos fun _ member => isDecimal_of_mem_decimal member]
    simp [ends]
  simp [number?, taken, decimal_ne_nil]

theorem codeAndMessage?_append (entry : Entry) :
    codeAndMessage? (entry.code ++ (messageTag ++ entry.message)) =
      some (entry.code, entry.message) := by
  have message : nonEmpty? entry.message = some entry.message :=
    nonEmpty?_eq_some.mpr ⟨rfl, entry.message_filled⟩
  have code : nonEmpty? entry.code = some entry.code :=
    nonEmpty?_eq_some.mpr ⟨rfl, entry.code_filled⟩
  rw [codeAndMessage?_eq, longest?_append (by decide) (by decide) entry.message_whole message]
  simp [code]

theorem afterFile?_append (entry : Entry) :
    afterFile? (entry.place ++ (codeTag ++ (entry.code ++ (messageTag ++ entry.message)))) =
      some (Text.decimal entry.line, Text.decimal entry.column, entry.code, entry.message) := by
  have colon (rest : List Char) : strip? [':'] (':' :: rest) = some rest :=
    strip?_eq_some.mpr rfl
  have afterColumn (rest : List Char) :
      number? (Text.decimal entry.column ++ (codeTag ++ rest)) =
        some (Text.decimal entry.column, codeTag ++ rest) :=
    number?_decimal_append entry.column (by decide : Text.isDecimal '<' = false) _
  have tag (rest : List Char) : strip? codeTag (codeTag ++ rest) = some rest :=
    strip?_eq_some.mpr rfl
  rw [afterFile?_eq, Entry.place, List.append_assoc, List.cons_append,
    number?_decimal_append entry.line (by decide)]
  simp only [Option.bind_some, colon, afterColumn, tag, codeAndMessage?_append]

theorem fields?_of_dropReturn {line : List Char} (entry : Entry)
    (same : dropReturn line = entry.text) :
    fields? line = some ⟨entry.file, Text.decimal entry.line, Text.decimal entry.column, entry.code,
      entry.message⟩ := by
  have ended : dropEnd? line = some entry.body :=
    dropEnd?_eq_some.mpr (same.trans entry.text_eq)
  have begun (rest : List Char) : strip? fileTag (fileTag ++ rest) = some rest :=
    strip?_eq_some.mpr rfl
  rw [fields?_eq, ended, Option.bind_some, Entry.body, begun, Option.bind_some,
    longest?_append (by decide) (by decide) (lineTag_absent entry) (afterFile?_append entry)]
  rfl

/-- A problem is read back. -/
theorem problem?_of_dropReturn {line : List Char} (entry : Entry)
    (same : dropReturn line = entry.text) : problem? line = some entry.problem := by
  rw [problem?, fields?_of_dropReturn entry same]
  simp [Problem.ofFields?, number?_decimal entry.line_bounded, number?_decimal entry.column_bounded,
    Entry.problem]

theorem dropReturn_text (entry : Entry) : dropReturn entry.text = entry.text := by
  rw [entry.text_eq, dropReturn_endTag]

end Delimited

/-! ## Printouts -/

/-- How a line ends. -/
inductive LineEnd where
  /-- With the text. -/
  | none
  | feed
  | returnFeed
deriving DecidableEq

namespace LineEnd

/-- What a line feed leaves of the end on its line. -/
def carriage : LineEnd → List Char
  | returnFeed => ['\r']
  | _ => []

/-- The line feed. -/
def feeds : LineEnd → List Char
  | none => []
  | _ => ['\n']

theorem feeds_of_ne_none {ending : LineEnd} (ends : ending ≠ .none) : ending.feeds = ['\n'] := by
  cases ending with
  | none => exact absurd rfl ends
  | _ => rfl

end LineEnd

/-- A printed line: a problem, or one that is not laid out like a problem. -/
inductive PrintedLine where
  | problem (entry : Entry) (ending : LineEnd)
  | other (text : List Char) (ending : LineEnd) (oneLine : '\n' ∉ text)
      (unlike : ¬ IsLaidOut (Delimited.dropReturn (text ++ ending.carriage)))

namespace PrintedLine

/-- How the line ends. -/
def ending : PrintedLine → LineEnd
  | problem _ ending => ending
  | other _ ending _ _ => ending

/-- The line up to its line feed. -/
def content : PrintedLine → List Char
  | problem entry ending => entry.text ++ ending.carriage
  | other text ending _ _ => text ++ ending.carriage

/-- The line as it is printed. -/
def chars (line : PrintedLine) : List Char :=
  line.content ++ line.ending.feeds

/-- The problem that the line reports. -/
def problem? : PrintedLine → Option Problem
  | problem entry _ => some entry.problem
  | other .. => none

theorem content_oneLine (line : PrintedLine) : '\n' ∉ line.content := by
  have carriage (ending : LineEnd) : '\n' ∉ ending.carriage := by
    cases ending <;> decide
  cases line with
  | problem entry ending => simp [content, entry.text_oneLine, carriage]
  | other text ending oneLine unlike => simp [content, oneLine, carriage]

/-- Each line is read as what it is. -/
theorem problem?_content (line : PrintedLine) :
    Delimited.problem? line.content = line.problem? := by
  cases line with
  | problem entry ending =>
      apply Delimited.problem?_of_dropReturn
      cases ending with
      | returnFeed => exact Delimited.dropReturn_return entry.text
      | none => simpa [content, LineEnd.carriage] using Delimited.dropReturn_text entry
      | feed => simpa [content, LineEnd.carriage] using Delimited.dropReturn_text entry
  | other text ending oneLine unlike =>
      cases read : Delimited.problem? (content (other text ending oneLine unlike)) with
      | none => rfl
      | some found => exact absurd (Delimited.isLaidOut_of_problem? read) unlike

end PrintedLine

/-- What the tool prints: lines, of which only the last may end with the text. -/
structure Printout where
  lines : List PrintedLine
  parted : ∀ line ∈ lines.dropLast, line.ending ≠ .none

namespace Printout

/-- The whole text. -/
def text (printout : Printout) : String :=
  String.ofList (printout.lines.flatMap PrintedLine.chars)

/-- The problems, in the order of their lines. -/
def problems (printout : Printout) : List Problem :=
  printout.lines.filterMap PrintedLine.problem?

theorem filterMap_lines {lines : List PrintedLine}
    (parted : ∀ line ∈ lines.dropLast, line.ending ≠ .none) :
    ((lines.flatMap PrintedLine.chars).splitOn '\n').filterMap Delimited.problem? =
      lines.filterMap PrintedLine.problem? := by
  induction lines with
  | nil => rfl
  | cons line rest inductionHypothesis =>
      have here := line.problem?_content
      rw [List.flatMap_cons, PrintedLine.chars, List.append_assoc]
      by_cases ended : line.ending = .none
      · have last : rest = [] := by
          by_contra more
          obtain ⟨next, others, rfl⟩ := List.exists_cons_of_ne_nil more
          exact parted line (by simp) ended
        rw [last, ended]
        simp [LineEnd.feeds, List.splitOn_eq_singleton line.content_oneLine, here,
          List.filterMap_cons]
      · have stillParted : ∀ other ∈ rest.dropLast, other.ending ≠ .none := by
          intro other member
          apply parted other
          cases rest with
          | nil => cases member
          | cons next others => exact List.mem_cons_of_mem line member
        rw [LineEnd.feeds_of_ne_none ended, List.singleton_append,
          List.splitOn_append_cons_self_of_not_mem line.content_oneLine, List.filterMap_cons, here,
          inductionHypothesis stillParted, List.filterMap_cons]

/-- The problems of a printout are read back, and nothing else: line by line, and by the matches of
the pattern in the whole text. -/
theorem read_back (printout : Printout) :
    Report.delimited printout.text = printout.problems ∧
      (Pattern.delimited.finds true printout.text.toList).filterMap Problem.ofCaptures? =
        printout.problems := by
  have lineByLine : Report.delimited printout.text = printout.problems := by
    rw [Report.delimited, Report.lines, text, String.toList_ofList]
    exact filterMap_lines printout.parted
  constructor
  · exact lineByLine
  · rw [← delimited_eq_finds]
    exact lineByLine

end Printout

end TemplateLint.Report
