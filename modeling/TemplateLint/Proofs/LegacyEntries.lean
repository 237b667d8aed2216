import TemplateLint.Proofs.Patterns
import TemplateLint.Proofs.Phrases
import TemplateLint.Report.Legacy

/-!
# Problems in legacy reports

A problem is spelled by a text of its own: a code, a place and a message with blanks between them.
The blanks may hold line ends, so that the text may have several lines.  Of all the texts that spell
a problem, end with a line, and stand at the beginning of a report, the scan finds the longest.
Main exports: `Legacy.Spells`, `Legacy.scan?_sound`, `Legacy.scan?_longest`, `Legacy.BreaksOff`,
`Legacy.Spells.breaksOff`.
-/

namespace TemplateLint.Report

namespace Legacy

/-! ## Runs -/

/-- Characters of one kind, and at least one. -/
def Run (accepts : Char → Bool) (chars : List Char) : Prop :=
  chars ≠ [] ∧ ∀ c ∈ chars, accepts c = true

/-- The text does not begin with a character of the kind. -/
def Stops (accepts : Char → Bool) (text : List Char) : Prop :=
  ∀ c, text.head? = some c → accepts c = false

section runs

variable {accepts other : Char → Bool} {taken rest chars : List Char}

theorem Stops.append (run : Run other taken) (rest : List Char)
    (apart : ∀ c, other c = true → accepts c = false) : Stops accepts (taken ++ rest) := by
  obtain ⟨filled, all⟩ := run
  obtain ⟨first, more, rfl⟩ := List.exists_cons_of_ne_nil filled
  intro c head
  cases head
  exact apart _ (all _ (by simp))

theorem takeWhile_append (all : ∀ c ∈ taken, accepts c = true) (stops : Stops accepts rest) :
    (taken ++ rest).takeWhile accepts = taken := by
  rw [List.takeWhile_append_of_pos all]
  cases rest with
  | nil => simp
  | cons c rest => simp [stops c rfl]

theorem run?_append (run : Run accepts taken) (stops : Stops accepts rest) :
    run? accepts (taken ++ rest) = some (taken, rest) := by
  simp [run?, takeWhile_append run.2 stops, run.1]

theorem run?_eq_some (found : run? accepts chars = some (taken, rest)) :
    chars = taken ++ rest ∧ Run accepts taken ∧ Stops accepts rest := by
  have whole := List.takeWhile_append_dropWhile (p := accepts) (l := chars)
  have left : chars.drop (chars.takeWhile accepts).length = chars.dropWhile accepts := by
    have front := List.prefix_iff_eq_append.mp (List.takeWhile_prefix accepts (l := chars))
    exact List.append_cancel_left (front.trans whole.symm)
  rw [run?, left] at found
  split at found
  · cases found
  · next filled =>
      cases found
      refine ⟨whole.symm, ⟨filled, fun c member => List.mem_takeWhile_imp member⟩, ?_⟩
      intro c first
      have failing := List.head?_dropWhile_not accepts chars
      rw [first] at failing
      simpa using failing

end runs

/-! ## Messages -/

/-- A message, and what ends its line with it: a carriage return, if there is one.  When nothing
but blanks are there, one blank stands for the message. -/
inductive Closes (message : List Char) : List Char → Prop where
  | text (ending : List Char) (filled : message ≠ []) (starts : Stops Text.isBlank message)
      (oneLine : '\n' ∉ message)
      (ends : ending = ['\r'] ∨ ending = [] ∧ message.getLast? ≠ some '\r') : Closes message ending
  | blank (c : Char) (single : message = [c]) (blank : Text.isBlank c = true) (inLine : c ≠ '\n') :
      Closes message []

/-- The blanks after the column with the message behind them. -/
inductive Tail (message : List Char) : List Char → Prop where
  | intro (margin ending : List Char) (blanks : Run Text.isBlank margin)
      (closes : Closes message ending) : Tail message (margin ++ (message ++ ending))

/-- The message after the column, and what follows it. -/
def tail? (chars : List Char) : Option (List Char × List Char) :=
  (run? Text.isBlank chars).bind fun parts => message? parts.1 parts.2

theorem Closes.oneLine {message ending : List Char} (closes : Closes message ending) :
    '\n' ∉ message ++ ending := by
  cases closes with
  | text ending filled starts oneLine ends =>
      rcases ends with rfl | ⟨rfl, last⟩
      · simpa using oneLine
      · simpa using oneLine
  | blank c single blank inLine =>
      rw [single]
      simpa using Ne.symm inLine

/-- A line is read up to its end. -/
theorem takeWhile_line {line rest : List Char} (oneLine : '\n' ∉ line)
    (ends : endsLine rest = true) : (line ++ rest).takeWhile (· ≠ '\n') = line := by
  apply takeWhile_append
  · intro c member
    have other : c ≠ '\n' := by
      intro same
      exact oneLine (same ▸ member)
    simpa using other
  · intro c first
    cases rest with
    | nil => cases first
    | cons d rest =>
        cases first
        simpa using eq_of_endsLine ends

theorem restOfLine_append {message ending after : List Char} (oneLine : '\n' ∉ message)
    (ends : ending = ['\r'] ∨ ending = [] ∧ message.getLast? ≠ some '\r')
    (line : endsLine after = true) :
    restOfLine (message ++ ending ++ after) = (message, after) := by
  have whole : '\n' ∉ message ++ ending := by
    rcases ends with rfl | ⟨rfl, last⟩
    · simpa using oneLine
    · simpa using oneLine
  rw [restOfLine, takeWhile_line whole line, List.drop_left]
  rcases ends with rfl | ⟨rfl, last⟩
  · simp
  · simp [last]

/-- Every text begins with a line. -/
theorem exists_line (chars : List Char) :
    ∃ line rest, chars = line ++ rest ∧ '\n' ∉ line ∧ endsLine rest = true := by
  by_cases feeds : '\n' ∈ chars
  · obtain ⟨line, rest, whole, oneLine⟩ := List.eq_append_cons_of_mem feeds
    exact ⟨line, '\n' :: rest, whole, oneLine, rfl⟩
  · exact ⟨chars, [], by simp, feeds, rfl⟩

theorem restOfLine_eq {chars message after : List Char} (filled : chars ≠ [])
    (starts : Stops Text.isBlank chars) (read : restOfLine chars = (message, after)) :
    ∃ ending, chars = message ++ ending ++ after ∧ Closes message ending ∧
      endsLine after = true ∧ after.length < chars.length := by
  obtain ⟨line, rest, rfl, oneLine, ends⟩ := exists_line chars
  have begun : ∃ c more, line = c :: more ∧ Text.isBlank c = false := by
    cases line with
    | nil =>
        cases rest with
        | nil => exact absurd rfl filled
        | cons c rest =>
            have feed := starts c rfl
            rw [eq_of_endsLine ends] at feed
            cases feed
    | cons c more => exact ⟨c, more, rfl, starts c rfl⟩
  obtain ⟨c, more, rfl, visible⟩ := begun
  have shorter : rest.length < (c :: more ++ rest).length := by
    rw [List.length_append, List.length_cons]
    omega
  rw [restOfLine, takeWhile_line oneLine ends, List.drop_left] at read
  split at read
  · next returns =>
      cases read
      have whole := List.dropLast_append_getLast? '\r' returns
      have inside : more ≠ [] := by
        rintro rfl
        cases returns
        cases visible
      obtain ⟨d, others, rfl⟩ := List.exists_cons_of_ne_nil inside
      refine ⟨['\r'], by rw [whole], ?_, ends, shorter⟩
      apply Closes.text
      · simp
      · intro e head
        cases head
        exact visible
      · intro member
        exact oneLine (List.mem_of_mem_dropLast member)
      · exact Or.inl rfl
  · next last =>
      cases read
      refine ⟨[], by simp, ?_, ends, shorter⟩
      apply Closes.text
      · simp
      · intro d head
        cases head
        exact visible
      · exact oneLine
      · exact Or.inr ⟨rfl, last⟩

theorem blankMessage?_concat {blanks : List Char} (filled : blanks ≠ []) (last : Char)
    (before : List Char) :
    blankMessage? before (blanks ++ [last]).reverse =
      if last = '\n' then blankMessage? (last :: before) blanks.reverse
      else some ([last], before) := by
  have more : blanks.reverse ≠ [] := by simpa using filled
  obtain ⟨next, others, same⟩ := List.exists_cons_of_ne_nil more
  rw [List.reverse_append, List.reverse_singleton, List.singleton_append, same, blankMessage?]
  simp

/-- Where there are only blanks, the last one that is in a line is taken. -/
theorem blankMessage?_sound {blanks before message after : List Char}
    (found : blankMessage? before blanks.reverse = some (message, after)) :
    ∃ margin c feeds, blanks = margin ++ c :: feeds ∧ margin ≠ [] ∧ c ≠ '\n' ∧ message = [c] ∧
      after = feeds ++ before ∧ ∀ d ∈ feeds, d = '\n' := by
  induction blanks using List.reverseRecOn generalizing before with
  | nil => cases found
  | append_singleton blanks last inductionHypothesis =>
      by_cases filled : blanks = []
      · subst filled
        cases found
      · rw [blankMessage?_concat filled] at found
        split at found
        · next feed =>
            obtain ⟨margin, c, feeds, whole, proper, inLine, same, rest, all⟩ :=
              inductionHypothesis found
            refine ⟨margin, c, feeds ++ [last], by simp [whole], proper, inLine, same,
              by simp [rest], ?_⟩
            intro d member
            rcases List.mem_append.mp member with early | late
            · exact all d early
            · rw [List.mem_singleton.mp late, feed]
        · next inLine =>
            cases found
            exact ⟨blanks, last, [], rfl, filled, inLine, rfl, rfl, by simp⟩

/-- One is taken as soon as there is one in a line behind another blank: that one, unless there is
a later one. -/
theorem exists_blankMessage? {margin : List Char} {c : Char} (filled : margin ≠ [])
    (inLine : c ≠ '\n') (more before : List Char) :
    ∃ message after, blankMessage? before (margin ++ c :: more).reverse = some (message, after) ∧
      after.length ≤ more.length + before.length ∧
      (after.length = more.length + before.length → message = [c]) := by
  induction more using List.reverseRecOn generalizing before with
  | nil =>
      refine ⟨[c], before, ?_, by simp, fun _ => rfl⟩
      rw [blankMessage?_concat filled, if_neg inLine]
  | append_singleton more last inductionHypothesis =>
      have longer : margin ++ c :: more ≠ [] := by simp
      rw [← List.cons_append, ← List.append_assoc, blankMessage?_concat longer,
        List.length_append, List.length_singleton]
      split
      · obtain ⟨message, after, found, bound, exact⟩ := inductionHypothesis (last :: before)
        rw [List.length_cons] at bound exact
        refine ⟨message, after, found, by omega, fun same => exact (by omega)⟩
      · exact ⟨[last], before, rfl, by omega, fun same => by omega⟩

/-- What is taken for the message closes the text before what follows. -/
theorem tail?_sound {chars message after : List Char} (found : tail? chars = some (message, after)) :
    ∃ part, chars = part ++ after ∧ Tail message part ∧ endsLine after = true := by
  obtain ⟨⟨blanks, rest⟩, run, read⟩ := Option.bind_eq_some_iff.mp found
  obtain ⟨rfl, isRun, stops⟩ := run?_eq_some run
  simp only at read
  unfold message? at read
  split at read
  · obtain ⟨margin, c, feeds, whole, filled, inLine, rfl, same, all⟩ := blankMessage?_sound read
    simp only [List.append_nil] at same
    subst same whole
    have blank : Text.isBlank c = true := isRun.2 c (by simp)
    refine ⟨margin ++ ([c] ++ []), by simp, ?_, ?_⟩
    · apply Tail.intro
      · exact ⟨filled, fun d member => isRun.2 d (by simp [member])⟩
      · exact Closes.blank c rfl blank inLine
    · cases after with
      | nil => rfl
      | cons d after => simpa [endsLine] using all d (by simp)
  · next rest present =>
      obtain ⟨ending, rfl, closes, ends, -⟩ :=
        restOfLine_eq present stops (Option.some.inj read)
      refine ⟨blanks ++ (message ++ ending), by simp, ?_, ends⟩
      exact Tail.intro blanks ending isRun closes

theorem message?_of_ne_nil {blanks rest : List Char} (present : rest ≠ []) :
    message? blanks rest = some (restOfLine rest) := by
  cases rest with
  | nil => exact absurd rfl present
  | cons c rest => rfl

theorem tail?_append {blanks rest : List Char} (run : Run Text.isBlank blanks)
    (stops : Stops Text.isBlank rest) : tail? (blanks ++ rest) = message? blanks rest := by
  rw [tail?, run?_append run stops, Option.bind_some]

/-- Where a message closes a text and its line ends, one is found that goes no less far. -/
theorem tail?_longest {message part after : List Char} (tail : Tail message part)
    (ends : endsLine after = true) :
    ∃ other rest, tail? (part ++ after) = some (other, rest) ∧ rest.length ≤ after.length ∧
      (rest.length = after.length → other = message) := by
  obtain ⟨margin, ending, blanks, closes⟩ := tail
  cases closes with
  | text ending filled starts oneLine closed =>
      have present : message ++ ending ++ after ≠ [] := by simp [filled]
      have stops : Stops Text.isBlank (message ++ ending ++ after) := by
        obtain ⟨c, more, rfl⟩ := List.exists_cons_of_ne_nil filled
        intro d head
        cases head
        exact starts c rfl
      refine ⟨message, after, ?_, Nat.le_refl _, fun _ => rfl⟩
      rw [List.append_assoc, tail?_append blanks stops, message?_of_ne_nil present,
        restOfLine_append oneLine closed ends]
  | blank c single blank inLine =>
      have split := List.takeWhile_append_dropWhile (p := Text.isBlank) (l := after)
      generalize more? : after.takeWhile Text.isBlank = more at split
      generalize body? : after.dropWhile Text.isBlank = body at split
      subst single split
      have run : Run Text.isBlank (margin ++ c :: more) := by
        refine ⟨by simp, ?_⟩
        intro d member
        rcases List.mem_append.mp member with early | late
        · exact blanks.2 d early
        · rcases List.mem_cons.mp late with rfl | later
          · exact blank
          · rw [← more?] at later
            exact List.mem_takeWhile_imp later
      have stops : Stops Text.isBlank body := by
        intro d head
        have failing := List.head?_dropWhile_not Text.isBlank (more ++ body)
        rw [body?, head] at failing
        simpa using failing
      have whole : margin ++ ([c] ++ []) ++ (more ++ body) = margin ++ c :: more ++ body := by
        simp
      rw [whole, tail?_append run stops]
      by_cases present : body = []
      · subst present
        obtain ⟨other, rest, found, bound, same⟩ :=
          exists_blankMessage? blanks.1 inLine more []
        refine ⟨other, rest, found, ?_, ?_⟩
        · simpa using bound
        · simpa using same
      · rw [message?_of_ne_nil present]
        obtain ⟨ending, -, -, -, shorter⟩ := restOfLine_eq present stops rfl
        refine ⟨_, _, rfl, ?_, ?_⟩
        · rw [List.length_append]
          omega
        · intro same
          rw [List.length_append] at same
          omega

/-! ## Whole problems -/

/-- The text spells a problem with these fields, from its first character to its last. -/
inductive Spells : Fields → List Char → Prop where
  | intro (letters digits gap line column message tail : List Char)
      (isWord : Run isCodeLetter letters) (isNumber : Run Text.isDecimal digits)
      (isGap : Run Text.isBlank gap) (isLine : Run Text.isDecimal line)
      (isColumn : Run Text.isDecimal column) (isTail : Tail message tail) :
      Spells ⟨letters ++ digits, line, column, message⟩
        (letters ++ (digits ++ (gap ++ (line ++ ':' :: (column ++ tail)))))

theorem not_isCodeLetter_of_isDecimal {c : Char} (digit : Text.isDecimal c = true) :
    isCodeLetter c = false := by
  have apart : Text.inRanges [(0x41, 0x5a)] c = false := Text.inRanges_of_apart (by decide) digit
  simpa [Text.inRanges, isCodeLetter, Char.le_def, UInt32.le_iff_toNat_le] using apart

theorem afterColon?_eq_some {chars rest : List Char} (found : afterColon? chars = some rest) :
    chars = ':' :: rest := by
  unfold afterColon? at found
  split at found
  · cases found
    rfl
  · cases found

theorem scan?_eq (chars : List Char) :
    scan? chars = (run? isCodeLetter chars).bind fun letters =>
      (run? Text.isDecimal letters.2).bind fun digits =>
      (run? Text.isBlank digits.2).bind fun gap =>
      (run? Text.isDecimal gap.2).bind fun line =>
      (afterColon? line.2).bind fun place =>
      (run? Text.isDecimal place).bind fun column =>
      (tail? column.2).map fun message =>
        (⟨letters.1 ++ digits.1, line.1, column.1, message.1⟩, message.2) := by
  simp only [scan?, tail?, Option.bind_eq_bind, Option.map_eq_bind, Option.bind_assoc]
  rfl

/-- What the scan finds is spelled by the text up to the end of a line. -/
theorem scan?_sound {chars after : List Char} {fields : Fields}
    (found : scan? chars = some (fields, after)) :
    ∃ entry, chars = entry ++ after ∧ Spells fields entry ∧ endsLine after = true := by
  rw [scan?_eq] at found
  obtain ⟨⟨letters, rest⟩, word, found⟩ := Option.bind_eq_some_iff.mp found
  obtain ⟨⟨digits, rest⟩, number, found⟩ := Option.bind_eq_some_iff.mp found
  obtain ⟨⟨gap, rest⟩, blanks, found⟩ := Option.bind_eq_some_iff.mp found
  obtain ⟨⟨line, rest⟩, place, found⟩ := Option.bind_eq_some_iff.mp found
  obtain ⟨behind, colon, found⟩ := Option.bind_eq_some_iff.mp found
  obtain ⟨⟨column, rest⟩, last, found⟩ := Option.bind_eq_some_iff.mp found
  obtain ⟨⟨message, left⟩, closes, same⟩ := Option.map_eq_some_iff.mp found
  simp only at number blanks place colon last closes same
  obtain ⟨rfl, rfl⟩ := Prod.mk.inj same
  obtain ⟨rfl, isWord, -⟩ := run?_eq_some word
  obtain ⟨rfl, isNumber, -⟩ := run?_eq_some number
  obtain ⟨rfl, isGap, -⟩ := run?_eq_some blanks
  obtain ⟨rfl, isLine, -⟩ := run?_eq_some place
  obtain rfl := afterColon?_eq_some colon
  obtain ⟨rfl, isColumn, -⟩ := run?_eq_some last
  obtain ⟨tail, rfl, isTail, ends⟩ := tail?_sound closes
  refine ⟨letters ++ (digits ++ (gap ++ (line ++ ':' :: (column ++ tail)))), by simp, ?_, ends⟩
  exact Spells.intro letters digits gap line column message tail isWord isNumber isGap isLine
    isColumn isTail

theorem Tail.stops {message tail : List Char} (isTail : Tail message tail) (after : List Char) :
    Stops Text.isDecimal (tail ++ after) := by
  obtain ⟨margin, ending, blanks, closes⟩ := isTail
  rw [List.append_assoc]
  exact Stops.append blanks _ fun c => Text.not_isDecimal_of_isBlank

/-- Where a text spells a problem and its line ends, the scan finds one that goes no less far. -/
theorem scan?_longest {fields : Fields} {entry : List Char} (spells : Spells fields entry)
    {after : List Char} (ends : endsLine after = true) :
    ∃ other rest, scan? (entry ++ after) = some (other, rest) ∧ rest.length ≤ after.length ∧
      (rest.length = after.length → other = fields) := by
  obtain ⟨letters, digits, gap, line, column, message, tail, isWord, isNumber, isGap, isLine,
    isColumn, isTail⟩ := spells
  obtain ⟨found, rest, closes, bound, same⟩ := tail?_longest isTail ends
  have whole : letters ++ (digits ++ (gap ++ (line ++ ':' :: (column ++ tail)))) ++ after =
      letters ++ (digits ++ (gap ++ (line ++ ':' :: (column ++ (tail ++ after))))) := by simp
  have colon (text : List Char) : Stops Text.isDecimal (':' :: text) := by
    intro c head
    cases head
    decide
  have afterWord := Stops.append isNumber (gap ++ (line ++ ':' :: (column ++ (tail ++ after))))
    fun c => not_isCodeLetter_of_isDecimal
  have afterNumber := Stops.append isGap (line ++ ':' :: (column ++ (tail ++ after)))
    fun c => Text.not_isDecimal_of_isBlank
  have afterGap := Stops.append isLine (':' :: (column ++ (tail ++ after)))
    fun c => Text.not_isBlank_of_isDecimal
  refine ⟨⟨letters ++ digits, line, column, found⟩, rest, ?_, bound, ?_⟩
  · rw [whole, scan?_eq, run?_append isWord afterWord, Option.bind_some,
      run?_append isNumber afterNumber, Option.bind_some, run?_append isGap afterGap,
      Option.bind_some, run?_append isLine (colon _), Option.bind_some, afterColon?,
      Option.bind_some, run?_append isColumn (isTail.stops after), Option.bind_some, closes]
    rfl
  · intro equal
    rw [same equal]

/-- A text that spells a problem spells no other one. -/
theorem Spells.unique {fields other : Fields} {entry : List Char} (one : Spells fields entry)
    (two : Spells other entry) : fields = other := by
  have atEnd : endsLine [] = true := rfl
  obtain ⟨first, rest, found, bound, same⟩ := scan?_longest one atEnd
  obtain ⟨second, left, again, limit, equal⟩ := scan?_longest two atEnd
  rw [found] at again
  cases again
  rw [← same (Nat.le_zero.mp bound), equal (Nat.le_zero.mp limit)]

/-! ## Problems over several lines -/

/-- The line begins a problem and ends among the blanks before its place or before its message. -/
inductive BreaksOff : List Char → Prop where
  | beforePlace (letters digits blanks : List Char) (isWord : Run isCodeLetter letters)
      (isNumber : Run Text.isDecimal digits) (areBlanks : ∀ c ∈ blanks, Text.isBlank c = true) :
      BreaksOff (letters ++ (digits ++ blanks))
  | beforeMessage (letters digits gap line column blanks : List Char)
      (isWord : Run isCodeLetter letters) (isNumber : Run Text.isDecimal digits)
      (isGap : Run Text.isBlank gap) (isLine : Run Text.isDecimal line)
      (isColumn : Run Text.isDecimal column) (areBlanks : ∀ c ∈ blanks, Text.isBlank c = true) :
      BreaksOff (letters ++ (digits ++ (gap ++ (line ++ ':' :: (column ++ blanks)))))

/-- A line that a text begins with begins with a part of the text that has no line feed. -/
theorem split_oneLine {part others line rest : List Char}
    (whole : part ++ others = line ++ '\n' :: rest) (oneLine : '\n' ∉ part) :
    ∃ more, line = part ++ more ∧ others = more ++ '\n' :: rest := by
  rcases List.append_eq_append_iff.mp whole with ⟨more, same, left⟩ | ⟨more, same, left⟩
  · exact ⟨more, same, left⟩
  · cases more with
    | nil => exact ⟨[], by simpa using same.symm, by simpa using left.symm⟩
    | cons c more =>
        obtain ⟨rfl, -⟩ := List.cons.inj left
        rw [same] at oneLine
        exact absurd (by simp) oneLine

/-- It ends in a part that has one. -/
theorem split_feed {part others line rest : List Char}
    (whole : part ++ others = line ++ '\n' :: rest) (oneLine : '\n' ∉ line) (feeds : '\n' ∈ part) :
    ∃ more, part = line ++ more := by
  rcases List.append_eq_append_iff.mp whole with ⟨more, same, left⟩ | ⟨more, same, left⟩
  · rw [same] at oneLine
    exact absurd (List.mem_append_left more feeds) oneLine
  · exact ⟨more, same⟩

theorem Run.oneLine {accepts : Char → Bool} {taken : List Char} (run : Run accepts taken)
    (refused : accepts '\n' = false) : '\n' ∉ taken := by
  intro member
  rw [run.2 _ member] at refused
  cases refused

/-- A problem over several lines begins with one that breaks off. -/
theorem Spells.breaksOff {fields : Fields} {first rest : List Char}
    (spells : Spells fields (first ++ '\n' :: rest)) (oneLine : '\n' ∉ first) :
    BreaksOff first := by
  generalize entire : first ++ '\n' :: rest = entry at spells
  obtain ⟨letters, digits, gap, line, column, message, tail, isWord, isNumber, isGap, isLine,
    isColumn, isTail⟩ := spells
  -- No part but the blanks can hold the line feed; the parts before it are taken off one by one.
  obtain ⟨more, rfl, number⟩ := split_oneLine entire.symm (isWord.oneLine (by decide))
  obtain ⟨more, rfl, blanks⟩ := split_oneLine number (isNumber.oneLine (by decide))
  simp only [List.mem_append, not_or] at oneLine
  by_cases feeds : '\n' ∈ gap
  · obtain ⟨others, rfl⟩ := split_feed blanks oneLine.2.2 feeds
    apply BreaksOff.beforePlace letters digits more isWord isNumber
    intro c member
    exact isGap.2 c (List.mem_append_left others member)
  · obtain ⟨more, rfl, place⟩ := split_oneLine blanks feeds
    obtain ⟨more, rfl, colon⟩ := split_oneLine place (isLine.oneLine (by decide))
    have colon : [':'] ++ (column ++ tail) = more ++ '\n' :: rest := colon
    obtain ⟨more, rfl, last⟩ := split_oneLine colon (by decide)
    obtain ⟨more, rfl, closing⟩ := split_oneLine last (isColumn.oneLine (by decide))
    obtain ⟨margin, ending, isMargin, closes⟩ := isTail
    simp only [List.mem_append, not_or] at oneLine
    by_cases feeds : '\n' ∈ margin
    · obtain ⟨others, rfl⟩ := split_feed closing oneLine.2.2.2.2.2.2 feeds
      apply BreaksOff.beforeMessage letters digits gap line column more isWord isNumber isGap isLine
        isColumn
      intro c member
      exact isMargin.2 c (List.mem_append_left others member)
    · obtain ⟨more, -, message⟩ := split_oneLine closing feeds
      have within := closes.oneLine
      rw [message] at within
      exact absurd (by simp) within

end Legacy

end TemplateLint.Report
