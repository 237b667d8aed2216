import TemplateLint.Proofs.LegacyEntries
import TemplateLint.Report.Delimited

/-!
# Reading legacy reports by lines

A problem is read where it begins, from as many lines as spell one between them.  Only a line that
ends among the blanks of a problem goes on in the next one: a report is read line by line as far as
no line does, and each line that does changes what some report after it gives.
Main exports: `Legacy.Reads`, `Legacy.Reads.deterministic`, `Legacy.reads_legacyFields`,
`Legacy.readsLines`.
-/

namespace TemplateLint.Report

namespace Legacy

/-! ## Lines of a text -/

/-- The lines as one text. -/
def joined (lines : List (List Char)) : List Char :=
  ['\n'].intercalate lines

/-- The lines behind another one. -/
def following (lines : List (List Char)) : List Char :=
  lines.flatMap fun line => '\n' :: line

theorem joined_cons (line : List Char) (lines : List (List Char)) :
    joined (line :: lines) = line ++ following lines := by
  induction lines generalizing line with
  | nil => simp [joined, following]
  | cons next lines inductionHypothesis =>
      have behind := inductionHypothesis next
      rw [joined] at behind
      rw [joined, List.intercalate_cons_cons, behind]
      simp [following]

theorem joined_append {taken : List (List Char)} (filled : taken ≠ [])
    (others : List (List Char)) : joined (taken ++ others) = joined taken ++ following others := by
  obtain ⟨line, lines, rfl⟩ := List.exists_cons_of_ne_nil filled
  rw [List.cons_append, joined_cons, joined_cons, following, List.flatMap_append]
  exact (List.append_assoc ..).symm

theorem joined_splitOn (chars : List Char) : joined (chars.splitOn '\n') = chars :=
  List.intercalate_splitOn '\n'

theorem endsLine_following (lines : List (List Char)) : endsLine (following lines) = true := by
  cases lines with
  | nil => rfl
  | cons line lines => simp [following, endsLine]

/-- Fewer lines make a shorter text. -/
theorem following_shorter {more : List (List Char)} (filled : more ≠ [])
    (lines : List (List Char)) :
    (following lines).length < (following (more ++ lines)).length := by
  obtain ⟨line, others, rfl⟩ := List.exists_cons_of_ne_nil filled
  simp [following]
  omega

/-- The lines of what follows a line. -/
def linesAfter : List Char → List (List Char)
  | [] => []
  | _ :: rest => rest.splitOn '\n'

theorem splitOn_append {chars left : List Char} (ends : endsLine left = true) :
    (chars ++ left).splitOn '\n' = chars.splitOn '\n' ++ linesAfter left := by
  cases left with
  | nil => simp [linesAfter]
  | cons c rest =>
      rw [eq_of_endsLine ends, List.splitOn_append_cons_self, linesAfter]

theorem following_linesAfter {left : List Char} (ends : endsLine left = true) :
    following (linesAfter left) = left := by
  cases left with
  | nil => rfl
  | cons c rest =>
      have whole := joined_splitOn rest
      obtain ⟨line, lines, same⟩ := List.exists_cons_of_ne_nil (List.splitOn_ne_nil '\n' rest)
      rw [same, joined_cons] at whole
      rw [eq_of_endsLine ends, linesAfter, same, ← whole]
      simp [following]

/-- The line that a text begins with, and the text behind it. -/
theorem nextLine?_append {line left : List Char} (oneLine : '\n' ∉ line)
    (ends : endsLine left = true) : nextLine? (line ++ left) = left.tail? := by
  rw [nextLine?, takeWhile_line oneLine ends, List.drop_left]
  cases left with
  | nil => rfl
  | cons c rest => rfl

theorem linesAfter_of_nextLine? {left rest : List Char} (next : left.tail? = some rest) :
    linesAfter left = rest.splitOn '\n' := by
  cases left with
  | nil => cases next
  | cons c others =>
      cases next
      rfl

/-- Text with no character to step over is at its end. -/
theorem eq_nil_of_tail? {left : List Char} (last : left.tail? = none) : left = [] := by
  cases left with
  | nil => rfl
  | cons c rest => cases last

/-! ## Problems of lines -/

/-- The lines spell a problem between them. -/
def IsEntry (lines : List (List Char)) : Prop :=
  ∃ fields, Spells fields (joined lines)

/-- What lines report: at each line that begins a problem, the one that most lines spell; a line
that begins none is passed over. -/
inductive Reads : List (List Char) → List Fields → Prop where
  | nothing : Reads [] []
  | skipped (line : List Char) (rest : List (List Char)) (found : List Fields)
      (unreadable : ∀ taken, taken <+: line :: rest → ¬ IsEntry taken)
      (more : Reads rest found) : Reads (line :: rest) found
  | entry (lines taken rest : List (List Char)) (fields : Fields) (found : List Fields)
      (whole : lines = taken ++ rest) (spells : Spells fields (joined taken))
      (longest : ∀ other, other <+: lines → IsEntry other → other.length ≤ taken.length)
      (more : Reads rest found) : Reads lines (fields :: found)

theorem Spells.ne_nil {fields : Fields} {entry : List Char} (spells : Spells fields entry) :
    entry ≠ [] := by
  obtain ⟨letters, digits, gap, line, column, message, tail, isWord, -, -, -, -, -⟩ := spells
  simp [isWord.1]

theorem IsEntry.filled {taken : List (List Char)} (isEntry : IsEntry taken) : taken ≠ [] := by
  obtain ⟨fields, spells⟩ := isEntry
  intro empty
  rw [empty] at spells
  exact spells.ne_nil rfl

/-- Lines report one list of problems only. -/
theorem Reads.deterministic {lines : List (List Char)} {first second : List Fields}
    (one : Reads lines first) (two : Reads lines second) : first = second := by
  induction one generalizing second with
  | nothing =>
      cases two with
      | nothing => rfl
      | entry _ taken rest fields found whole spells longest more =>
          have empty := (List.append_eq_nil_iff.mp whole.symm).1
          exact absurd empty (IsEntry.filled ⟨fields, spells⟩)
  | skipped line rest found unreadable more inductionHypothesis =>
      cases two with
      | skipped _ _ _ _ others => exact inductionHypothesis others
      | entry _ taken others fields _ whole spells _ _ =>
          exact absurd ⟨fields, spells⟩ (unreadable taken ⟨others, whole.symm⟩)
  | entry lines taken rest fields found whole spells longest more inductionHypothesis =>
      cases two with
      | nothing =>
          have empty := (List.append_eq_nil_iff.mp whole.symm).1
          exact absurd empty (IsEntry.filled ⟨fields, spells⟩)
      | skipped _ _ _ unreadable _ =>
          exact absurd ⟨fields, spells⟩ (unreadable taken ⟨rest, whole.symm⟩)
      | entry _ other others fieldsToo foundToo again spellsToo longestToo moreToo =>
          have fewer := longest other ⟨others, again.symm⟩ ⟨fieldsToo, spellsToo⟩
          have more := longestToo taken ⟨rest, whole.symm⟩ ⟨fields, spells⟩
          rw [whole] at again
          obtain ⟨rfl, rfl⟩ := List.append_inj again (Nat.le_antisymm more fewer)
          rw [spells.unique spellsToo, inductionHypothesis moreToo]

/-- Where lines spell a problem, the scan finds one that goes no less far. -/
theorem scan?_of_isEntry {taken : List (List Char)} (isEntry : IsEntry taken)
    (others : List (List Char)) :
    ∃ fields left, scan? (joined (taken ++ others)) = some (fields, left) ∧
      left.length ≤ (following others).length := by
  have filled := isEntry.filled
  obtain ⟨fields, spells⟩ := isEntry
  obtain ⟨found, left, same, bound, -⟩ := scan?_longest spells (endsLine_following others)
  rw [joined_append filled]
  exact ⟨found, left, same, bound⟩

/-- Nothing is found where no lines spell a problem. -/
theorem unreadable_of_scan? {chars : List Char} (missing : scan? chars = none)
    (taken : List (List Char)) (front : taken <+: chars.splitOn '\n') : ¬ IsEntry taken := by
  intro isEntry
  obtain ⟨others, whole⟩ := front
  obtain ⟨fields, left, found, -⟩ := scan?_of_isEntry isEntry others
  rw [whole, joined_splitOn, missing] at found
  cases found

/-- What is found is spelled by the most lines. -/
theorem longest_of_scan? {chars entry left : List Char} {fields : Fields}
    (found : scan? chars = some (fields, left)) (whole : chars = entry ++ left)
    (ends : endsLine left = true) (other : List (List Char))
    (front : other <+: chars.splitOn '\n') (isEntry : IsEntry other) :
    other.length ≤ (entry.splitOn '\n').length := by
  obtain ⟨others, same⟩ := front
  obtain ⟨again, rest, foundToo, bound⟩ := scan?_of_isEntry isEntry others
  rw [same, joined_splitOn, found] at foundToo
  cases foundToo
  rw [whole, splitOn_append ends] at same
  by_contra more
  rcases List.append_eq_append_iff.mp same with ⟨between, left', -⟩ | ⟨between, left', right⟩
  · rw [left', List.length_append] at more
    omega
  · have filled : between ≠ [] := by
      intro none
      rw [left', none, List.append_nil] at more
      exact more (Nat.le_refl _)
    have shorter := following_shorter filled others
    rw [← right, following_linesAfter ends] at shorter
    omega

/-- The problems found in a text are those that its lines report. -/
theorem reads_legacyFields (chars : List Char) :
    Reads (chars.splitOn '\n') (legacyFields chars) := by
  fun_induction legacyFields chars with
  | case1 chars fields left found rest next inductionHypothesis =>
      obtain ⟨entry, whole, spells, ends⟩ := scan?_sound found
      have behind := nextLine?_append List.not_mem_nil ends
      rw [List.nil_append, next] at behind
      apply Reads.entry _ (entry.splitOn '\n') (rest.splitOn '\n')
      · rw [whole, splitOn_append ends, linesAfter_of_nextLine? behind.symm]
      · rw [joined_splitOn]
        exact spells
      · exact longest_of_scan? found whole ends
      · exact inductionHypothesis
  | case2 chars fields left found next =>
      obtain ⟨entry, whole, spells, ends⟩ := scan?_sound found
      have behind := nextLine?_append List.not_mem_nil ends
      rw [List.nil_append, next] at behind
      have empty : left = [] := eq_nil_of_tail? behind.symm
      apply Reads.entry _ (entry.splitOn '\n') []
      · rw [whole, empty, List.append_nil, List.append_nil]
      · rw [joined_splitOn]
        exact spells
      · exact longest_of_scan? found whole ends
      · exact Reads.nothing
  | case3 chars missing rest next inductionHypothesis =>
      obtain ⟨line, left, rfl, oneLine, ends⟩ := exists_line chars
      have behind := nextLine?_append oneLine ends
      rw [next] at behind
      have unreadable := unreadable_of_scan? missing
      rw [splitOn_append ends, List.splitOn_eq_singleton oneLine,
        linesAfter_of_nextLine? behind.symm] at unreadable ⊢
      exact Reads.skipped line _ _ unreadable inductionHypothesis
  | case4 chars missing next =>
      obtain ⟨line, left, rfl, oneLine, ends⟩ := exists_line chars
      have behind := nextLine?_append oneLine ends
      rw [next] at behind
      have empty : left = [] := eq_nil_of_tail? behind.symm
      have unreadable := unreadable_of_scan? missing
      rw [empty, List.append_nil, List.splitOn_eq_singleton oneLine] at unreadable ⊢
      exact Reads.skipped line [] [] unreadable Reads.nothing

/-- What the lines of a text report is what is found in it. -/
theorem Reads.found_eq {chars : List Char} {found : List Fields}
    (reads : Reads (chars.splitOn '\n') found) : found = legacyFields chars :=
  reads.deterministic (reads_legacyFields chars)

/-! ## Line ends between problems -/

theorem oneLine_of_mem_splitOn {chars line : List Char} (member : line ∈ chars.splitOn '\n') :
    '\n' ∉ line := by
  induction length : chars.length using Nat.strong_induction_on generalizing chars with
  | _ bound inductionHypothesis =>
      obtain ⟨first, left, rfl, oneLine, ends⟩ := exists_line chars
      rw [splitOn_append ends, List.splitOn_eq_singleton oneLine] at member
      rcases List.mem_append.mp member with here | behind
      · rw [List.mem_singleton.mp here]
        exact oneLine
      · cases left with
        | nil => cases behind
        | cons c rest =>
            apply inductionHypothesis rest.length _ behind rfl
            rw [← length, List.length_append, List.length_cons]
            omega

/-- Only a line that breaks off begins a problem of several lines. -/
theorem IsEntry.single {line : List Char} {more : List (List Char)} (oneLine : '\n' ∉ line)
    (whole : ¬ BreaksOff line) (isEntry : IsEntry (line :: more)) : more = [] := by
  obtain ⟨fields, spells⟩ := isEntry
  cases more with
  | nil => rfl
  | cons next others =>
      rw [joined_cons, following, List.flatMap_cons, List.cons_append] at spells
      exact absurd (spells.breaksOff oneLine) whole

/-- Behind a line that does not break off, a report goes on as if it began there. -/
theorem legacyFields_cut {line : List Char} (oneLine : '\n' ∉ line) (unbroken : ¬ BreaksOff line)
    (rest : List Char) :
    legacyFields (line ++ '\n' :: rest) = legacyFields line ++ legacyFields rest := by
  have reads := reads_legacyFields (line ++ '\n' :: rest)
  have alone : line.splitOn '\n' = [line] := List.splitOn_eq_singleton oneLine
  rw [List.splitOn_append_cons_self_of_not_mem oneLine] at reads
  generalize legacyFields (line ++ '\n' :: rest) = found at reads
  cases reads with
  | skipped _ _ _ unreadable more =>
      have silent : Reads (line.splitOn '\n') [] := by
        rw [alone]
        apply Reads.skipped line [] [] _ Reads.nothing
        intro taken front
        apply unreadable taken
        exact front.trans ⟨rest.splitOn '\n', rfl⟩
      rw [← silent.found_eq, List.nil_append]
      exact more.found_eq
  | entry _ taken others fields found whole spells longest more =>
      obtain ⟨first, lines, rfl⟩ :=
        List.exists_cons_of_ne_nil (IsEntry.filled ⟨fields, spells⟩)
      rw [List.cons_append] at whole
      obtain ⟨rfl, same⟩ := List.cons.inj whole
      have single := IsEntry.single oneLine unbroken ⟨fields, spells⟩
      rw [single] at spells
      rw [single, List.nil_append] at same
      have one : Reads (line.splitOn '\n') [fields] := by
        rw [alone]
        apply Reads.entry [line] [line] [] fields [] rfl spells _ Reads.nothing
        intro other front isEntry
        exact front.length_le
      rw [← same] at more
      rw [← one.found_eq, ← more.found_eq]
      rfl

/-- The problem that fields denote, unless a number is none. -/
def Fields.problem? (fields : Fields) : Option Problem :=
  Problem.ofFields? fields.line fields.column fields.code fields.message

theorem legacy_eq (stdout : String) :
    legacy stdout = (legacyFields stdout.toList).filterMap Fields.problem? :=
  rfl

/-- A report reads on at the end of the line as it would have begun there. -/
def Cuts (line : List Char) : Prop :=
  ∀ rest : List Char, legacy (String.ofList (line ++ '\n' :: rest)) =
    legacy (String.ofList line) ++ legacy (String.ofList rest)

theorem cuts_of_unbroken {line : List Char} (oneLine : '\n' ∉ line)
    (unbroken : ¬ BreaksOff line) : Cuts line := by
  intro rest
  rw [legacy_eq, legacy_eq, legacy_eq, String.toList_ofList, String.toList_ofList,
    String.toList_ofList, legacyFields_cut oneLine unbroken, List.filterMap_append]

/-- A text that spells a problem reports that one. -/
theorem Spells.legacyFields_eq {fields : Fields} {chars : List Char}
    (spells : Spells fields chars) : legacyFields chars = [fields] := by
  have reads : Reads (chars.splitOn '\n') [fields] := by
    apply Reads.entry _ (chars.splitOn '\n') [] fields [] (List.append_nil _).symm _ _ Reads.nothing
    · rw [joined_splitOn]
      exact spells
    · intro other front isEntry
      exact front.length_le
  exact reads.found_eq.symm

theorem Spells.legacy_eq {fields : Fields} {chars : List Char} (spells : Spells fields chars) :
    legacy (String.ofList chars) = fields.problem?.toList := by
  rw [Legacy.legacy_eq, String.toList_ofList, spells.legacyFields_eq]
  cases found : fields.problem? <;> simp [found]

theorem Run.single {accepts : Char → Bool} {c : Char} (accepted : accepts c = true) :
    Run accepts [c] := by
  refine ⟨by simp, ?_⟩
  intro d member
  rw [List.mem_singleton.mp member]
  exact accepted

theorem feed_blanks {blanks : List Char} (all : ∀ c ∈ blanks, Text.isBlank c = true) :
    Run Text.isBlank (blanks ++ ['\n']) := by
  refine ⟨by simp, ?_⟩
  intro c member
  rcases List.mem_append.mp member with early | late
  · exact all c early
  · rw [List.mem_singleton.mp late]
    decide

/-- A message that begins with no blank, in one line that ends with it. -/
theorem Closes.of_line {message : List Char} (filled : message ≠ [])
    (starts : ∀ c, message.head? = some c → Text.isBlank c = false) (oneLine : '\n' ∉ message)
    (last : message.getLast? ≠ some '\r') : Closes message [] :=
  Closes.text [] filled starts oneLine (Or.inr ⟨rfl, last⟩)

/-- A place and a message in the next line complete a line that has only a code. -/
theorem spells_place {letters digits blanks : List Char} (isWord : Run isCodeLetter letters)
    (isNumber : Run Text.isDecimal digits) (areBlanks : ∀ c ∈ blanks, Text.isBlank c = true)
    {message : List Char} (closes : Closes message []) :
    Spells ⟨letters ++ digits, ['1'], ['1'], message⟩
      (letters ++ (digits ++ blanks) ++ '\n' :: ("1:1 ".toList ++ message)) := by
  have spells := Spells.intro letters digits (blanks ++ ['\n']) ['1'] ['1'] message
    ([' '] ++ (message ++ [])) isWord isNumber (feed_blanks areBlanks) (Run.single (by decide))
    (Run.single (by decide)) (Tail.intro [' '] [] (Run.single (by decide)) closes)
  simpa using spells

/-- A message in the next line completes a line that has a code and a place. -/
theorem spells_message {letters digits gap line column blanks : List Char}
    (isWord : Run isCodeLetter letters) (isNumber : Run Text.isDecimal digits)
    (isGap : Run Text.isBlank gap) (isLine : Run Text.isDecimal line)
    (isColumn : Run Text.isDecimal column) (areBlanks : ∀ c ∈ blanks, Text.isBlank c = true)
    {message : List Char} (closes : Closes message []) :
    Spells ⟨letters ++ digits, line, column, message⟩
      (letters ++ (digits ++ (gap ++ (line ++ ':' :: (column ++ blanks)))) ++ '\n' :: message) := by
  have spells := Spells.intro letters digits gap line column message
    (blanks ++ ['\n'] ++ (message ++ [])) isWord isNumber isGap isLine isColumn
    (Tail.intro (blanks ++ ['\n']) [] (feed_blanks areBlanks) closes)
  simpa using spells

theorem Fields.message_of_problem? {fields : Fields} {problem : Problem}
    (found : fields.problem? = some problem) : problem.message = String.ofList fields.message := by
  unfold problem? Problem.ofFields? at found
  simp only [Option.bind_eq_bind, Option.bind_eq_some_iff] at found
  obtain ⟨line, -, column, -, same⟩ := found
  cases same
  rfl

theorem firstPlace_problem? (code message : List Char) :
    Fields.problem? ⟨code, ['1'], ['1'], message⟩ =
      some ⟨0, 1, String.ofList code, String.ofList message⟩ := by
  have one : Problem.number? ['1'] = some 1 := by decide
  rw [Fields.problem?, Problem.ofFields?, one]
  rfl

/-- A line that breaks off changes what some report after it gives. -/
theorem unbroken_of_cuts {line : List Char} (cuts : Cuts line) : ¬ BreaksOff line := by
  intro breaks
  cases breaks with
  | beforePlace letters digits blanks isWord isNumber areBlanks =>
      have visible (c : Char) (shown : Text.isBlank c = false) (inLine : c ≠ '\n')
          (last : c ≠ '\r') : Closes [c] [] := by
        apply Closes.of_line
        · simp
        · simpa using shown
        · simpa using Ne.symm inLine
        · simpa using last
      -- The line is completed by either text, and neither text reports anything of its own.
      have first := spells_place isWord isNumber areBlanks
        (visible 'x' (by decide) (by decide) (by decide))
      have second := spells_place isWord isNumber areBlanks
        (visible 'y' (by decide) (by decide) (by decide))
      have silent : legacy (String.ofList ("1:1 ".toList ++ ['x'])) =
          legacy (String.ofList ("1:1 ".toList ++ ['y'])) := by decide +kernel
      have same : legacy (String.ofList (letters ++ (digits ++ blanks) ++
            '\n' :: ("1:1 ".toList ++ ['x']))) =
          legacy (String.ofList (letters ++ (digits ++ blanks) ++
            '\n' :: ("1:1 ".toList ++ ['y']))) := by
        rw [cuts, cuts, silent]
      rw [first.legacy_eq, second.legacy_eq, firstPlace_problem?, firstPlace_problem?] at same
      have other : String.ofList ['x'] ≠ String.ofList ['y'] := by decide
      exact other (congrArg Problem.message (List.cons.inj same).1)
  | beforeMessage letters digits gap line column blanks isWord isNumber isGap isLine isColumn
      areBlanks =>
      have closes : Closes "T1 1:1 x".toList [] := by
        apply Closes.of_line
        · decide
        · intro c head
          cases head
          decide
        · decide
        · decide
      have whole := spells_message isWord isNumber isGap isLine isColumn areBlanks closes
      have alone : legacy (String.ofList "T1 1:1 x".toList) = [⟨0, 1, "T1", "x"⟩] := by
        decide +kernel
      have cut := cuts "T1 1:1 x".toList
      rw [whole.legacy_eq, alone] at cut
      have member : ⟨0, 1, "T1", "x"⟩ ∈ (Fields.problem?
          ⟨letters ++ digits, line, column, "T1 1:1 x".toList⟩).toList := by
        rw [cut]
        exact List.mem_concat_self
      have message := Fields.message_of_problem? (Option.mem_toList.mp member)
      have other : "x" ≠ String.ofList "T1 1:1 x".toList := by decide
      exact other message

/-! ## Whole reports -/

theorem Spells.message_oneLine {fields : Fields} {entry : List Char}
    (spells : Spells fields entry) : '\n' ∉ fields.message := by
  obtain ⟨letters, digits, gap, line, column, message, tail, -, -, -, -, -, isTail⟩ := spells
  obtain ⟨margin, ending, -, closes⟩ := isTail
  intro member
  exact closes.oneLine (List.mem_append_left ending member)

/-- The code is letters and digits. -/
theorem Spells.code_oneLine {fields : Fields} {entry : List Char}
    (spells : Spells fields entry) : '\n' ∉ fields.code := by
  obtain ⟨letters, digits, gap, line, column, message, tail, isWord, isNumber, -⟩ := spells
  intro member
  rcases List.mem_append.mp member with letter | digit
  · exact absurd (isWord.2 _ letter) (by decide)
  · exact absurd (isNumber.2 _ digit) (by decide +kernel)

/-- Whatever is found is spelled somewhere. -/
theorem Reads.spells {lines : List (List Char)} {found : List Fields}
    (reads : Reads lines found) {fields : Fields} (member : fields ∈ found) :
    ∃ entry, Spells fields entry := by
  induction reads with
  | nothing => cases member
  | skipped line rest found unreadable more inductionHypothesis =>
      exact inductionHypothesis member
  | entry lines taken rest first found whole spells longest more inductionHypothesis =>
      rcases List.mem_cons.mp member with rfl | later
      · exact ⟨_, spells⟩
      · exact inductionHypothesis later

theorem Reads.message_oneLine {lines : List (List Char)} {found : List Fields}
    (reads : Reads lines found) {fields : Fields} (member : fields ∈ found) :
    '\n' ∉ fields.message := by
  obtain ⟨entry, spells⟩ := reads.spells member
  exact spells.message_oneLine

theorem legacy_cons {line : List Char} (oneLine : '\n' ∉ line) (unbroken : ¬ BreaksOff line)
    (rest : List (List Char)) :
    legacy (String.ofList (joined (line :: rest))) =
      legacy (String.ofList line) ++ legacy (String.ofList (joined rest)) := by
  cases rest with
  | nil =>
      have empty : legacy (String.ofList (joined [])) = [] := by decide +kernel
      rw [joined_cons, following, List.flatMap_nil, List.append_nil, empty, List.append_nil]
  | cons next others =>
      have behind := cuts_of_unbroken oneLine unbroken (joined (next :: others))
      rw [joined_cons next] at behind ⊢
      rw [joined_cons]
      exact behind

/-- Lines that do not break off are read one by one. -/
theorem legacy_append {before after : List (List Char)} (oneLine : ∀ line ∈ before, '\n' ∉ line)
    (unbroken : ∀ line ∈ before, ¬ BreaksOff line) :
    legacy (String.ofList (joined (before ++ after))) =
      (before.flatMap fun line => legacy (String.ofList line)) ++
        legacy (String.ofList (joined after)) := by
  induction before with
  | nil => rfl
  | cons line rest inductionHypothesis =>
      rw [List.forall_mem_cons] at oneLine unbroken
      rw [List.cons_append, legacy_cons oneLine.1 unbroken.1, List.flatMap_cons, List.append_assoc,
        inductionHypothesis oneLine.2 unbroken.2]

/-- How a report is read: by its lines, but for those that break off. -/
structure ReadsLines (stdout : String) : Prop where
  /-- What the lines report is determined, and is what is read. -/
  entries : ∃ found, (∀ other, Reads (lines stdout) other ↔ other = found) ∧
    legacy stdout = found.filterMap Fields.problem?
  /-- A message is in one line. -/
  messages : ∀ problem ∈ legacy stdout, '\n' ∉ problem.message.toList
  /-- The lines that leave what follows as it is are those that do not break off. -/
  cuts : ∀ line ∈ lines stdout, (Cuts line ↔ ¬ BreaksOff line)
  /-- Up to the first line that breaks off, the lines are read one by one. -/
  byLines : ∀ before after, lines stdout = before ++ after →
    (∀ line ∈ before, ¬ BreaksOff line) →
    legacy stdout = (before.flatMap fun line => legacy (String.ofList line)) ++
      legacy (String.ofList (joined after))

theorem readsLines (stdout : String) : ReadsLines stdout := by
  have reads : Reads (lines stdout) (legacyFields stdout.toList) :=
    reads_legacyFields stdout.toList
  constructor
  · refine ⟨legacyFields stdout.toList, ?_, rfl⟩
    intro other
    constructor
    · intro readsOther
      exact readsOther.deterministic reads
    · intro same
      rw [same]
      exact reads
  · intro problem member
    obtain ⟨fields, found, denotes⟩ := List.mem_filterMap.mp member
    rw [Fields.message_of_problem? denotes, String.toList_ofList]
    exact reads.message_oneLine found
  · intro line member
    constructor
    · exact unbroken_of_cuts
    · exact cuts_of_unbroken (oneLine_of_mem_splitOn member)
  · intro before after split unbroken
    have whole : joined (before ++ after) = stdout.toList := by
      rw [← split]
      exact joined_splitOn stdout.toList
    rw [← legacy_append _ unbroken, whole, String.ofList_toList]
    intro line member
    have inAll : line ∈ lines stdout := by
      rw [split]
      exact List.mem_append_left after member
    exact oneLine_of_mem_splitOn inAll

/-- A line with a code and a place takes the problem in the next line for its message. -/
theorem swallows_nextLine :
    legacy "H006 1:0\nT003 12:4 Endblock should have name.\n" =
        [⟨0, 0, "H006", "T003 12:4 Endblock should have name."⟩] ∧
      ((lines "H006 1:0\nT003 12:4 Endblock should have name.\n").flatMap fun line =>
        legacy (String.ofList line)) = [⟨11, 4, "T003", "Endblock should have name."⟩] := by
  decide +kernel

end Legacy

end TemplateLint.Report
