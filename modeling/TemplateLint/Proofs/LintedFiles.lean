import TemplateLint.Proofs.DelimitedReports
import TemplateLint.Proofs.FormattedFiles
import TemplateLint.Proofs.LegacyReports
import TemplateLint.Proofs.Verdicts

/-!
# What linting prints

Linting reads the settings and every source before it starts any program, and then goes from one
source to the next up to the first whose run fails.  For every item of a report whose numbers can be
read one line is printed, with the numbers that the tool gave; a line number counts from zero in
between, and the way there and back never leaves 32 bits.
Main exports: `Report.Item`, `Report.items`, `Report.read_eq`, `Cli.itemLine`, `Cli.Lints`,
`Cli.lintSources_of_lints`, `Cli.LintsFiles`, `Cli.lintsFiles`.
-/

namespace TemplateLint

/-! ## Items of a report -/

namespace Report

/-- The texts that stand in a report for one problem. -/
structure Texts where
  line : List Char
  column : List Char
  code : List Char
  message : List Char
deriving DecidableEq, Repr

/-- The texts of a report, in order. -/
def texts : Layout → String → List Texts
  | .delimited, stdout => (lines stdout).filterMap fun line =>
      (Delimited.fields? line).map fun fields =>
        ⟨fields.line, fields.column, fields.code, fields.message⟩
  | .legacy, stdout => (legacyFields stdout.toList).map fun fields =>
      ⟨fields.line, fields.column, fields.code, fields.message⟩

/-- A problem with the numbers that the tool printed. -/
structure Item where
  line : Nat
  column : Nat
  code : String
  message : String
deriving DecidableEq, Repr

/-- Code and message stand in one line, in whatever layout. -/
theorem oneLine_of_mem_texts {layout : Layout} {stdout : String} {fields : Texts}
    (member : fields ∈ texts layout stdout) :
    '\n' ∉ fields.code ∧ '\n' ∉ fields.message := by
  cases layout with
  | delimited =>
      obtain ⟨line, listed, told⟩ := List.mem_filterMap.mp member
      obtain ⟨own, found, rfl⟩ := Option.map_eq_some_iff.mp told
      exact Delimited.fields?_oneLine found (Legacy.oneLine_of_mem_splitOn listed)
  | legacy =>
      obtain ⟨own, found, rfl⟩ := List.mem_map.mp member
      obtain ⟨entry, spells⟩ := (Legacy.reads_legacyFields stdout.toList).spells found
      exact ⟨spells.code_oneLine, spells.message_oneLine⟩

namespace Item

/-- The item that texts tell, if both numbers can be read. -/
def ofTexts? (texts : Texts) : Option Item := do
  let line ← Problem.number? texts.line
  let column ← Problem.number? texts.column
  some ⟨line, column, String.ofList texts.code, String.ofList texts.message⟩

/-- The problem that an item stands for: its line counts from zero. -/
def problem (item : Item) : Problem :=
  ⟨item.line - 1, item.column, item.code, item.message⟩

/-- Counted from one again, the line is the one that was printed, or the first. -/
theorem line_problem (item : Item) : item.problem.line + 1 = max 1 item.line := by
  have own : item.problem.line = item.line - 1 := rfl
  omega

theorem problem_of_texts (texts : Texts) :
    Problem.ofFields? texts.line texts.column texts.code texts.message =
      (ofTexts? texts).map problem := by
  unfold Problem.ofFields? ofTexts?
  cases Problem.number? texts.line with
  | none => rfl
  | some line =>
      cases Problem.number? texts.column with
      | none => rfl
      | some column => rfl

/-- An item can be printed in one line, with numbers that are not too large. -/
structure IsPlain (item : Item) : Prop where
  line : item.line ≤ Problem.greatestNumber
  column : item.column ≤ Problem.greatestNumber
  code : '\n' ∉ item.code.toList
  message : '\n' ∉ item.message.toList

theorem isPlain_of_ofTexts? {texts : Texts} {item : Item} (told : ofTexts? texts = some item)
    (oneLine : '\n' ∉ texts.code ∧ '\n' ∉ texts.message) : item.IsPlain := by
  have bounded {digits : List Char} {number : Nat}
      (read : Problem.number? digits = some number) : number ≤ Problem.greatestNumber := by
    obtain ⟨-, small⟩ := Option.filter_eq_some_iff.mp read
    exact of_decide_eq_true small
  obtain ⟨line, readLine, told⟩ := Option.bind_eq_some_iff.mp told
  obtain ⟨column, readColumn, told⟩ := Option.bind_eq_some_iff.mp told
  cases told
  exact ⟨bounded readLine, bounded readColumn, by simpa using oneLine.1, by simpa using oneLine.2⟩

end Item

/-- The items of a report, in order. -/
def items (layout : Layout) (stdout : String) : List Item :=
  (texts layout stdout).filterMap Item.ofTexts?

/-- The problems of a report are its items. -/
theorem read_eq (layout : Layout) (stdout : String) :
    Report.read layout stdout = (items layout stdout).map Item.problem := by
  rw [items, List.map_filterMap]
  simp only [← Item.problem_of_texts]
  cases layout with
  | legacy =>
      rw [texts, List.filterMap_map]
      rfl
  | delimited =>
      rw [texts, List.filterMap_filterMap]
      refine List.filterMap_congr fun line _ => ?_
      rw [Delimited.problem?]
      cases Delimited.fields? line with
      | none => rfl
      | some fields => rfl

theorem isPlain_of_mem_items {layout : Layout} {stdout : String} {item : Item}
    (member : item ∈ items layout stdout) : item.IsPlain := by
  obtain ⟨texts, listed, told⟩ := List.mem_filterMap.mp member
  exact Item.isPlain_of_ofTexts? told (oneLine_of_mem_texts listed)

end Report

namespace Cli

/-! ## Lines -/

/-- The line for an item: the name of the source, and then what the tool printed, with the first
line for the line zero. -/
def itemLine (coloured : Bool) (source : Source) (item : Report.Item) : String :=
  Style.apply coloured .bold source.name ++ ":" ++
    String.ofList (Text.decimal (max 1 item.line)) ++ ":" ++
    String.ofList (Text.decimal item.column) ++ ": " ++
    Style.apply coloured .red item.code ++ " " ++ item.message ++ "\n"

/-- The lines for the items of sources, in order. -/
def itemLines (coloured : Bool) (found : List (Source × List Report.Item)) : List String :=
  found.flatMap fun pair => pair.2.map (itemLine coloured pair.1)

theorem problemLine_problem (coloured : Bool) (source : Source) (item : Report.Item) :
    problemLine coloured source item.problem = itemLine coloured source item := by
  rw [problemLine, item.line_problem]
  rfl

/-- A tool that printed the line zero is taken to mean the first. -/
example (document : Document) :
    problemLine false ⟨"a.html", none, document⟩ (Report.Item.problem ⟨0, 4, "H025", "Orphan"⟩) =
      "a.html:1:4: H025 Orphan\n" := by
  rfl

/-! ## From source to source -/

/-- The tool is started on a source, perhaps after a setup, and ends. -/
def Source.Runs (session : Session) (settings : Settings) (source : Source) (world : World)
    (outcome : Outcome) (after : World) : Prop :=
  ∃ interpreter middle,
    session.host.resolve .active (source.invocation settings) world = (.ok interpreter, middle) ∧
      session.host.start ((source.invocation settings).command .lint interpreter.path) middle =
        (.ok outcome, after)

/-- Sources are linted one after the other, up to the first whose run fails: the sources that went
well stand beside the items found in them. -/
inductive Lints (session : Session) (settings : Settings) :
    World → List Source → List (Source × List Report.Item) → Option Failure → World → Prop where
  | done (world : World) : Lints session settings world [] [] none world
  /-- A source that is not to be linted starts nothing, and nothing is found in it. -/
  | passed {world last : World} {source : Source} {rest : List Source}
      {found : List (Source × List Report.Item)} {ending : Option Failure}
      (off : ¬ (settings.lintingEnabled = true ∧
        settings.lints source.document.languageId = true))
      (others : Lints session settings world rest found ending last) :
      Lints session settings world (source :: rest) ((source, []) :: found) ending last
  /-- In any other source the items of the report are found. -/
  | told {world after last : World} {source : Source} {rest : List Source}
      {found : List (Source × List Report.Item)} {ending : Option Failure} {outcome : Outcome}
      (on : settings.lintingEnabled = true ∧ settings.lints source.document.languageId = true)
      (runs : source.Runs session settings world outcome after)
      (answered : session.host.run .active (source.invocation settings) .lint world =
        (.ok (Utf8.decodeLossy outcome.stdout), after))
      (others : Lints session settings after rest found ending last) :
      Lints session settings world (source :: rest)
        ((source, Report.items (Layout.ofSettings settings) (Utf8.decodeLossy outcome.stdout)) ::
          found) ending last
  /-- A run that fails ends it. -/
  | failed {world after : World} {source : Source} {rest : List Source} {failure : Failure}
      (on : settings.lintingEnabled = true ∧ settings.lints source.document.languageId = true)
      (failed : session.host.run .active (source.invocation settings) .lint world =
        (.error failure, after)) :
      Lints session settings world (source :: rest) [] (some failure) after

section linting

variable {session : Session} {settings : Settings} {world after last : World}
  {sources rest : List Source} {found : List (Source × List Report.Item)} {ending : Option Failure}
  {source : Source}

theorem shouldLint_invocation :
    (source.invocation settings).shouldLint = true ↔
      settings.lintingEnabled = true ∧ settings.lints source.document.languageId = true :=
  Bool.and_eq_true_iff

/-- Whatever the sources are, linting them comes to an end. -/
theorem exists_lints (session : Session) (settings : Settings) (world : World)
    (sources : List Source) :
    ∃ found ending last, Lints session settings world sources found ending last := by
  induction sources generalizing world with
  | nil => exact ⟨[], none, world, .done world⟩
  | cons source rest inductionHypothesis =>
      by_cases on : settings.lintingEnabled = true ∧
        settings.lints source.document.languageId = true
      · rcases answered : session.host.run .active (source.invocation settings) .lint world with
          ⟨failure | text, after⟩
        · exact ⟨[], some failure, after, .failed on answered⟩
        · obtain ⟨found, ending, last, others⟩ := inductionHypothesis after
          obtain ⟨interpreter, middle, outcome, resolved, started, concluded⟩ :=
            Host.started_of_run answered
          obtain ⟨rfl, -⟩ := conclude_eq_ok.mp concluded
          exact ⟨_, ending, last, .told on ⟨interpreter, middle, resolved, started⟩ answered others⟩
      · obtain ⟨found, ending, last, others⟩ := inductionHypothesis world
        exact ⟨_, ending, last, .passed on others⟩

/-- Lines are printed for what is found, and nothing else is. -/
theorem lintSources_of_lints (lints : Lints session settings world sources found ending last)
    (progress : Progress) :
    lintSources session settings progress world sources =
      ((⟨progress.stdout ++ String.join (itemLines session.coloured found),
          progress.count + (itemLines session.coloured found).length⟩,
        ending.map Problem.tool), last) := by
  induction lints generalizing progress with
  | done world => simp [lintSources, itemLines]
  | passed off others inductionHypothesis =>
      rw [← shouldLint_invocation] at off
      rw [lintSources, Host.lintProblems, if_neg off]
      simp only [List.map_nil, String.join_nil, String.append_empty, List.length_nil, Nat.add_zero]
      exact inductionHypothesis progress
  | @told world after last source rest found ending outcome on runs answered others
      inductionHypothesis =>
      rw [← shouldLint_invocation] at on
      have lines : ((source.invocation settings).problems (Utf8.decodeLossy outcome.stdout)).map
          (problemLine session.coloured source) =
          (Report.items (Layout.ofSettings settings) (Utf8.decodeLossy outcome.stdout)).map
            (itemLine session.coloured source) := by
        rw [Invocation.problems, Report.read_eq, List.map_map]
        exact List.map_congr_left fun item _ => problemLine_problem session.coloured source item
      have counted := congrArg List.length lines
      rw [List.length_map] at counted
      rw [lintSources, Host.lintProblems, if_pos on, answered]
      simp only [Except.map, lines, counted]
      rw [inductionHypothesis]
      simp only [itemLines, List.flatMap_cons, String.join_append, List.length_append,
        String.append_assoc, Nat.add_assoc]
  | failed on failed =>
      rw [← shouldLint_invocation] at on
      rw [lintSources, Host.lintProblems, if_pos on, failed]
      simp [Except.map, itemLines]

/-- What is found has been read from reports. -/
theorem Lints.plain (lints : Lints session settings world sources found ending last) :
    ∀ pair ∈ found, ∀ item ∈ pair.2, item.IsPlain := by
  induction lints with
  | done world => simp
  | passed off others inductionHypothesis => simpa using inductionHypothesis
  | told on runs answered others inductionHypothesis =>
      intro pair member
      rcases List.mem_cons.mp member with rfl | later
      · exact fun item listed => Report.isPlain_of_mem_items listed
      · exact inductionHypothesis pair later
  | failed on failed => simp

end linting

/-! ## What is printed -/

/-- The name that is shown for what was named on the command line. -/
def shownName (path : String) : String :=
  if path = "-" then "<stdin>" else path

theorem shownName_of_read {disk : Disk} {languageId stdin : Option String} {paths : List String}
    {read : List Source} (made : readSources disk languageId stdin paths = .ok read) :
    read.map Source.name = paths.map shownName := by
  induction paths generalizing stdin read with
  | nil =>
      cases made
      rfl
  | cons path rest inductionHypothesis =>
      unfold readSources at made
      split at made
      · next dash =>
          cases stdin with
          | none => cases made
          | some text =>
              obtain ⟨others, later, made⟩ := of_bind_eq_ok made
              cases made
              simp [inductionHypothesis later, shownName, dash, stdinSource]
      · next named =>
          obtain ⟨source, here, made⟩ := of_bind_eq_ok made
          obtain ⟨others, later, made⟩ := of_bind_eq_ok made
          cases made
          have own : source.name = path := by
            unfold fileSource at here
            simp only at here
            split at here
            · cases here
            · split at here
              · cases here
              · cases here
                rfl
          simp [inductionHypothesis later, shownName, named, own]

/-- The answer says what is found, up to the first failure. -/
structure Linted (session : Session) (found : List (Source × List Report.Item))
    (ending : Option Failure) (answer : Answer) : Prop where
  /-- The lines of the items are printed and nothing else. -/
  printed : answer.stdout = String.join (itemLines session.coloured found)
  /-- The code tells a failure first, then whether a line was printed. -/
  exitCode : answer.exitCode =
    if ending.isSome then 2 else if itemLines session.coloured found = [] then 0 else 1
  /-- No line number leaves 32 bits when it is counted from zero and from one again. -/
  bounded : ∀ pair ∈ found, ∀ item ∈ pair.2,
    item.problem.line + 1 = max 1 item.line ∧ item.problem.line + 1 ≤ 0xffffffff ∧
      item.column ≤ 0xffffffff
  /-- An item takes one line: its code and its message have no line break. -/
  single : ∀ pair ∈ found, ∀ item ∈ pair.2,
    '\n' ∉ item.code.toList ∧ '\n' ∉ item.message.toList

/-- What linting the sources that are named comes to. -/
structure LintsFiles (session : Session) (sources : Sources) (world : World) : Prop where
  /-- When something cannot be read, nothing is started and nothing is printed. -/
  unread : sources.Unreadable session world.disk →
    (lint session sources world).1.stdout = "" ∧
      (lint session sources world).1.exitCode = 2 ∧ (lint session sources world).2 = world
  /-- Otherwise every source is read, and linting them comes to one end, which the answer tells. -/
  read : ¬ sources.Unreadable session world.disk →
    ∃ settings read,
      loadSettings world.disk sources.config sources.python = .ok settings ∧
      List.Forall₂ (fun path source => source.IsFrom world.disk path) sources.paths read ∧
      read.map Source.name = sources.paths.map shownName ∧
      (∃ found ending last, Lints session settings world read found ending last) ∧
      ∀ found ending last, Lints session settings world read found ending last →
        (lint session sources world).2 = last ∧
          Linted session found ending (lint session sources world).1

theorem linted_lintAnswer {session : Session} {settings : Settings} {world last : World}
    {read : List Source} {found : List (Source × List Report.Item)} {ending : Option Failure}
    (lints : Lints session settings world read found ending last) :
    Linted session found ending
      (lintAnswer session
        (⟨String.join (itemLines session.coloured found),
          (itemLines session.coloured found).length⟩, ending.map Problem.tool)) := by
  refine ⟨?printed, ?exitCode, ?bounded, ?single⟩
  case printed =>
    cases ending with
    | some failure => rfl
    | none =>
        simp only [lintAnswer, Option.map_none]
        split <;> rfl
  case exitCode =>
    cases ending with
    | some failure => rfl
    | none =>
        simp only [lintAnswer, Option.map_none, List.length_eq_zero_iff, Option.isSome_none,
          Bool.false_eq_true, if_false]
        split <;> rfl
  case bounded =>
    intro pair member item listed
    have plain := lints.plain pair member item listed
    rw [item.line_problem]
    have least : 1 ≤ Problem.greatestNumber := by decide
    exact ⟨rfl, max_le least plain.line, plain.column⟩
  case single =>
    intro pair member item listed
    have plain := lints.plain pair member item listed
    exact ⟨plain.code, plain.message⟩

/-- Linting prints what the tool reported, source by source up to the first whose run fails. -/
theorem lintsFiles (session : Session) (sources : Sources) (world : World) :
    LintsFiles session sources world := by
  constructor
  case unread =>
    intro unreadable
    obtain ⟨problem, failed⟩ := prepare_of_unreadable session unreadable
    unfold lint
    rw [failed]
    exact ⟨rfl, rfl, rfl⟩
  case read =>
    intro readable
    obtain ⟨settings, read, prepared, loaded, own⟩ := prepare_of_readable session readable
    have names : read.map Source.name = sources.paths.map shownName := by
      obtain ⟨_, -, made⟩ := of_bind_eq_ok prepared
      obtain ⟨_, made, same⟩ := of_bind_eq_ok made
      cases same
      exact shownName_of_read made
    refine ⟨settings, read, loaded, own, names, exists_lints session settings world read, ?_⟩
    intro found ending last lints
    have linted := linted_lintAnswer lints
    have all := lintSources_of_lints lints ⟨"", 0⟩
    simp only [String.empty_append, Nat.zero_add] at all
    unfold lint
    rw [prepared]
    simp only [all]
    exact ⟨trivial, linted⟩

end Cli

end TemplateLint
