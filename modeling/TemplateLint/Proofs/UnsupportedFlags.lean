import TemplateLint.Proofs.CommandLines
import TemplateLint.Proofs.SettingsLayers
import TemplateLint.Proofs.Verdicts

/-!
# Flags that the tool does not know

An old tool complains about the first flag that it does not know.  The user is told the setting that
the flag comes from and the version that knows it.  When that setting is removed, the flag is gone
from the command line and nothing else is; but a profile may still be guessed from the language, and
the editor may still give the width of its tabulator.
Main exports: `Text.Phrase.find?_of_first`, `Complains`, `Verdict.option?_of_complains`,
`Settings.without`, `Flag.FallsBack`, `Flag.reads_without_iff`, `NamesSettings`,
`Invocation.namesSettings`.
-/

namespace TemplateLint

/-! ## The first place of a phrase -/

namespace Text.Phrase

theorem spells_append {one two : Phrase} {text : List Char} :
    Spells (one ++ two) text ↔
      ∃ first later, text = first ++ later ∧ one.Spells first ∧ two.Spells later := by
  induction one generalizing text with
  | nil => simp [Spells]
  | cons part one inductionHypothesis =>
      rw [List.cons_append, Spells]
      constructor
      · rintro ⟨first, later, rfl, own, behind⟩
        obtain ⟨middle, last, rfl, others, next⟩ := inductionHypothesis.mp behind
        exact ⟨first ++ middle, last, by simp, ⟨first, middle, rfl, own, others⟩, next⟩
      · rintro ⟨-, last, rfl, ⟨first, middle, rfl, own, others⟩, next⟩
        exact ⟨first, middle ++ last, by simp, own,
          inductionHypothesis.mpr ⟨middle, last, rfl, others, next⟩⟩

/-- A definite phrase takes its text and nothing of what follows, unless that begins like what its
last part takes. -/
theorem match?_append {phrase : Phrase} {here after : List Char}
    (definite : phrase.IsDefinite = true) (spells : phrase.Spells here)
    (ends : ∀ part ∈ phrase.getLast?, ∀ c, after.head? = some c → part.takes c = false) :
    phrase.match? (here ++ after) = some after := by
  induction phrase generalizing here with
  | nil =>
      cases spells
      rfl
  | cons part phrase inductionHypothesis =>
      obtain ⟨first, later, rfl, own, behind⟩ := spells
      rw [match?_cons, List.append_assoc]
      cases phrase with
      | nil =>
          cases behind
          rw [List.nil_append, afterPart?_append own (ends part (by simp))]
          rfl
      | cons next phrase =>
          obtain ⟨parted, definite⟩ := Bool.and_eq_true_iff.mp definite
          have taken : afterPart? (first ++ (later ++ after)) part = some (later ++ after) := by
            apply afterPart?_append own
            intro c head
            obtain ⟨begins, rest, rfl, spellsNext, -⟩ := behind
            rw [List.append_assoc] at head
            exact PhrasePart.not_takes_of_endsBefore parted spellsNext head
          rw [taken]
          exact inductionHypothesis definite behind (by simpa using ends)

/-- The text of the phrase stands behind the first ones, and no other does sooner. -/
def FirstAt (phrase : Phrase) (before here after : List Char) : Prop :=
  phrase.Spells here ∧ ∀ sooner there later,
    before ++ here ++ after = sooner ++ there ++ later → phrase.Spells there →
      before.length ≤ sooner.length

/-- The search comes to the first place. -/
theorem find?_of_first {phrase : Phrase} {before here after : List Char}
    (definite : phrase.IsDefinite = true) (first : phrase.FirstAt before here after)
    (ends : ∀ part ∈ phrase.getLast?, ∀ c, after.head? = some c → part.takes c = false) :
    phrase.find? (before ++ here ++ after) = some after := by
  obtain ⟨spells, least⟩ := first
  induction before with
  | nil =>
      have found := match?_append definite spells ends
      rw [List.nil_append]
      generalize here ++ after = text at found ⊢
      cases text with
      | nil => exact found
      | cons c rest => rw [find?, found]
  | cons c before inductionHypothesis =>
      have absent : phrase.match? (c :: (before ++ here ++ after)) = none := by
        rw [Option.eq_none_iff_forall_ne_some]
        intro rest found
        obtain ⟨there, same, spelled⟩ := spells_of_match? found
        exact absurd (least [] there rest same spelled) (by simp)
      rw [List.cons_append, List.cons_append, find?, absent]
      apply inductionHypothesis
      intro sooner there later same spelled
      have bound := least (c :: sooner) there later (by simp [← same]) spelled
      simpa using bound

end Text.Phrase

/-! ## Complaints -/

/-- What the tool says of an option that it does not know. -/
def noSuchOption : Text.Phrase :=
  Text.Phrase.ofWords ["No", "such", "option:"]

/-- The text complains about the option: where it first tells of an unknown one, this one follows,
and a blank or the end of the text behind it. -/
def Complains (option : String) (text : List Char) : Prop :=
  ∃ before here gap after,
    text = before ++ here ++ (gap ++ option.toList ++ after) ∧
      noSuchOption.FirstAt before here (gap ++ option.toList ++ after) ∧
      (∀ c ∈ gap, Text.isBlank c = true) ∧ ∀ c, after.head? = some c → Text.isBlank c = true

/-- The option can be told from the blanks around it. -/
def IsSolid (option : String) : Prop :=
  option.toList ≠ [] ∧ ∀ c ∈ option.toList, Text.isBlank c = false

instance (option : String) : Decidable (IsSolid option) :=
  inferInstanceAs (Decidable (_ ∧ _))

theorem missingOption_definite : Text.Phrase.IsDefinite Verdict.missingOption = true := by decide

namespace Verdict

variable {option : String} {text : List Char}

theorem option?_of_complains (complains : Complains option text) (solid : IsSolid option) :
    option? text = some option := by
  obtain ⟨before, here, gap, after, rfl, ⟨spells, least⟩, blank, ends⟩ := complains
  obtain ⟨filled, firm⟩ := solid
  have first : Text.Phrase.FirstAt missingOption before (here ++ gap) (option.toList ++ after) := by
    constructor
    · exact Text.Phrase.spells_append.mpr ⟨here, gap, rfl, spells, gap, [], by simp, blank, rfl⟩
    · intro sooner there later same spelled
      obtain ⟨words, blanks, rfl, own, -⟩ := Text.Phrase.spells_append.mp spelled
      exact least sooner words (blanks ++ later) (by simpa using same) own
  have found := Text.Phrase.find?_of_first missingOption_definite first (by
    intro part last c head
    obtain rfl : Text.PhrasePart.anyBlanks = part := by simpa [missingOption] using last
    obtain ⟨d, rest, same⟩ := List.exists_cons_of_ne_nil filled
    rw [same] at head firm
    cases head
    exact firm c List.mem_cons_self)
  have taken : (option.toList ++ after).takeWhile (fun c => !Text.isBlank c) = option.toList := by
    rw [List.takeWhile_append_of_pos (by simpa using firm)]
    cases after with
    | nil => simp
    | cons c rest => simp [ends c rfl]
  have whole : before ++ here ++ (gap ++ option.toList ++ after) =
      before ++ (here ++ gap) ++ (option.toList ++ after) := by simp
  rw [whole, option?, found, Option.bind_eq_bind, Option.bind_some]
  simp only [taken, filled, if_false, String.ofList_toList]

/-- A complaint about a known flag is judged as one, unless progress or a missing tool is told of
as well. -/
theorem ofText_of_complains {stderr : String} {flag : Flag}
    (complains : Complains flag.name stderr.toList) (solid : IsSolid flag.name)
    (known : Flag.find? flag.name = some flag) (idle : ¬ progress.Occurs stderr.toList)
    (installed : ¬ missingModule.Occurs stderr.toList) : ofText stderr = .unsupported flag := by
  have spoken : stderr ≠ "" := by
    rintro rfl
    obtain ⟨before, here, gap, after, same, -⟩ := complains
    have nothing : flag.name.toList = [] := by
      simp only [String.toList_empty, List.nil_eq, List.append_eq_nil_iff] at same
      exact same.2.1.2
    exact solid.1 nothing
  have noProgress : progress.occursIn stderr.toList = false := by
    rw [Bool.eq_false_iff, Ne, Text.Phrase.occursIn_iff progress_definite]
    exact idle
  have noModule : missingModule.occursIn stderr.toList = false := by
    rw [Bool.eq_false_iff, Ne, Text.Phrase.occursIn_iff (by decide)]
    exact installed
  unfold ofText
  simp [spoken, noProgress, noModule, option?_of_complains complains solid, known]

example : ofText "Error: No such\n  option:--profile here" =
    .unsupported ⟨.profile, "profile", "--profile", "0.7.0"⟩ := by
  decide +kernel

end Verdict

/-! ## Without a setting -/

/-- The settings without one of them. -/
def Settings.without (settings : Settings) (key : String) : Settings :=
  ⟨Members.erase key settings.values⟩

theorem Settings.get?_without (settings : Settings) (key name : String) :
    (settings.without key).get? name = if name = key then none else settings.get? name :=
  Members.get?_erase name key settings.values

/-- What settings call for depends on three keys at most. -/
theorem FlagKind.Reads.congr {settings other : Settings} {languageId : String}
    {tabSize : Option Nat} {key : String} {kind : FlagKind} {value : Option String}
    (own : other.get? key = settings.get? key)
    (guess : other.get? "guessProfile" = settings.get? "guessProfile")
    (editor : other.get? "useEditorIndentation" = settings.get? "useEditorIndentation")
    (reads : kind.Reads settings languageId tabSize key value) :
    kind.Reads other languageId tabSize key value := by
  cases reads with
  | fixed => exact .fixed
  | switch on => exact .switch (own.trans on)
  | text held filled => exact .text (own.trans held) filled
  | list held same filled => exact .list (own.trans held) same filled
  | number held integral => exact .number (own.trans held) integral
  | template on => exact .template (own.trans on)
  | chosen held filled => exact .chosen (own.trans held) filled
  | guessed unnamed on fits =>
      exact .guessed (fun value held => unnamed value (own.symm.trans held)) (guess.trans on) fits
  | editor on given => exact .editor (editor.trans on) given
  | indentation absent held integral =>
      exact .indentation (fun on => absent (editor.symm.trans on)) (own.trans held) integral

/-- A flag is called for although its setting is absent: its profile is guessed, or the editor gives
its width. -/
inductive Flag.FallsBack (settings : Settings) (languageId : String) (tabSize : Option Nat)
    (flag : Flag) : Option String → Prop where
  | guessed {profile : String} (kind : flag.kind = .profile)
      (on : settings.get? "guessProfile" = some (.bool true))
      (fits : guessProfile languageId = some profile) :
      FallsBack settings languageId tabSize flag (some profile)
  | editor {width : Nat} (kind : flag.kind = .indentation)
      (on : settings.get? "useEditorIndentation" = some (.bool true))
      (given : tabSize = some width) :
      FallsBack settings languageId tabSize flag (some (Text.integerText width))

section without

variable {settings : Settings} {languageId : String} {tabSize : Option Nat} {flag : Flag}
  {key : String} {value : Option String}

theorem Settings.get?_without_self (settings : Settings) (key : String) :
    (settings.without key).get? key = none := by
  rw [get?_without, if_pos rfl]

theorem Settings.get?_without_of_ne (settings : Settings) {key name : String} (other : name ≠ key) :
    (settings.without key).get? name = settings.get? name := by
  rw [get?_without, if_neg other]

/-- Without its setting a flag is called for when it falls back only. -/
theorem Flag.reads_without_iff (named : flag.setting = some key) (optional : flag.kind ≠ .fixed)
    (guess : "guessProfile" ≠ key) (editor : "useEditorIndentation" ≠ key) :
    flag.Reads (settings.without key) languageId tabSize value ↔
      flag.FallsBack settings languageId tabSize value := by
  have absent := settings.get?_without_self key
  have guessKept := settings.get?_without_of_ne guess
  have editorKept := settings.get?_without_of_ne editor
  obtain ⟨kind, setting, name, since⟩ := flag
  cases named
  unfold Reads
  constructor
  · intro reads
    cases reads with
    | fixed => exact absurd rfl optional
    | guessed unnamed on fits => exact .guessed rfl (guessKept.symm.trans on) fits
    | editor on given => exact .editor rfl (editorKept.symm.trans on) given
    | switch held => cases absent.symm.trans held
    | text held => cases absent.symm.trans held
    | list held => cases absent.symm.trans held
    | number held => cases absent.symm.trans held
    | template held => cases absent.symm.trans held
    | chosen held => cases absent.symm.trans held
    | indentation other held => cases absent.symm.trans held
  · intro falls
    cases falls with
    | guessed kind on fits =>
        cases kind
        exact .guessed (fun value held => nomatch absent.symm.trans held) (guessKept.trans on) fits
    | editor kind on given =>
        cases kind
        exact .editor (editorKept.trans on) given

/-- Flags of other settings are called for as before. -/
theorem Flag.reads_without_of_ne (other : flag.setting.getD "" ≠ key)
    (guess : "guessProfile" ≠ key) (editor : "useEditorIndentation" ≠ key) :
    flag.Reads (settings.without key) languageId tabSize value ↔
      flag.Reads settings languageId tabSize value := by
  have own := settings.get?_without_of_ne other
  have guessKept := settings.get?_without_of_ne guess
  have editorKept := settings.get?_without_of_ne editor
  exact ⟨.congr own.symm guessKept.symm editorKept.symm, .congr own guessKept editorKept⟩

end without

/-! ## The tables -/

/-- All flags of the tool. -/
def Flag.all : List Flag :=
  common ++ formatting ++ linting

/-- A flag is found by its setting. -/
theorem Flag.find?_of_setting : ∀ flag ∈ Flag.all, flag.setting ≠ none →
    (Flag.all.find? fun other => other.setting = flag.setting) = some flag := by
  decide +kernel

/-- Names are written with characters that can be seen. -/
theorem Flag.seen_name : ∀ flag ∈ Flag.all,
    flag.name ≠ "" ∧ flag.name.toList.all (Text.inRanges [(0x21, 0x7e)]) = true := by
  decide +kernel

/-- What is so of every flag that comes from a setting. -/
structure Flag.IsOptional (flag : Flag) (key : String) : Prop where
  kind : flag.kind ≠ .fixed
  since : flag.since.isSome = true
  filled : key ≠ ""
  guess : "guessProfile" ≠ key
  editor : "useEditorIndentation" ≠ key

namespace Mode

variable {mode : Mode} {flag other : Flag} {key : String}

theorem mem_all (listed : flag ∈ mode.flags) : flag ∈ Flag.all := by
  unfold Flag.all
  cases mode with
  | format =>
      rcases List.mem_append.mp listed with own | common
      · simp [own]
      · simp [common]
  | lint =>
      rcases List.mem_append.mp listed with own | common
      · simp [own]
      · simp [common]

theorem isSolid_name (listed : flag ∈ mode.flags) : IsSolid flag.name := by
  obtain ⟨filled, seen⟩ := Flag.seen_name flag (mem_all listed)
  refine ⟨fun empty => filled (String.toList_eq_nil_iff.mp empty), fun c member => ?_⟩
  exact Text.inRanges_of_apart (by decide) (List.all_eq_true.mp seen c member)

theorem isOptional (listed : flag ∈ mode.flags) (named : flag.setting = some key) :
    flag.IsOptional key := by
  have all : ∀ flag ∈ Flag.all, flag.setting ≠ none → flag.kind ≠ .fixed ∧
      flag.since.isSome = true ∧ flag.setting ≠ some "" ∧ flag.setting ≠ some "guessProfile" ∧
      flag.setting ≠ some "useEditorIndentation" := by
    decide +kernel
  obtain ⟨kind, since, filled, guess, editor⟩ := all flag (mem_all listed) (by simp [named])
  rw [named] at filled guess editor
  exact ⟨kind, since, fun same => filled (congrArg some same),
    fun same => guess (congrArg some same.symm), fun same => editor (congrArg some same.symm)⟩

theorem exists_mode (known : flag ∈ Flag.all) : ∃ mode : Mode, flag ∈ mode.flags := by
  rcases List.mem_append.mp known with first | linting
  · rcases List.mem_append.mp first with common | formatting
    · exact ⟨.lint, List.mem_append_right _ common⟩
    · exact ⟨.format, List.mem_append_left _ formatting⟩
  · exact ⟨.lint, List.mem_append_left _ linting⟩

/-- No two flags have one name: it is found for one only. -/
theorem eq_of_name (listed : flag ∈ mode.flags) (known : other ∈ Flag.all)
    (same : other.name = flag.name) : other = flag := by
  obtain ⟨mode, too⟩ := exists_mode known
  have found := find?_of_mem too
  rw [same, find?_of_mem listed] at found
  exact (Option.some.inj found).symm

theorem eq_of_setting (listed : flag ∈ mode.flags) (too : other ∈ mode.flags)
    (named : flag.setting = some key) (same : other.setting = some key) : other = flag := by
  have found := Flag.find?_of_setting flag (mem_all listed) (by simp [named])
  have again := Flag.find?_of_setting other (mem_all too) (by simp [same])
  rw [named] at found
  rw [same, found] at again
  exact (Option.some.inj again).symm

end Mode

/-! ## The command line -/

namespace Invocation

/-- The flags that the command line gives. -/
theorem read_arguments (invocation : Invocation) (mode : Mode) :
    ∃ entries, readWords? ((invocation.arguments mode).drop 3) = some entries ∧
      ∀ entry, entry ∈ entries ↔ entry.flag ∈ mode.flags ∧ entry.flag.Reads
        invocation.settings invocation.document.languageId invocation.tabSize entry.value := by
  refine ⟨_, Flag.readWords?_flatMap fun flag listed => Mode.find?_of_mem listed, fun entry => ?_⟩
  simp only [List.mem_filterMap, Flag.given?_eq_some_iff]
  constructor
  · rintro ⟨flag, listed, rfl, reads⟩
    exact ⟨listed, reads⟩
  · rintro ⟨listed, reads⟩
    exact ⟨entry.flag, listed, rfl, reads⟩

/-- The same run without a setting. -/
def without (invocation : Invocation) (key : String) : Invocation :=
  { invocation with settings := invocation.settings.without key }

end Invocation

/-- A complaint about a flag on the command line leads to its setting. -/
structure NamesSettings (invocation : Invocation) (mode : Mode) (entries : List Given) : Prop where
  read : readWords? ((invocation.arguments mode).drop 3) = some entries
  /-- No other flag has the name. -/
  alone : ∀ entry ∈ entries, ∀ flag ∈ Flag.all, flag.name = entry.flag.name → flag = entry.flag
  /-- The failure names the setting of the flag and the version that knows the flag. -/
  told : ∀ entry ∈ entries, ∀ key, entry.flag.setting = some key →
    ∀ python (report : FailureReport) code, report.exitCode = some code →
      Complains entry.flag.name report.stderr.toList →
      ¬ Verdict.progress.Occurs report.stderr.toList →
      ¬ Verdict.missingModule.Occurs report.stderr.toList →
        ∃ since, entry.flag.since = some since ∧ Failure.ofReport? python report =
          some (.unsupportedOption ("djlint." ++ key) since python report)
  /-- Without the setting the flag is there when it falls back only, and the others stay. -/
  removed : ∀ entry ∈ entries, ∀ key, entry.flag.setting = some key →
    ∃ others, readWords? (((invocation.without key).arguments mode).drop 3) = some others ∧
      (∀ value, ⟨entry.flag, value⟩ ∈ others ↔ entry.flag.FallsBack invocation.settings
        invocation.document.languageId invocation.tabSize value) ∧
      ∀ other, other.flag ≠ entry.flag → (other ∈ others ↔ other ∈ entries)

/-- When the tool does not know a flag, the user is told the setting that it comes from; without
that setting it is on the command line only if its profile is guessed or its width is that of the
editor. -/
theorem Invocation.namesSettings (invocation : Invocation) (mode : Mode) :
    ∃ entries, NamesSettings invocation mode entries := by
  obtain ⟨entries, read, listed⟩ := invocation.read_arguments mode
  refine ⟨entries, read, ?alone, ?told, ?removed⟩
  case alone =>
    intro entry member flag known same
    exact Mode.eq_of_name ((listed entry).mp member).1 known same
  case told =>
    intro entry member key named python report code ended complains idle installed
    have own := ((listed entry).mp member).1
    obtain ⟨since, version⟩ := Option.isSome_iff_exists.mp (Mode.isOptional own named).since
    have judged := Verdict.ofText_of_complains complains (Mode.isSolid_name own)
      (Mode.find?_of_mem own) idle installed
    refine ⟨since, version, ?_⟩
    rw [Failure.ofReport?, ended]
    simp only [judged, Flag.displayName, named, version, Option.getD_some]
    rfl
  case removed =>
    intro entry member key named
    have own := ((listed entry).mp member).1
    have optional := Mode.isOptional own named
    obtain ⟨others, again, left⟩ := (invocation.without key).read_arguments mode
    refine ⟨others, again, fun value => ?_, fun other apart => ?_⟩
    · have falls : entry.flag.Reads (invocation.settings.without key)
          invocation.document.languageId invocation.tabSize value ↔ _ :=
        Flag.reads_without_iff named optional.kind optional.guess optional.editor
      rw [left, ← falls]
      exact and_iff_right own
    · rw [left, listed]
      refine and_congr_right fun too => ?_
      have different : other.flag.setting.getD "" ≠ key := by
        intro same
        cases setting : other.flag.setting with
        | none =>
            rw [setting] at same
            exact optional.filled same.symm
        | some name =>
            rw [setting] at same
            exact apart (Mode.eq_of_setting own too named (setting.trans (congrArg some same)))
      exact Flag.reads_without_of_ne different optional.guess optional.editor

/-! ### A profile that is guessed -/

namespace Sample

/-- The profile is named, and it may be guessed. -/
def profiled : Invocation :=
  { document :=
      ⟨⟨"file", none, .steps ["srv", "app", "index.html"], none, none⟩, "django-html", none, ""⟩
    settings := ⟨[("guessProfile", .bool true), ("profile", .text "jinja")]⟩
    folder := none
    tabSize := none }

end Sample

open Sample in
/-- The user is told to remove the setting, and without it the flag is there again. -/
theorem sample_profiled :
    profiled.arguments .lint = ["-m", "djlint", "-", "--lint", "--profile", "jinja"] ∧
      (∃ flag, Verdict.ofText "No such option: --profile" = .unsupported flag ∧
        flag.displayName = "djlint.profile") ∧
      (readWords? (((profiled.without "profile").arguments .lint).drop 3)).map
          (List.map fun entry => (entry.flag.name, entry.value)) =
        some [("--lint", none), ("--profile", some "django")] :=
  ⟨by decide +kernel, ⟨⟨.profile, "profile", "--profile", "0.7.0"⟩, by decide +kernel⟩,
    by decide +kernel⟩

end TemplateLint
