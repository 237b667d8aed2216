import TemplateLint.Proofs.CommandLines
import TemplateLint.Proofs.DelimitedReports

/-!
# Where the tool is run

The tool is run in the workspace folder when the word `--configuration` is on its command line, and
in the directory of the document otherwise.  The word is there as a flag when the settings name a
configuration file.  It is also there when it is the value of another flag: when a profile has that
name, or when a list has this text and no other.  Nothing else puts it there.
Main exports: `Mode.mem_words_iff`, `Settings.NamesFile`, `Settings.Poses`,
`Invocation.contains_configuration_iff`, `RunsInPlace`, `Invocation.runsInPlace`.
-/

namespace TemplateLint

/-! ## The words of a command line -/

section words

variable {settings : Settings} {languageId : String} {tabSize : Option Nat}

/-- A word of a flag is its name or its value. -/
theorem Flag.mem_render_iff {flag : Flag} {word : String} :
    word ∈ flag.render settings languageId tabSize ↔
      ∃ value, flag.Reads settings languageId tabSize value ∧
        (word = flag.name ∨ value = some word) := by
  rw [render]
  constructor
  · intro member
    split at member
    · cases member
    · next words given =>
        obtain ⟨value, reads, rfl⟩ := (value?_eq_some_iff flag).mp given
        exact ⟨value, reads, by simpa using member⟩
  · rintro ⟨value, reads, which⟩
    rw [(value?_eq_some_iff flag).mpr ⟨value, reads, rfl⟩]
    simpa using which

theorem Mode.mem_words_iff {mode : Mode} {word : String} :
    word ∈ mode.words settings languageId tabSize ↔
      ∃ flag ∈ mode.flags, ∃ value, flag.Reads settings languageId tabSize value ∧
        (word = flag.name ∨ value = some word) := by
  simp only [words, List.mem_flatMap, Flag.mem_render_iff]

end words

/-! ## What is spelled like the flag -/

namespace Settings

/-- The settings name a configuration file of the tool. -/
def NamesFile (settings : Settings) : Prop :=
  ∃ value, settings.get? "configuration" = some (.text value) ∧ value ≠ ""

/-- The settings have a value for another flag of the mode that is spelled like the flag of a
configuration file. -/
inductive Poses (settings : Settings) (mode : Mode) : Prop where
  | profile (held : settings.get? "profile" = some (.text "--configuration"))
  | list {flag : Flag} {key : String} {items : List Json} (listed : flag ∈ mode.flags)
      (kind : flag.kind = .list) (named : flag.setting = some key)
      (held : settings.get? key = some (.array items))
      (only : (items.filterMap Json.text?).filter (· ≠ "") = ["--configuration"])

end Settings

theorem integerText_ne_configuration (value : Int) :
    Text.integerText value ≠ "--configuration" := by
  have undecimal (number : Nat) : 'c' ∉ Text.decimal number := by
    intro member
    have decimal := Report.isDecimal_of_mem_decimal member
    revert decimal
    decide
  intro same
  have letter : 'c' ∈ (Text.integerText value).toList := by
    rw [same]
    decide
  cases value with
  | ofNat number => exact undecimal number (by simpa [Text.integerText] using letter)
  | negSucc number => exact undecimal (number + 1) (by simpa [Text.integerText] using letter)

/-- Texts that are joined by commas to one without commas are a single one. -/
theorem eq_singleton_of_intercalate {values : List String} {text : String}
    (joined : ",".intercalate values = text) (filled : values ≠ [])
    (whole : ',' ∉ text.toList) : values = [text] := by
  obtain ⟨first, others, rfl⟩ := List.exists_cons_of_ne_nil filled
  cases others with
  | nil =>
      rw [String.intercalate_singleton] at joined
      rw [joined]
  | cons second others =>
      refine absurd ?_ whole
      rw [← joined]
      simp [String.toList_intercalate]

theorem guessProfile_ne_configuration (languageId : String) :
    guessProfile languageId ≠ some "--configuration" := by
  unfold guessProfile
  split <;> decide

namespace Mode

variable {mode : Mode} {flag : Flag}

/-- The flag of a configuration file is known by its name. -/
theorem eq_configuration (listed : flag ∈ mode.flags) (named : flag.name = "--configuration") :
    flag = Flag.configuration := by
  have known := find?_of_mem listed
  rw [named] at known
  exact (Option.some.inj known).symm

theorem configuration_mem (mode : Mode) : Flag.configuration ∈ mode.flags := by
  cases mode <;> simp [flags, Flag.common]

/-- Of the flags that take a text there is one only. -/
theorem eq_configuration_of_text (listed : flag ∈ mode.flags) (kind : flag.kind = .text) :
    flag = Flag.configuration := by
  revert kind
  revert flag
  cases mode <;> decide +kernel

theorem setting_of_profile (listed : flag ∈ mode.flags) (kind : flag.kind = .profile) :
    flag.setting = some "profile" := by
  revert kind
  revert flag
  cases mode <;> decide +kernel

theorem setting_isSome_of_list (listed : flag ∈ mode.flags) (kind : flag.kind = .list) :
    flag.setting.isSome = true := by
  revert kind
  revert flag
  cases mode <;> decide +kernel

theorem kind_ne_template (listed : flag ∈ mode.flags) :
    flag.kind ≠ .template "--configuration" := by
  revert flag
  cases mode <;> decide +kernel

end Mode

namespace Flag

variable {settings : Settings} {languageId : String} {tabSize : Option Nat} {mode : Mode}
  {flag : Flag}

/-- A value that is spelled like the flag of a configuration file is one that poses as it, unless it
names such a file. -/
theorem poses_of_reads (listed : flag ∈ mode.flags)
    (reads : flag.Reads settings languageId tabSize (some "--configuration")) :
    settings.NamesFile ∨ settings.Poses mode := by
  unfold Reads at reads
  cases kind : flag.kind with
  | fixed =>
      rw [kind] at reads
      cases reads
  | switch =>
      rw [kind] at reads
      cases reads
  | text =>
      rw [Mode.eq_configuration_of_text listed kind] at reads
      cases reads with
      | text held filled => exact Or.inl ⟨_, held, filled⟩
  | list =>
      obtain ⟨key, named⟩ := Option.isSome_iff_exists.mp (Mode.setting_isSome_of_list listed kind)
      rw [kind, named] at reads
      generalize word : some "--configuration" = value at reads
      cases reads with
      | list held own filled =>
          have only := eq_singleton_of_intercalate (Option.some.inj word).symm filled (by decide)
          exact Or.inr (.list listed kind named held (own.symm.trans only))
  | number =>
      rw [kind] at reads
      generalize word : some "--configuration" = value at reads
      cases reads with
      | number held integral =>
          exact absurd (Option.some.inj word).symm (integerText_ne_configuration _)
  | template words =>
      rw [kind] at reads
      cases reads with
      | template on => exact absurd kind (Mode.kind_ne_template listed)
  | profile =>
      rw [kind, Mode.setting_of_profile listed kind] at reads
      cases reads with
      | chosen held filled => exact Or.inr (.profile held)
      | guessed unnamed on fits => exact absurd fits (guessProfile_ne_configuration languageId)
  | indentation =>
      rw [kind] at reads
      generalize word : some "--configuration" = value at reads
      cases reads with
      | editor on given =>
          exact absurd (Option.some.inj word).symm (integerText_ne_configuration _)
      | indentation other held integral =>
          exact absurd (Option.some.inj word).symm (integerText_ne_configuration _)

end Flag

namespace Invocation

/-- The word is on the command line when the settings name a configuration file, and when another
value poses as the flag. -/
theorem contains_configuration_iff (invocation : Invocation) (mode : Mode) :
    (invocation.arguments mode).contains Flag.configuration.name = true ↔
      invocation.settings.NamesFile ∨ invocation.settings.Poses mode := by
  have behind : Flag.configuration.name ∈ invocation.arguments mode ↔
      "--configuration" ∈ mode.words invocation.settings invocation.document.languageId
        invocation.tabSize := by
    simp [arguments, Flag.configuration]
  rw [List.contains_iff_mem, behind, Mode.mem_words_iff]
  constructor
  · rintro ⟨flag, listed, value, reads, named | valued⟩
    · rw [Mode.eq_configuration listed named.symm] at reads
      cases reads with
      | text held filled => exact Or.inl ⟨_, held, filled⟩
    · exact Flag.poses_of_reads listed (valued ▸ reads)
  · rintro (⟨value, held, filled⟩ | poses)
    · exact ⟨Flag.configuration, mode.configuration_mem, some value, .text held filled, Or.inl rfl⟩
    · cases poses with
      | profile held =>
          refine ⟨⟨.profile, "profile", "--profile", "0.7.0"⟩, ?_, _, .chosen held (by decide),
            Or.inr rfl⟩
          cases mode <;> simp [Mode.flags, Flag.common]
      | @list flag key items listed kind named held only =>
          refine ⟨flag, listed, some "--configuration", ?_, Or.inr rfl⟩
          unfold Flag.Reads
          rw [kind, named]
          have joined : ",".intercalate ["--configuration"] = "--configuration" := by decide
          exact joined ▸ .list held only.symm (by simp)

end Invocation

/-! ## The directory -/

/-- Where the tool is run for an invocation. -/
structure RunsInPlace (invocation : Invocation) (mode : Mode) : Prop where
  /-- With a configuration file it is run in the folder, and with a value that poses as one too. -/
  folder : ∀ top, invocation.folder = some top →
    invocation.settings.NamesFile ∨ invocation.settings.Poses mode →
      workingDirectory (invocation.arguments mode) invocation.document invocation.folder = some top
  /-- In every other case it is run in the directory of the document. -/
  elsewhere : invocation.folder = none ∨
      ¬ (invocation.settings.NamesFile ∨ invocation.settings.Poses mode) →
    workingDirectory (invocation.arguments mode) invocation.document invocation.folder =
      invocation.document.directory?
  /-- Without a local path there is no such directory. -/
  unlocated : invocation.document.localPath? = none → invocation.document.directory? = none

/-- The tool is run in the folder when the settings name a configuration file, or have a value that
is spelled like the flag for one, and where the document is otherwise. -/
theorem Invocation.runsInPlace (invocation : Invocation) (mode : Mode) :
    RunsInPlace invocation mode := by
  constructor
  case folder =>
    intro top given there
    rw [workingDirectory, if_pos ⟨(invocation.contains_configuration_iff mode).mpr there, by
      rw [given]; rfl⟩, given]
  case elsewhere =>
    intro missing
    rw [workingDirectory, if_neg]
    rintro ⟨contains, given⟩
    rcases missing with none | absent
    · rw [none] at given
      cases given
    · exact absent ((invocation.contains_configuration_iff mode).mp contains)
  case unlocated =>
    intro nowhere
    rw [Document.directory?, nowhere]
    rfl

/-! ### A profile that is named like the flag -/

namespace Sample

/-- The profile is the only setting. -/
def posing : Invocation :=
  { document :=
      ⟨⟨"file", none, .steps ["srv", "app", "web", "a.html"], none, none⟩, "html", none, ""⟩
    settings := ⟨[("profile", .text "--configuration")]⟩
    folder := some (.ofString "/srv/app")
    tabSize := none }

end Sample

open Sample in
/-- No configuration file is named, and the tool is run in the folder all the same. -/
theorem sample_posing :
    ¬ posing.settings.NamesFile ∧ posing.folder = some (.ofString "/srv/app") ∧
      workingDirectory (posing.arguments .lint) posing.document posing.folder =
        some (.ofString "/srv/app") ∧
      posing.document.directory? = some (.ofString "/srv/app/web") ∧
      some (Path.ofString "/srv/app") ≠ posing.document.directory? := by
  refine ⟨?_, by decide +kernel⟩
  rintro ⟨value, held, -⟩
  cases held

end TemplateLint
