import Mathlib.Data.List.Basic
import TemplateLint.Invocation

/-!
# The command line says what the settings say

The words that the tool is given can be read back from left to right: a word names a flag, and the
word after a flag that takes a value is that value, whatever it looks like.  What is read are flags
of the mode in the order of their tables, each once at most, and exactly those that the settings
call for, with the values that the settings have for them.
Main exports: `FlagKind.takesValue`, `Given`, `readWords?`, `FlagKind.Reads`, `Flag.Reads`,
`Flag.value?_eq_some_iff`, `Flag.readWords?_flatMap`, `SaysSettings`, `Invocation.saysSettings`.
-/

namespace TemplateLint

/-! ## Reading words -/

/-- The flag is followed by a value. -/
def FlagKind.takesValue : FlagKind → Bool
  | fixed => false
  | switch => false
  | _ => true

/-- A flag on a command line, with its value if it takes one. -/
structure Given where
  flag : Flag
  value : Option String
deriving DecidableEq, Repr

/-- The flags that words give, read from left to right: none when a word that should name a flag
does not, or when the last value is missing. -/
def readWords? : List String → Option (List Given)
  | [] => some []
  | [name] =>
      match Flag.find? name with
      | none => none
      | some flag => if flag.kind.takesValue then none else some [⟨flag, none⟩]
  | name :: value :: rest =>
      match Flag.find? name with
      | none => none
      | some flag =>
          if flag.kind.takesValue then (readWords? rest).map (⟨flag, some value⟩ :: ·)
          else (readWords? (value :: rest)).map (⟨flag, none⟩ :: ·)

theorem readWords?_alone {flag : Flag} (known : Flag.find? flag.name = some flag)
    (alone : flag.kind.takesValue = false) (rest : List String) :
    readWords? (flag.name :: rest) = (readWords? rest).map (⟨flag, none⟩ :: ·) := by
  cases rest with
  | nil => simp [readWords?, known, alone]
  | cons word rest => simp [readWords?, known, alone]

theorem readWords?_value {flag : Flag} (known : Flag.find? flag.name = some flag)
    (takes : flag.kind.takesValue = true) (value : String) (rest : List String) :
    readWords? (flag.name :: value :: rest) =
      (readWords? rest).map (⟨flag, some value⟩ :: ·) := by
  simp [readWords?, known, takes]

/-! ## What settings call for -/

section settings

variable (settings : Settings) (languageId : String) (tabSize : Option Nat)

/-- The settings have something under a key for a flag of some kind: it is called for, with this
value if it takes one. -/
inductive FlagKind.Reads (key : String) : FlagKind → Option String → Prop where
  | fixed : Reads key .fixed none
  | switch (on : settings.get? key = some (.bool true)) : Reads key .switch none
  | text {value : String} (held : settings.get? key = some (.text value)) (filled : value ≠ "") :
      Reads key .text (some value)
  | list {items : List Json} {values : List String} (held : settings.get? key = some (.array items))
      (own : values = (items.filterMap Json.text?).filter (· ≠ "")) (filled : values ≠ []) :
      Reads key .list (some (",".intercalate values))
  | number {value : Number} {whole : Int} (held : settings.get? key = some (.number value))
      (integral : value.toSigned? = some whole) :
      Reads key .number (some (Text.integerText whole))
  | template {words : String} (on : settings.get? key = some (.bool true)) :
      Reads key (.template words) (some words)
  /-- A profile that is named counts. -/
  | chosen {value : String} (held : settings.get? key = some (.text value)) (filled : value ≠ "") :
      Reads key .profile (some value)
  /-- Otherwise it may be guessed. -/
  | guessed {profile : String}
      (unnamed : ∀ value, settings.get? key = some (.text value) → value = "")
      (on : settings.get? "guessProfile" = some (.bool true))
      (fits : guessProfile languageId = some profile) : Reads key .profile (some profile)
  /-- The width in the editor counts, when there is one and it is asked for. -/
  | editor {width : Nat} (on : settings.get? "useEditorIndentation" = some (.bool true))
      (given : tabSize = some width) : Reads key .indentation (some (Text.integerText width))
  | indentation {value : Number} {whole : Int}
      (other : settings.get? "useEditorIndentation" = some (.bool true) → tabSize = none)
      (held : settings.get? key = some (.number value))
      (integral : value.toSigned? = some whole) :
      Reads key .indentation (some (Text.integerText whole))

/-- The settings call for the flag, with this value if it takes one. -/
def Flag.Reads (flag : Flag) (value : Option String) : Prop :=
  flag.kind.Reads settings languageId tabSize (flag.setting.getD "") value

end settings

namespace Settings

variable {settings : Settings} {key : String}

theorem isOn_iff : settings.isOn key = true ↔ settings.get? key = some (.bool true) := by
  unfold isOn
  split
  · next held => simp [held]
  · next other => simpa using fun held => other held

theorem text?_eq_some_iff {value : String} :
    settings.text? key = some value ↔ settings.get? key = some (.text value) ∧ value ≠ "" := by
  unfold text?
  split
  · next text held =>
      rw [held]
      split
      · next empty => simp [empty]
      · next filled =>
          simp only [Option.some.injEq, Json.text.injEq]
          exact ⟨fun same => ⟨same, same ▸ filled⟩, And.left⟩
  · next other => simpa using fun held => absurd held (other value)

theorem text?_eq_none_iff :
    settings.text? key = none ↔ ∀ value, settings.get? key = some (.text value) → value = "" := by
  rw [Option.eq_none_iff_forall_ne_some]
  simp only [ne_eq, text?_eq_some_iff, not_and, Classical.not_not]

theorem number?_eq_some_iff {whole : Int} :
    settings.number? key = some whole ↔
      ∃ value, settings.get? key = some (.number value) ∧ value.toSigned? = some whole := by
  unfold number?
  split
  · next value held => simp [held]
  · next other => simpa using fun value held => absurd held (other value)

theorem texts_eq_iff {values : List String} (filled : values ≠ []) :
    settings.texts key = values ↔ ∃ items, settings.get? key = some (.array items) ∧
      values = (items.filterMap Json.text?).filter (· ≠ "") := by
  unfold texts
  split
  · next items held => simp [held, eq_comm]
  · next other =>
      refine ⟨fun empty => absurd empty.symm filled, ?_⟩
      rintro ⟨items, held, -⟩
      exact absurd held (other items)

end Settings

namespace Flag

variable {settings : Settings} {languageId : String} {tabSize : Option Nat}

/-- A flag is given exactly when the settings call for it, and then with their value. -/
theorem value?_eq_some_iff (flag : Flag) {words : List String} :
    flag.value? settings languageId tabSize = some words ↔
      ∃ value, flag.Reads settings languageId tabSize value ∧ words = value.toList := by
  obtain ⟨kind, setting, name, since⟩ := flag
  unfold value? Reads
  cases kind with
  | fixed =>
      constructor
      · rintro ⟨⟩
        exact ⟨none, .fixed, rfl⟩
      · rintro ⟨value, ⟨⟩, rfl⟩
        rfl
  | switch =>
      simp only [Option.ite_none_right_eq_some, Settings.isOn_iff]
      constructor
      · rintro ⟨on, ⟨⟩⟩
        exact ⟨none, .switch on, rfl⟩
      · rintro ⟨value, reads, rfl⟩
        cases reads with
        | switch on => exact ⟨on, rfl⟩
  | text =>
      simp only [Option.map_eq_some_iff, Settings.text?_eq_some_iff]
      constructor
      · rintro ⟨value, ⟨held, filled⟩, rfl⟩
        exact ⟨some value, .text held filled, rfl⟩
      · rintro ⟨value, reads, rfl⟩
        cases reads with
        | text held filled => exact ⟨_, ⟨held, filled⟩, rfl⟩
  | list =>
      dsimp only
      cases listed : settings.texts (setting.getD "") with
      | nil =>
          constructor
          · rintro ⟨⟩
          · rintro ⟨value, reads, rfl⟩
            cases reads with
            | list held own filled =>
                rw [(Settings.texts_eq_iff filled).mpr ⟨_, held, own⟩] at listed
                contradiction
      | cons first others =>
          have filled : first :: others ≠ [] := List.cons_ne_nil first others
          constructor
          · rintro ⟨⟩
            obtain ⟨items, held, own⟩ := (Settings.texts_eq_iff filled).mp listed
            exact ⟨_, .list held own filled, rfl⟩
          · rintro ⟨value, reads, rfl⟩
            cases reads with
            | list held own filled =>
                rw [(Settings.texts_eq_iff filled).mpr ⟨_, held, own⟩] at listed
                rw [listed]
                rfl
  | number =>
      simp only [Option.map_eq_some_iff, Settings.number?_eq_some_iff]
      constructor
      · rintro ⟨whole, ⟨value, held, integral⟩, rfl⟩
        exact ⟨_, .number held integral, rfl⟩
      · rintro ⟨value, reads, rfl⟩
        cases reads with
        | number held integral => exact ⟨_, ⟨_, held, integral⟩, rfl⟩
  | template own =>
      simp only [Option.ite_none_right_eq_some, Settings.isOn_iff]
      constructor
      · rintro ⟨on, ⟨⟩⟩
        exact ⟨_, .template on, rfl⟩
      · rintro ⟨value, reads, rfl⟩
        cases reads with
        | template on => exact ⟨on, rfl⟩
  | profile =>
      simp only [Option.map_eq_some_iff, Option.or_eq_some_iff, Settings.text?_eq_some_iff,
        Settings.text?_eq_none_iff, Option.ite_none_right_eq_some, Settings.isOn_iff]
      constructor
      · rintro ⟨value, ⟨held, filled⟩ | ⟨unnamed, on, fits⟩, rfl⟩
        · exact ⟨_, .chosen held filled, rfl⟩
        · exact ⟨_, .guessed unnamed on fits, rfl⟩
      · rintro ⟨value, reads, rfl⟩
        cases reads with
        | chosen held filled => exact ⟨_, Or.inl ⟨held, filled⟩, rfl⟩
        | guessed unnamed on fits => exact ⟨_, Or.inr ⟨unnamed, on, fits⟩, rfl⟩
  | indentation =>
      simp only [Option.map_eq_some_iff, Option.or_eq_some_iff, Option.map_eq_none_iff,
        Option.ite_none_right_eq_some, ite_eq_right_iff, Settings.isOn_iff,
        Settings.number?_eq_some_iff]
      constructor
      · rintro ⟨size, ⟨width, ⟨on, given⟩, rfl⟩ | ⟨other, value, held, integral⟩, rfl⟩
        · exact ⟨_, .editor on given, rfl⟩
        · exact ⟨_, .indentation other held integral, rfl⟩
      · rintro ⟨value, reads, rfl⟩
        cases reads with
        | editor on given => exact ⟨_, Or.inl ⟨_, ⟨on, given⟩, rfl⟩, rfl⟩
        | indentation other held integral => exact ⟨_, Or.inr ⟨other, _, held, integral⟩, rfl⟩

/-- Settings that call for the same flags with the same values are written as the same words. -/
theorem render_congr {flag : Flag} {other : Settings} {otherId : String} {otherSize : Option Nat}
    (agree : ∀ value, flag.Reads other otherId otherSize value ↔
      flag.Reads settings languageId tabSize value) :
    flag.render other otherId otherSize = flag.render settings languageId tabSize := by
  have same : flag.value? other otherId otherSize = flag.value? settings languageId tabSize := by
    apply Option.ext
    intro words
    simp only [value?_eq_some_iff, agree]
  rw [render, render, same]

/-- The flag takes a value when it is called for with one. -/
theorem takesValue_of_reads {flag : Flag} {value : Option String}
    (reads : flag.Reads settings languageId tabSize value) :
    flag.kind.takesValue = value.isSome := by
  obtain ⟨kind, setting, name, since⟩ := flag
  cases reads <;> rfl

/-! ## Reading the words of the tables -/

/-- What the words of the flag are read as, when there are any. -/
def given? (settings : Settings) (languageId : String) (tabSize : Option Nat) (flag : Flag) :
    Option Given :=
  (flag.value? settings languageId tabSize).map fun words => ⟨flag, words.head?⟩

theorem given?_eq_some_iff {flag : Flag} {entry : Given} :
    flag.given? settings languageId tabSize = some entry ↔
      entry.flag = flag ∧ flag.Reads settings languageId tabSize entry.value := by
  simp only [given?, Option.map_eq_some_iff, value?_eq_some_iff]
  constructor
  · rintro ⟨words, ⟨value, reads, rfl⟩, rfl⟩
    have own : value.toList.head? = value := by cases value <;> rfl
    rw [own]
    exact ⟨rfl, reads⟩
  · rintro ⟨rfl, reads⟩
    refine ⟨_, ⟨_, reads, rfl⟩, ?_⟩
    have own : entry.value.toList.head? = entry.value := by cases entry.value <;> rfl
    rw [own]

/-- Flags are given in the order of their table. -/
theorem map_flag_sublist (flags : List Flag) :
    ((flags.filterMap (given? settings languageId tabSize)).map Given.flag).Sublist flags := by
  induction flags with
  | nil => exact .slnil
  | cons flag flags inductionHypothesis =>
      rw [List.filterMap_cons]
      cases found : flag.given? settings languageId tabSize with
      | none => exact .cons _ inductionHypothesis
      | some entry =>
          obtain ⟨own, -⟩ := given?_eq_some_iff.mp found
          rw [List.map_cons, own]
          exact .cons_cons _ inductionHypothesis

/-- The words of a flag are read as what the settings call for, and the reading goes on after
them. -/
theorem readWords?_render {flag : Flag} (known : find? flag.name = some flag)
    (rest : List String) :
    readWords? (flag.render settings languageId tabSize ++ rest) =
      (readWords? rest).map ((flag.given? settings languageId tabSize).toList ++ ·) := by
  rw [render, given?]
  cases found : flag.value? settings languageId tabSize with
  | none => simp
  | some words =>
      obtain ⟨value, reads, rfl⟩ := (value?_eq_some_iff flag).mp found
      have takes := takesValue_of_reads reads
      cases value with
      | none => exact readWords?_alone known takes rest
      | some value => exact readWords?_value known takes value rest

theorem readWords?_flatMap {flags : List Flag}
    (known : ∀ flag ∈ flags, find? flag.name = some flag) :
    readWords? (flags.flatMap fun flag => flag.render settings languageId tabSize) =
      some (flags.filterMap (given? settings languageId tabSize)) := by
  induction flags with
  | nil => rfl
  | cons flag flags inductionHypothesis =>
      have own := known flag List.mem_cons_self
      have others := inductionHypothesis fun other listed => known other (.tail _ listed)
      rw [List.flatMap_cons, readWords?_render own, others, Option.map_some, List.filterMap_cons]
      cases flag.given? settings languageId tabSize with
      | none => rfl
      | some entry => rfl

end Flag

namespace Mode

/-- A flag is found by its name. -/
theorem find?_of_mem {mode : Mode} {flag : Flag} (listed : flag ∈ mode.flags) :
    Flag.find? flag.name = some flag := by
  have all : ∀ mode ∈ [Mode.format, Mode.lint], ∀ flag ∈ mode.flags,
      Flag.find? flag.name = some flag := by decide +kernel
  cases mode with
  | format => exact all .format (by simp) flag listed
  | lint => exact all .lint (by simp) flag listed

theorem flags_nodup (mode : Mode) : mode.flags.Nodup := by
  cases mode with
  | format => decide +kernel
  | lint => decide +kernel

end Mode

/-! ## The command line -/

/-- Entries are what the command line of a run says, and what the settings call for. -/
structure SaysSettings (invocation : Invocation) (mode : Mode) (entries : List Given) : Prop where
  /-- The interpreter is told to run the tool on the standard input. -/
  tool : (invocation.arguments mode).take 3 = ["-m", "djlint", "-"]
  /-- The words after that are read as the entries. -/
  read : readWords? ((invocation.arguments mode).drop 3) = some entries
  /-- The flags are in the order of the tables of the mode. -/
  ordered : (entries.map Given.flag).Sublist mode.flags
  /-- No flag is given twice. -/
  distinct : (entries.map Given.flag).Nodup
  /-- The entries are the flags that the settings call for, with their values. -/
  exact : ∀ flag value, ⟨flag, value⟩ ∈ entries ↔ flag ∈ mode.flags ∧
    flag.Reads invocation.settings invocation.document.languageId invocation.tabSize value
  /-- A flag that is always there is there. -/
  always : ∀ flag ∈ mode.flags, flag.kind = .fixed → ⟨flag, none⟩ ∈ entries
  /-- A run whose settings call for the same flags has the same command line. -/
  determined : ∀ other : Invocation,
    (∀ flag ∈ mode.flags, ∀ value,
      flag.Reads other.settings other.document.languageId other.tabSize value ↔
        flag.Reads invocation.settings invocation.document.languageId invocation.tabSize value) →
      other.arguments mode = invocation.arguments mode

namespace Invocation

theorem drop_arguments (invocation : Invocation) (mode : Mode) :
    (invocation.arguments mode).drop 3 =
      mode.words invocation.settings invocation.document.languageId invocation.tabSize :=
  rfl

/-- The command line says what the settings say, and nothing else. -/
theorem saysSettings (invocation : Invocation) (mode : Mode) :
    ∃ entries, SaysSettings invocation mode entries := by
  refine ⟨mode.flags.filterMap (Flag.given? invocation.settings invocation.document.languageId
    invocation.tabSize), rfl, ?read, ?ordered, ?distinct, ?exact, ?always, ?determined⟩
  case read =>
    rw [drop_arguments]
    exact Flag.readWords?_flatMap fun flag listed => Mode.find?_of_mem listed
  case ordered => exact Flag.map_flag_sublist mode.flags
  case distinct => exact (Flag.map_flag_sublist mode.flags).nodup mode.flags_nodup
  case exact =>
    intro flag value
    simp only [List.mem_filterMap, Flag.given?_eq_some_iff]
    constructor
    · rintro ⟨listed, member, rfl, reads⟩
      exact ⟨member, reads⟩
    · rintro ⟨member, reads⟩
      exact ⟨flag, member, rfl, reads⟩
  case always =>
    intro flag member fixed
    refine List.mem_filterMap.mpr ⟨flag, member, Flag.given?_eq_some_iff.mpr ⟨rfl, ?_⟩⟩
    rw [Flag.Reads, fixed]
    exact .fixed
  case determined =>
    intro other agree
    have same : ∀ flag ∈ mode.flags,
        flag.render other.settings other.document.languageId other.tabSize =
          flag.render invocation.settings invocation.document.languageId invocation.tabSize :=
      fun flag member => Flag.render_congr (agree flag member)
    rw [arguments, arguments, Mode.words, Mode.words, List.flatMap_congr same]

end Invocation

namespace Sample

/-- Values that look like flags. -/
def misleading : Settings :=
  ⟨[("configuration", .text "--profile"), ("customBlocks", .array [.text "--lint", .text "-"]),
    ("profile", .text "--ignore-case"), ("requirePragma", .text "true"), ("ignoreCase", .bool true),
    ("ignore", .array [.text ""])]⟩

/-- They are read as values all the same. -/
example : (readWords? (Mode.lint.words misleading "html" none)).map
      (List.map fun entry => (entry.flag.name, entry.value)) =
    some [("--lint", none), ("--configuration", some "--profile"),
      ("--profile", some "--ignore-case"), ("--custom-blocks", some "--lint,-"),
      ("--ignore-case", none)] := by
  decide +kernel

end Sample

end TemplateLint
