import Mathlib.Data.List.Basic
import TemplateLint.Proofs.SettingsLayers
import TemplateLint.Server.Job

/-!
# What a choice of the user does to settings

A choice that is kept in a store changes one key of the settings of a job.  Nothing that a job does
reads that key: which interpreter is taken, what the command line says, and how the output is read
all come from other keys.
Main exports: `Settings.Akin`, `Store.apply_akin`, `Settings.Akin.merged`, `Job.Akin`,
`Job.Akin.command_eq`, `Job.Akin.choose_eq`, `Job.Akin.diagnostics_eq`.
-/

namespace TemplateLint

/-! ## Settings -/

/-- Settings that agree on everything but whether it is shown that the tool is missing. -/
def Settings.Akin (settings other : Settings) : Prop :=
  ∀ key, key ≠ "showInstallError" → other.get? key = settings.get? key

namespace Settings.Akin

variable {settings other : Settings} {key : String}

theorem refl (settings : Settings) : Akin settings settings :=
  fun _ _ => rfl

theorem symm (akin : settings.Akin other) : other.Akin settings :=
  fun key apart => (akin key apart).symm

/-- Choice after choice is still a choice. -/
theorem trans {last : Settings} (one : settings.Akin other) (two : other.Akin last) :
    settings.Akin last :=
  fun key apart => (two key apart).trans (one key apart)

/-- The same layer comes over both. -/
theorem merged (akin : settings.Akin other) (layer : Settings) :
    (settings.merged layer).Akin (other.merged layer) := by
  intro key apart
  have own := akin key apart
  unfold Settings.get? at own
  simp only [Settings.get?, Settings.merged, Members.get?_beneathlay, own]

/-- A switch other than that of the popup is the same in both. -/
theorem isOn_eq (akin : settings.Akin other) (apart : key ≠ "showInstallError") :
    other.isOn key = settings.isOn key := by
  rw [isOn, isOn, akin key apart]

theorem text?_eq (akin : settings.Akin other) (apart : key ≠ "showInstallError") :
    other.text? key = settings.text? key := by
  rw [text?, text?, akin key apart]

theorem number?_eq (akin : settings.Akin other) (apart : key ≠ "showInstallError") :
    other.number? key = settings.number? key := by
  rw [number?, number?, akin key apart]

theorem texts_eq (akin : settings.Akin other) (apart : key ≠ "showInstallError") :
    other.texts key = settings.texts key := by
  rw [texts, texts, akin key apart]

/-- No flag takes its value from the switch of the popup. -/
theorem value?_eq (akin : settings.Akin other) {flag : Flag}
    (apart : flag.setting.getD "" ≠ "showInstallError") (languageId : String)
    (tabSize : Option Nat) :
    flag.value? other languageId tabSize = flag.value? settings languageId tabSize := by
  unfold Flag.value?
  dsimp only
  rw [akin.isOn_eq apart, akin.text?_eq apart, akin.number?_eq apart, akin.texts_eq apart,
    akin.isOn_eq (by decide : "guessProfile" ≠ "showInstallError"),
    akin.isOn_eq (by decide : "useEditorIndentation" ≠ "showInstallError")]

/-- The command line says the same. -/
theorem words_eq (akin : settings.Akin other) (mode : Mode) (languageId : String)
    (tabSize : Option Nat) :
    mode.words other languageId tabSize = mode.words settings languageId tabSize := by
  have apart : ∀ flag ∈ mode.flags, flag.setting.getD "" ≠ "showInstallError" := by
    cases mode with
    | format => decide +kernel
    | lint => decide +kernel
  refine List.flatMap_congr fun flag member => ?_
  rw [Flag.render, Flag.render, akin.value?_eq (apart flag member)]

/-- The same interpreter is chosen. -/
theorem choose_eq (akin : settings.Akin other) (lookup : Lookup) :
    choose other lookup = choose settings lookup := by
  unfold choose Choice.withoutEnvironment Settings.pythonPath?
  rw [akin.isOn_eq (by decide : "useVenv" ≠ "showInstallError"),
    akin.isOn_eq (by decide : "useIsolatedEnvironment" ≠ "showInstallError"),
    akin.text?_eq (by decide : "pythonPath" ≠ "showInstallError")]

end Settings.Akin

/-- A choice changes nothing but whether it is shown that the tool is missing. -/
theorem Store.apply_akin (store : Store) (folder : Option Path) (settings : Settings) :
    settings.Akin (store.apply folder settings) := by
  intro key apart
  unfold Store.apply
  split
  · rw [Settings.get?_set, if_neg apart]
  · rfl

/-! ## Jobs -/

/-- The jobs differ in settings alone, and those are akin. -/
def Job.Akin (job other : Job) : Prop :=
  ∃ settings, job.settings.Akin settings ∧ other = { job with settings }

namespace Job.Akin

variable {job other : Job}

theorem refl (job : Job) : Akin job job :=
  ⟨job.settings, .refl _, rfl⟩

/-- Akin jobs that begin to wait for the same stay akin. -/
theorem with_wait (akin : job.Akin other) (wait : Wait) :
    Akin { job with wait } { other with wait } := by
  obtain ⟨settings, same, rfl⟩ := akin
  exact ⟨settings, same, rfl⟩

theorem with_superseded (akin : job.Akin other) :
    Akin { job with superseded := true } { other with superseded := true } := by
  obtain ⟨settings, same, rfl⟩ := akin
  exact ⟨settings, same, rfl⟩

theorem document_eq (akin : job.Akin other) : other.document = job.document := by
  obtain ⟨settings, -, rfl⟩ := akin
  rfl

theorem errand_eq (akin : job.Akin other) : other.errand = job.errand := by
  obtain ⟨settings, -, rfl⟩ := akin
  rfl

theorem origin_eq (akin : job.Akin other) : other.origin = job.origin := by
  obtain ⟨settings, -, rfl⟩ := akin
  rfl

theorem superseded_eq (akin : job.Akin other) : other.superseded = job.superseded := by
  obtain ⟨settings, -, rfl⟩ := akin
  rfl

/-- Whether a job is wanted at all does not depend on what is hidden. -/
theorem isWanted_eq (akin : job.Akin other) : other.isWanted = job.isWanted := by
  obtain ⟨settings, same, rfl⟩ := akin
  unfold isWanted Invocation.shouldLint Invocation.shouldFormat invocation
  simp only [Settings.formats, Settings.lints, Settings.lintingEnabled,
    same.texts_eq (by decide : "formatLanguages" ≠ "showInstallError"),
    same.texts_eq (by decide : "lintLanguages" ≠ "showInstallError"),
    same.isOn_eq (by decide : "enableLinting" ≠ "showInstallError")]

/-- Akin jobs start the same program with the same words. -/
theorem command_eq (akin : job.Akin other) (python : Path) :
    other.command python = job.command python := by
  obtain ⟨settings, same, rfl⟩ := akin
  unfold command invocation Invocation.command Invocation.arguments
  simp only [same.words_eq]

/-- The same output is read as the same diagnostics. -/
theorem diagnostics_eq (akin : job.Akin other) (output : Option String) :
    other.diagnostics output = job.diagnostics output := by
  obtain ⟨settings, same, rfl⟩ := akin
  cases output with
  | none => rfl
  | some stdout =>
      unfold diagnostics Invocation.diagnostics Invocation.problems invocation
      simp only [Layout.ofSettings, Severity.ofSettings,
        same.isOn_eq (by decide : "useNewLinterOutputParser" ≠ "showInstallError"),
        same.text?_eq (by decide : "diagnosticSeverity" ≠ "showInstallError")]

/-- The same output makes the same edits. -/
theorem edits_eq (akin : job.Akin other) (output : Option String) :
    other.edits output = job.edits output := by
  obtain ⟨settings, same, rfl⟩ := akin
  cases output with
  | none => rfl
  | some stdout => rfl

end Job.Akin

/-- The findings differ in the settings of the job alone. -/
structure Finding.Akin (finding other : Finding) : Prop where
  job : finding.job.Akin other.job
  output : other.output = finding.output

/-- The same is still to be told of jobs that differ in their settings alone. -/
structure Telling.Akin (telling other : Telling) : Prop where
  job : telling.job.Akin other.job
  rest : other.rest = telling.rest

theorem Telling.Akin.refl (telling : Telling) : telling.Akin telling :=
  ⟨.refl telling.job, rfl⟩

end TemplateLint
