import TemplateLint.Disk
import TemplateLint.Settings.Basic
import TemplateLint.Toml.Reader

/-!
# Settings files

A settings file is a TOML document.  One is looked for in a directory and those above it.
Main exports: `SettingsError`, `Settings.load`, `Settings.discover?`.
-/

namespace TemplateLint

/-- Why there are no settings. -/
inductive SettingsError where
  | notAnObject (value : Json)
  | unreadable (file : Path) (reason : IoError)
  | malformed (file : Path)

/-- The wording of an error; of a malformed file only where it is, not what is wrong with it. -/
def SettingsError.message : SettingsError → String
  | .notAnObject value => "Settings must be an object, got: " ++ value.compact
  | .unreadable file reason =>
      "Failed to read settings file " ++ file.display ++ ": " ++ reason.message
  | .malformed file => "Failed to parse settings file " ++ file.display ++ ": "

namespace Settings

/-- The names of settings files, the first one preferred. -/
def fileNames : List String := ["djlint-ls.toml", ".djlint-ls.toml"]

def ofJson (value : Json) : Except SettingsError Settings :=
  match ofJson? value with
  | some settings => .ok settings
  | none => .error (.notAnObject value)

def load (disk : Disk) (file : Path) : Except SettingsError Settings :=
  match disk.readText file with
  | .error reason => .error (.unreadable file reason)
  | .ok text =>
      match Toml.read? text with
      | some members => .ok (ofMembers members)
      | none => .error (.malformed file)

/-- The places where a settings file is looked for: in a directory, then in those above it. -/
def candidates (start : Path) : List Path :=
  start.ancestors.flatMap fun directory => fileNames.map directory.child

/-- The settings file in the directory, or in the nearest one above it that has one. -/
def discover? (disk : Disk) (start : Path) : Option Path :=
  (candidates start).find? disk.isFile

end Settings

end TemplateLint
