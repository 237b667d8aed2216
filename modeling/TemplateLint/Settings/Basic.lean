import TemplateLint.Json.Printer

/-!
# Settings

Settings are values under keys, laid one over the other in layers.  A value that has not the type
that a reader of it expects counts as absent.
Main exports: `Settings`, `Settings.standard`, `Settings.ofJson`, `Settings.merged`, and the typed
readers `isOn`, `text?`, `number?`, `texts`.
-/

namespace TemplateLint

/-- Values under keys. -/
structure Settings where
  values : Members
deriving Repr, Inhabited

namespace Settings

/-- The name under which an editor keeps the settings of this program. -/
def sectionName : String := "djlint"

/-- The languages that are formatted and linted unless the user names others. -/
def standardLanguages : List String :=
  ["django-html", "handlebars", "hbs", "html", "jinja", "jinja-html", "nj", "njk", "nunjucks",
    "twig"]

/-- No settings at all. -/
def empty : Settings := ⟨[]⟩

/-- The settings that hold unless the user says otherwise. -/
def standard : Settings :=
  let languages := Json.array (standardLanguages.map Json.text)
  ⟨[("pythonPath", .text "python"),
    ("useVenv", .bool true),
    ("useIsolatedEnvironment", .bool false),
    ("showInstallError", .bool true),
    ("enableLinting", .bool true),
    ("guessProfile", .bool true),
    ("useEditorIndentation", .bool true),
    ("useNewLinterOutputParser", .bool true),
    ("diagnosticSeverity", .text "warning"),
    ("formatLanguages", languages),
    ("lintLanguages", languages)]⟩

/-- The layer that the members of an object denote: the object under the section's name when there
is one, and otherwise the members without that name. -/
def ofMembers (members : Members) : Settings :=
  match Members.get? sectionName members with
  | some (.object inner) => ⟨inner⟩
  | _ => ⟨Members.erase sectionName members⟩

/-- The layer that a value denotes; one that is neither an object nor `null` denotes none. -/
def ofJson? : Json → Option Settings
  | .null => some empty
  | .object members => some (ofMembers members)
  | _ => none

/-- Lay other settings over these: their keys win. -/
def merged (lower upper : Settings) : Settings :=
  ⟨Members.overlay lower.values upper.values⟩

def set (settings : Settings) (key : String) (value : Json) : Settings :=
  ⟨Members.insert key value settings.values⟩

def get? (settings : Settings) (key : String) : Option Json :=
  Members.get? key settings.values

def isEmpty (settings : Settings) : Bool :=
  settings.values.isEmpty

/-- The value is `true`. -/
def isOn (settings : Settings) (key : String) : Bool :=
  match settings.get? key with
  | some (.bool true) => true
  | _ => false

def text? (settings : Settings) (key : String) : Option String :=
  match settings.get? key with
  | some (.text value) => if value = "" then none else some value
  | _ => none

def number? (settings : Settings) (key : String) : Option Int :=
  match settings.get? key with
  | some (.number value) => value.toSigned?
  | _ => none

/-- The texts of a list that are not empty; other items do not count. -/
def texts (settings : Settings) (key : String) : List String :=
  match settings.get? key with
  | some (.array items) => (items.filterMap Json.text?).filter (· ≠ "")
  | _ => []

def pythonPath? (settings : Settings) : Option String :=
  settings.text? "pythonPath"

def formats (settings : Settings) (languageId : String) : Bool :=
  (settings.texts "formatLanguages").contains languageId

/-- Documents of the language are linted, as far as linting is on at all. -/
def lints (settings : Settings) (languageId : String) : Bool :=
  (settings.texts "lintLanguages").contains languageId

def lintingEnabled (settings : Settings) : Bool :=
  settings.isOn "enableLinting"

/-! ## What a key holds after a change -/

theorem get?_set (settings : Settings) (key name : String) (value : Json) :
    (settings.set key value).get? name = if name = key then some value else settings.get? name :=
  Members.get?_insert key name value settings.values

end Settings

end TemplateLint
