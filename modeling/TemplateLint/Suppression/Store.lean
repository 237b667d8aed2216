import TemplateLint.Disk
import TemplateLint.Program
import TemplateLint.Settings.Basic
import TemplateLint.Suppression.Choices

/-!
# The store of choices

A store holds the choices in memory and writes them to its file, if it has one, whenever one is
recorded.  Recording and writing are two steps: what is written is what was held right after
recording.  Main exports: `Store`, `Store.openFile`, `Store.record`, `Store.save`, `Store.suppress`,
`Store.isSuppressed`, `Store.apply`, `dataDirectory`.
-/

namespace TemplateLint

/-- What a choice is about. -/
inductive Scope where
  | everywhere
  | folder (path : Path)
deriving DecidableEq, Repr

/-- Choices and the file that keeps them, if any. -/
structure Store where
  file : Option Path
  choices : Choices
deriving DecidableEq, Repr

namespace Store

/-- A store that is forgotten at the end. -/
def inMemory : Store := ⟨none, Choices.nothing⟩

/-- The choices in a file; a file that cannot be read holds none. -/
def readChoices (disk : Disk) (file : Path) : Choices :=
  match disk.readText file with
  | .ok text => (Choices.read? text).getD Choices.nothing
  | .error _ => Choices.nothing

def openFile (disk : Disk) (file : Path) : Store :=
  ⟨some file, readChoices disk file⟩

/-- The choice has been made for everything or for the folder. -/
def isSuppressed (store : Store) (folder : Option Path) : Bool :=
  store.choices.everywhere ||
    (match folder with
      | none => false
      | some path => store.choices.folders.contains path.display)

def record (store : Store) : Scope → Store
  | .everywhere => { store with choices := store.choices.addEverywhere }
  | .folder path => { store with choices := store.choices.addFolder path.display }

/-- Write choices to a file, whose directory is made when it is missing. -/
def save (file : Option Path) (choices : Choices) (disk : Disk) : Except IoError Disk :=
  match file with
  | none => .ok disk
  | some path => do
      let disk ← match path.parent? with
        | some directory => disk.createDirectories directory
        | none => .ok disk
      disk.write path choices.text.toUTF8

/-- Record a choice and write it down.  The choice is held even when it cannot be written. -/
def suppress (store : Store) (scope : Scope) (disk : Disk) :
    Store × Except IoError Disk :=
  let store := store.record scope
  (store, save store.file store.choices disk)

/-- The settings of a document under the choices. -/
def apply (store : Store) (folder : Option Path) (settings : Settings) : Settings :=
  if store.isSuppressed folder then settings.set "showInstallError" (.bool false) else settings

end Store

/-! ## Where data is kept -/

/-- The name of our directory among the user's data. -/
def dataName : String := "djlint-ls"

def dataDirectory (environ : Variables) : Path :=
  let home := Path.ofString ((Variables.get? environ "HOME").getD "/")
  let shared := home.child ".local/share/"
  let base := match Variables.get? environ "XDG_DATA_HOME" with
    | some text =>
        let path := Path.ofString text
        if path.isAbsolute then path else shared
    | none => shared
  base.child dataName

/-- The file of the store among the user's data. -/
def standardStateFile (environ : Variables) : Path :=
  (dataDirectory environ).child "state.json"

/-- Where the environment of our own is among the user's data. -/
def standardEnvironment (environ : Variables) : Path :=
  (dataDirectory environ).child "djlint-venv"

end TemplateLint
