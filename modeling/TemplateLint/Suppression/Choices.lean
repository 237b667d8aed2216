import TemplateLint.Json.Printer
import TemplateLint.Json.Reader

/-!
# Choices not to be told again

A user may choose not to be told again that the tool is not installed, for one folder or
everywhere.  The choices are kept as JSON text.
Main exports: `Choices`, `Choices.text`, `Choices.read?`.
-/

namespace TemplateLint

/-- The recorded choices. -/
structure Choices where
  everywhere : Bool
  /-- The folders as they are shown, in ascending order and each once. -/
  folders : List String
deriving DecidableEq, Repr

namespace Choices

/-- No choice has been made. -/
def nothing : Choices := ⟨false, []⟩

def insertFolder (folder : String) : List String → List String
  | [] => [folder]
  | first :: rest =>
      if folder = first then first :: rest
      else if folder < first then folder :: first :: rest
      else first :: insertFolder folder rest

def addFolder (choices : Choices) (folder : String) : Choices :=
  { choices with folders := insertFolder folder choices.folders }

def addEverywhere (choices : Choices) : Choices :=
  { choices with everywhere := true }

/-- The choice for everything, in the kept text. -/
def everywhereKey : String := "hideInstallErrorGlobally"

/-- The choices for folders, in the kept text. -/
def foldersKey : String := "hideInstallErrorIn"

def toJson (choices : Choices) : Json :=
  .object
    [(everywhereKey, .bool choices.everywhere),
      (foldersKey, .array (choices.folders.map Json.text))]

def text (choices : Choices) : String :=
  choices.toJson.pretty

def readFlag? : Json → Option Bool
  | .bool value => some value
  | _ => none

/-- Folders in any order, each any number of times. -/
def readFolders? : Json → Option (List String)
  | .array items => do
      let folders ← items.mapM Json.text?
      some (folders.foldl (fun sorted folder => insertFolder folder sorted) [])
  | _ => none

/-- The only value under a key; no value is the given one, and several are an error. -/
def single? {α : Type} (key : String) (read : Json → Option α) (missing : α) (members : Members) :
    Option α :=
  match members.filter fun pair => pair.1 = key with
  | [] => some missing
  | [(_, value)] => read value
  | _ => none

/-- The choices that the members of an object denote; other keys do not count. -/
def ofMembers? (members : Members) : Option Choices := do
  let everywhere ← single? everywhereKey readFlag? false members
  let folders ← single? foldersKey readFolders? [] members
  some ⟨everywhere, folders⟩

/-- The choices that a list denotes, which names them in order. -/
def ofItems? : List Json → Option Choices
  | [] => some nothing
  | [flag] => do
      let everywhere ← readFlag? flag
      some ⟨everywhere, []⟩
  | [flag, folders] => do
      let everywhere ← readFlag? flag
      let folders ← readFolders? folders
      some ⟨everywhere, folders⟩
  | _ => none

def read? (text : String) : Option Choices :=
  match Json.readMembers? text with
  | some members => ofMembers? members
  | none =>
      match Json.read? text with
      | some (.array items) => ofItems? items
      | _ => none

end Choices

end TemplateLint
