import TemplateLint.Document
import TemplateLint.Json.Value
import TemplateLint.Rpc.Message
import TemplateLint.Settings.Basic
import TemplateLint.Uri.Reader

/-!
# Parameters of messages

Each kind of message has parameters of a fixed shape; a value of another shape is refused as a
whole.  Members that nobody asks for do not count.
Main exports: `Params.beginning?`, `Params.opened?`, `Params.changed?`, `Params.saved?`,
`Params.closed?`, `Params.configuration?`, `Params.folders?`, `Params.formatting?`,
`Params.cancelled?`, `Answer.settings?`, `Answer.choice?`.
-/

namespace TemplateLint

namespace Params

/-! ## Parts -/

/-- The members of a record: those of an object, or the items of a list in the order of the
names. -/
def record? (names : List String) : Json → Option Members
  | .object members => some members
  | .array items => if items.length = names.length then some (names.zip items) else none
  | _ => none

def required? {α : Type} (key : String) (decode : Json → Option α) (members : Members) :
    Option α :=
  (Members.get? key members).bind decode

/-- A member that may be missing or `null`. -/
def optional? {α : Type} (key : String) (decode : Json → Option α) (members : Members) :
    Option (Option α) :=
  match Members.get? key members with
  | none => some none
  | some .null => some none
  | some value => (decode value).map some

def flag? : Json → Option Bool
  | .bool value => some value
  | _ => none

/-- A natural number of 32 bits. -/
def unsigned? : Json → Option Nat
  | .number value => (value.within? 0 0xffffffff).map Int.toNat
  | _ => none

/-- An integer of 32 bits. -/
def signed? : Json → Option Int
  | .number value => value.within? (-0x80000000) 0x7fffffff
  | _ => none

def uri? : Json → Option Uri
  | .text text =>
      match Uri.read text with
      | .ok uri => some uri
      | .error _ => none
  | _ => none

def list? {α : Type} (decode : Json → Option α) : Json → Option (List α)
  | .array items => items.mapM decode
  | _ => none

def object? : Json → Option Members := Json.members?

def documentUri? (value : Json) : Option Uri := do
  let members ← record? ["uri"] value
  required? "uri" uri? members

def place? (value : Json) : Option Position := do
  let members ← record? ["line", "character"] value
  let line ← required? "line" unsigned? members
  let character ← required? "character" unsigned? members
  some ⟨line, character⟩

def range? (value : Json) : Option Range := do
  let members ← record? ["start", "end"] value
  let first ← required? "start" place? members
  let last ← required? "end" place? members
  some ⟨first, last⟩

/-! ## Starting -/

/-- What an editor says of itself. -/
structure Beginning where
  /-- The editor can be asked for settings. -/
  configuration : Bool
  folders : List Uri
  root : Option Uri
  options : Option Json

def folder? (value : Json) : Option Uri := do
  let members ← record? ["uri", "name"] value
  let uri ← required? "uri" uri? members
  let _ ← required? "name" Json.text? members
  some uri

/-- Whether the capabilities say that the editor can be asked for settings. -/
def capabilities? (value : Json) : Option Bool := do
  let members ← object? value
  let workspace ← optional? "workspace" object? members
  match workspace with
  | none => some false
  | some members =>
      let _ ← optional? "applyEdit" flag? members
      let _ ← optional? "workspaceFolders" flag? members
      let configuration ← optional? "configuration" flag? members
      some (configuration.getD false)

def trace? : Json → Option String
  | .text text => if ["off", "messages", "verbose"].contains text then some text else none
  | _ => none

def clientInfo? (value : Json) : Option String := do
  let members ← object? value
  let name ← required? "name" Json.text? members
  let _ ← optional? "version" Json.text? members
  some name

/-- The parameters of `initialize`. -/
def beginning? (value : Json) : Option Beginning := do
  let members ← object? value
  let _ ← optional? "processId" unsigned? members
  let _ ← optional? "rootPath" Json.text? members
  let root ← optional? "rootUri" uri? members
  let options ← optional? "initializationOptions" some members
  let configuration ← required? "capabilities" capabilities? members
  let _ ← optional? "trace" trace? members
  let folders ← optional? "workspaceFolders" (list? folder?) members
  let _ ← optional? "clientInfo" clientInfo? members
  let _ ← optional? "locale" Json.text? members
  some ⟨configuration, folders.getD [], root, options⟩

/-- The parameters of `initialized`: a record without members. -/
def nothing? (value : Json) : Option Unit :=
  (record? [] value).map fun _ => ()

/-! ## Documents -/

def opened? (value : Json) : Option Document := do
  let members ← record? ["textDocument"] value
  let item ← required? "textDocument"
    (record? ["uri", "languageId", "version", "text"]) members
  let uri ← required? "uri" uri? item
  let languageId ← required? "languageId" Json.text? item
  let version ← required? "version" signed? item
  let text ← required? "text" Json.text? item
  some ⟨uri, languageId, some version, text⟩

/-- A changed document: its version, and the texts that the changes bring. -/
structure Changed where
  uri : Uri
  version : Int
  texts : List String

def changeText? (value : Json) : Option String := do
  let members ← record? ["range", "rangeLength", "text"] value
  let _ ← optional? "range" range? members
  let _ ← optional? "rangeLength" unsigned? members
  required? "text" Json.text? members

def changed? (value : Json) : Option Changed := do
  let members ← record? ["textDocument", "contentChanges"] value
  let item ← required? "textDocument" (record? ["uri", "version"]) members
  let uri ← required? "uri" uri? item
  let version ← required? "version" signed? item
  let texts ← required? "contentChanges" (list? changeText?) members
  some ⟨uri, version, texts⟩

/-- The document that was saved, with its text if it was sent along. -/
def saved? (value : Json) : Option (Uri × Option String) := do
  let members ← record? ["textDocument", "text"] value
  let uri ← required? "textDocument" documentUri? members
  let text ← optional? "text" Json.text? members
  some (uri, text)

def closed? (value : Json) : Option Uri := do
  let members ← record? ["textDocument"] value
  required? "textDocument" documentUri? members

/-! ## Settings and folders -/

def configuration? (value : Json) : Option Json := do
  let members ← record? ["settings"] value
  Members.get? "settings" members

/-- Folders that were removed and added. -/
structure Folders where
  removed : List Uri
  added : List Uri

def folders? (value : Json) : Option Folders := do
  let members ← record? ["event"] value
  let event ← required? "event" (record? ["added", "removed"]) members
  let added ← required? "added" (list? folder?) event
  let removed ← required? "removed" (list? folder?) event
  some ⟨removed, added⟩

/-! ## Requests -/

/-- The name of a task whose progress is reported. -/
def token? : Json → Option Unit
  | .text _ => some ()
  | value => (signed? value).map fun _ => ()

def isProperty : Json → Bool
  | .bool _ => true
  | .text _ => true
  | value => (signed? value).isSome

/-- The options of formatting that have names of their own. -/
def formattingNames : List String :=
  ["tabSize", "insertSpaces", "trimTrailingWhitespace", "insertFinalNewline", "trimFinalNewlines"]

/-- The width of a tabulator among the options of formatting. -/
def tabSize? (value : Json) : Option Nat := do
  let members ← object? value
  let tabSize ← required? "tabSize" unsigned? members
  let _ ← required? "insertSpaces" flag? members
  let _ ← optional? "trimTrailingWhitespace" flag? members
  let _ ← optional? "insertFinalNewline" flag? members
  let _ ← optional? "trimFinalNewlines" flag? members
  let others := members.filter fun pair => !formattingNames.contains pair.1
  if others.all fun pair => isProperty pair.2 then some tabSize else none

/-- The document to format, and the width of a tabulator. -/
def formatting? (value : Json) : Option (Uri × Nat) := do
  let members ← object? value
  let uri ← required? "textDocument" documentUri? members
  let tabSize ← required? "options" tabSize? members
  let _ ← optional? "workDoneToken" token? members
  some (uri, tabSize)

def cancelled? (value : Json) : Option RpcId := do
  let members ← record? ["id"] value
  match Members.get? "id" members with
  | some (.text text) => some (.text text)
  | some value => (signed? value).map RpcId.number
  | none => none

end Params

/-! ## Answers of an editor -/

namespace Answer

/-- The settings in the answer to a question for them: the last item, if it is any. -/
def settings? : Option Json → Option Settings
  | some (.array items) => items.getLast?.bind Settings.ofJson?
  | _ => none

/-- The title of the action that was chosen, if one was. -/
def choice? : Option Json → Option String
  | some (.object members) => Params.required? "title" Json.text? members
  | _ => none

end Answer

end TemplateLint
