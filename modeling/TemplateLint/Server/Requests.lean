import TemplateLint.Cli.Run
import TemplateLint.Rpc.Params
import TemplateLint.Server.Findings

/-!
# Requests

What an editor asks of the server: to begin, to format a document, and to shut down.
Main exports: `capabilities`, `Turn.beginServing`, `Turn.shutDown`, `Turn.answerFormatting`.
-/

namespace TemplateLint

/-- What the server offers, and who it is. -/
def capabilities : Json :=
  .object
    [("capabilities", .object
      [("textDocumentSync", .object
        [("openClose", .bool true), ("change", Json.ofNat 1),
          ("save", .object [("includeText", .bool false)])]),
      ("documentFormattingProvider", .bool true),
      ("workspace", .object
        [("workspaceFolders", .object
          [("supported", .bool true), ("changeNotifications", .bool true)])])]),
    ("serverInfo", .object
      [("name", .text "djlint-ls"), ("version", .text Cli.versionNumber)])]

/-- The folders that an editor begins with: those that are local, and the root when there are
none. -/
def initialFolders (params : Params.Beginning) : List Path :=
  match params.folders.filterMap Uri.toPath? with
  | [] => (params.root.bind Uri.toPath?).toList
  | folders => folders

namespace Turn

/-- The settings file: the one that was named, or the first that a folder leads to. -/
def settingsFile? (turn : Turn) : Option Path :=
  turn.server.configFile.or (turn.server.folders.findSome? (Settings.discover? turn.disk))

/-- Read the settings file; an error is only logged. -/
def loadSettings (turn : Turn) : Turn :=
  match turn.settingsFile? with
  | none => turn
  | some file =>
      match Settings.load turn.disk file with
      | .ok layer => turn.update fun server => { server with base := server.base.merged layer }
      | .error error => turn.tell (.log .warning error.message)

def beginServing (turn : Turn) (id : RpcId) (params : Params.Beginning) : Turn :=
  let turn := turn.update fun server =>
    { server with
      asksSettings := params.configuration
      folders := initialFolders params
      client := (params.options.bind Settings.ofJson?).getD server.client }
  let turn := turn.loadSettings
  (turn.update fun server => { server with phase := .ready }).reply id (.ok capabilities)

/-- Shut down: no lint counts any more, and the environment of our own is forgotten. -/
def shutDown (turn : Turn) (id : RpcId) : Turn :=
  let turn := (turn.server.inFlight.keys).foldl supersede turn
  ((turn.update fun server =>
    { server with isolated := { server.isolated with initialized := false } }).note
    .shutDown).reply id (.ok .null)

/-- Format a document, if it is open. -/
def answerFormatting (turn : Turn) (origin : Nat) (id : RpcId) (uri : Uri) (tabSize : Nat) : Turn :=
  match turn.server.documents.get? uri with
  | none => turn.reply id (.ok .null)
  | some document => turn.format origin id tabSize document

end Turn

end TemplateLint
