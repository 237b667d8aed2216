import TemplateLint.Rpc.Params
import TemplateLint.Rpc.Unoffered
import TemplateLint.Server.Findings

/-!
# Notifications

What an editor tells the server: that documents were opened, changed, saved and closed, and that
settings and folders changed.
Main exports: `Notification`, `Notification.reader?`, `Turn.heed`.
-/

namespace TemplateLint

/-- Something that an editor tells. -/
inductive Notification where
  | initialized
  | opened (document : Document)
  | changed (change : Params.Changed)
  /-- With the text, if the editor sent it along. -/
  | saved (uri : Uri) (text : Option String)
  | closed (uri : Uri)
  | configured (settings : Json)
  | foldersChanged (folders : Params.Folders)
  /-- Known, but of no use here. -/
  | useless

namespace Notification

/-- How the parameters of a method are read; none when the method is not a notification. -/
def reader? (method : String) : Option (Json → Option Notification) :=
  match method with
  | "initialized" => some fun params => (Params.nothing? params).map fun _ => initialized
  | "textDocument/didOpen" => some fun params => (Params.opened? params).map opened
  | "textDocument/didChange" => some fun params => (Params.changed? params).map changed
  | "textDocument/didSave" =>
      some fun params => (Params.saved? params).map fun (uri, text) => saved uri text
  | "textDocument/didClose" => some fun params => (Params.closed? params).map closed
  | "workspace/didChangeConfiguration" =>
      some fun params => (Params.configuration? params).map configured
  | "workspace/didChangeWorkspaceFolders" =>
      some fun params => (Params.folders? params).map foldersChanged
  | _ => if Unoffered.silentMethods.contains method then some fun _ => some useless else none

end Notification

namespace Turn

/-! ## Documents -/

def keep (turn : Turn) (document : Document) : Turn :=
  (turn.update fun server =>
    { server with documents := server.documents.put document.uri document }).note (.kept document)

def heedOpened (turn : Turn) (origin : Nat) (document : Document) : Turn :=
  (turn.keep document).lintAll origin [document.uri]

/-- A document was changed: the last change brings its whole text. -/
def heedChanged (turn : Turn) (origin : Nat) (change : Params.Changed) : Turn :=
  match change.texts.getLast?, turn.server.documents.get? change.uri with
  | some text, some document =>
      (turn.keep { document with text, version := some change.version }).lintAll origin
        [change.uri]
  | _, _ => turn

def heedSaved (turn : Turn) (origin : Nat) (uri : Uri) (text : Option String) : Turn :=
  let turn := match text, turn.server.documents.get? uri with
    | some text, some document => turn.keep { document with text }
    | _, _ => turn
  turn.lintAll origin [uri]

/-- A document was closed: nothing about it is kept. -/
def heedClosed (turn : Turn) (uri : Uri) : Turn :=
  (((turn.supersede uri).update fun server =>
    { server with
      documents := server.documents.erase uri
      diagnostics := server.diagnostics.erase uri }).note (.closed uri)).publish uri [] none

/-! ## Settings and folders -/

/-- The settings of the editor after it pushed a value: `null` leaves them as they are, and a value
that denotes none is refused. -/
def pushed? (current : Settings) (value : Json) : Option Settings :=
  if value.isNull then some current else Settings.ofJson? value

/-- Settings changed: every open document is linted. -/
def heedConfigured (turn : Turn) (origin : Nat) (value : Json) : Turn :=
  match pushed? turn.server.client value with
  | none => turn
  | some client =>
      let turn := turn.update fun server => { server with client, lastError := none }
      turn.lintAll origin turn.server.documents.keys

def withoutFolder (folders : List Path) (folder : Path) : List Path :=
  folders.filter fun other => !decide (other.Same folder)

/-- Put a folder at the end of a list, unless it is in it. -/
def withFolder (folders : List Path) (folder : Path) : List Path :=
  if folders.any fun other => decide (other.Same folder) then folders else folders ++ [folder]

/-- The folders after a change: those removed go first, then those added come. -/
def changedFolders (folders : List Path) (change : Params.Folders) : List Path :=
  (change.added.filterMap Uri.toPath?).foldl withFolder
    ((change.removed.filterMap Uri.toPath?).foldl withoutFolder folders)

/-- The folders of the workspace changed. -/
def heedFolders (turn : Turn) (change : Params.Folders) : Turn :=
  turn.update fun server => { server with folders := changedFolders server.folders change }

/-! ## All of them -/

/-- Do what a notification calls for. -/
def heed (turn : Turn) (origin : Nat) : Notification → Turn
  | .initialized => turn.tell (.log .information "djlint-ls started")
  | .opened document => turn.heedOpened origin document
  | .changed change => turn.heedChanged origin change
  | .saved uri text => turn.heedSaved origin uri text
  | .closed uri => turn.heedClosed uri
  | .configured value => turn.heedConfigured origin value
  | .foldersChanged change => turn.heedFolders change
  | .useless => turn

end Turn

end TemplateLint
