import TemplateLint.Rpc.Params

/-!
# Requests that are known but not offered

The protocol knows more requests than this server offers.  Their parameters are looked at before
they are refused.  Main exports: `Unoffered.needs?`, `Unoffered.accepts`.
-/

namespace TemplateLint.Unoffered

/-- What the parameters of a request must hold. -/
inductive Need where
  | document
  | place
  | range
  | text (key : String)
  | object (key : String)
  | list (key : String)
  /-- A text, or a list of its parts. -/
  | label
deriving Repr

def Need.met (members : Members) : Need → Bool
  | document => (Params.required? "textDocument" Params.documentUri? members).isSome
  | place => (Params.required? "position" Params.place? members).isSome
  | range => (Params.required? "range" Params.range? members).isSome
  | text key => (Params.required? key Json.text? members).isSome
  | object key => (Params.required? key Params.object? members).isSome
  | list key => (Params.required? key Json.items? members).isSome
  | label =>
      match Members.get? "label" members with
      | some (.text _) => true
      | some (.array _) => true
      | _ => false

def placeMethods : List String :=
  ["textDocument/hover", "textDocument/definition", "textDocument/declaration",
    "textDocument/typeDefinition", "textDocument/implementation",
    "textDocument/documentHighlight", "textDocument/prepareCallHierarchy",
    "textDocument/prepareTypeHierarchy", "textDocument/moniker", "textDocument/completion",
    "textDocument/signatureHelp", "textDocument/prepareRename",
    "textDocument/linkedEditingRange"]

def documentMethods : List String :=
  ["textDocument/documentSymbol", "textDocument/documentLink", "textDocument/codeLens",
    "textDocument/foldingRange", "textDocument/documentColor",
    "textDocument/semanticTokens/full", "textDocument/diagnostic"]

/-- All other requests, with what each needs. -/
def otherMethods : List (String × List Need) :=
  [("textDocument/references", [.document, .place, .object "context"]),
    ("textDocument/rename", [.document, .place, .text "newName"]),
    ("textDocument/onTypeFormatting", [.document, .place, .text "ch", .object "options"]),
    ("textDocument/semanticTokens/full/delta", [.document, .text "previousResultId"]),
    ("textDocument/semanticTokens/range", [.document, .range]),
    ("textDocument/inlayHint", [.document, .range]),
    ("textDocument/inlineValue", [.document, .range, .object "context"]),
    ("textDocument/codeAction", [.document, .range, .object "context"]),
    ("textDocument/rangeFormatting", [.document, .range, .object "options"]),
    ("textDocument/selectionRange", [.document, .list "positions"]),
    ("textDocument/colorPresentation", [.document, .object "color", .range]),
    ("textDocument/willSaveWaitUntil", [.document]),
    ("callHierarchy/incomingCalls", [.object "item"]),
    ("callHierarchy/outgoingCalls", [.object "item"]),
    ("typeHierarchy/supertypes", [.object "item"]),
    ("typeHierarchy/subtypes", [.object "item"]),
    ("documentLink/resolve", [.range]),
    ("codeLens/resolve", [.range]),
    ("codeAction/resolve", [.text "title"]),
    ("completionItem/resolve", [.text "label"]),
    ("inlayHint/resolve", [.place, .label]),
    ("workspace/symbol", [.text "query"]),
    ("workspaceSymbol/resolve", [.text "name"]),
    ("workspace/diagnostic", [.list "previousResultIds"]),
    ("workspace/executeCommand", [.text "command"]),
    ("workspace/willCreateFiles", [.list "files"]),
    ("workspace/willRenameFiles", [.list "files"]),
    ("workspace/willDeleteFiles", [.list "files"])]

/-- What a request needs, if it is known. -/
def needs? (method : String) : Option (List Need) :=
  if placeMethods.contains method then some [.document, .place]
  else if documentMethods.contains method then some [.document]
  else (otherMethods.find? fun pair => pair.1 = method).map Prod.snd

def accepts (needs : List Need) : Option Json → Bool
  | some (.object members) => needs.all (Need.met members)
  | _ => false

/-- Notifications that are known but mean nothing here. -/
def silentMethods : List String :=
  ["textDocument/willSave", "workspace/didCreateFiles", "workspace/didRenameFiles",
    "workspace/didDeleteFiles", "workspace/didChangeWatchedFiles"]

end TemplateLint.Unoffered
