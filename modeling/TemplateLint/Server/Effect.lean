import TemplateLint.Program
import TemplateLint.Rpc.Message
import TemplateLint.Rpc.Written

/-!
# What a server does to its surroundings

A server tells and asks its editor things, answers requests, has programs started and killed, and has
files removed.
Main exports: `Notice`, `Question`, `Effect`, `Effect.message?`.
-/

namespace TemplateLint

/-- How grave a message is. -/
inductive Gravity where
  | error
  | warning
  | information
deriving DecidableEq, Repr

def Gravity.number : Gravity → Nat
  | error => 1
  | warning => 2
  | information => 3

/-- Something that an editor is told. -/
inductive Notice where
  /-- For the log. -/
  | log (gravity : Gravity) (message : String)
  /-- For the user. -/
  | display (gravity : Gravity) (message : String)
  /-- The diagnostics of a document, and the version of it that they are about. -/
  | publish (uri : Uri) (diagnostics : List Diagnostic) (version : Option Int)
deriving DecidableEq, Repr

namespace Notice

def method : Notice → String
  | log .. => "window/logMessage"
  | display .. => "window/showMessage"
  | publish .. => "textDocument/publishDiagnostics"

def messageParams (gravity : Gravity) (message : String) : Json :=
  .object [("type", Json.ofNat gravity.number), ("message", .text message)]

def params : Notice → Json
  | log gravity message => messageParams gravity message
  | display gravity message => messageParams gravity message
  | publish uri diagnostics version =>
      let about := match version with
        | some number => [("version", Json.ofInt number)]
        | none => []
      .object
        ([("uri", .text uri.text),
          ("diagnostics", .array (diagnostics.map Diagnostic.toJson))] ++ about)

end Notice

/-- Something that an editor is asked. -/
inductive Question where
  /-- Which settings hold for a document. -/
  | settings (uri : Uri)
  /-- Which of some actions the user wants after an error. -/
  | choice (message : String) (actions : List String)
deriving DecidableEq, Repr

namespace Question

def method : Question → String
  | settings _ => "workspace/configuration"
  | choice .. => "window/showMessageRequest"

def params : Question → Json
  | settings uri =>
      .object
        [("items", .array [.object
          [("scopeUri", .text uri.text), ("section", .text Settings.sectionName)]])]
  | choice message actions =>
      .object
        [("type", Json.ofNat Gravity.error.number), ("message", .text message),
          ("actions", .array (actions.map fun title => .object [("title", .text title)]))]

end Question

/-- Something that a server does. -/
inductive Effect where
  | tell (notice : Notice)
  /-- Ask under a number that the answer will name. -/
  | ask (number : Nat) (question : Question)
  | reply (reply : Reply)
  /-- Start a program for a job. -/
  | start (job : Nat) (launch : Launch)
  /-- Kill the program of a job. -/
  | kill (job : Nat)
  /-- Remove whatever stands under a path for a job.  Once begun this goes on, whatever becomes of the
  job. -/
  | remove (job : Nat) (path : Path)

/-- The message that an effect sends, if it sends one. -/
def Effect.message? : Effect → Option Json
  | tell notice =>
      some (.object
        [("jsonrpc", .text rpcVersion), ("method", .text notice.method),
          ("params", notice.params)])
  | ask number question =>
      some (.object
        [("jsonrpc", .text rpcVersion), ("method", .text question.method),
          ("params", question.params), ("id", Json.ofNat number)])
  | reply answer => some answer.toJson
  | start .. => none
  | kill _ => none
  | remove .. => none

end TemplateLint
