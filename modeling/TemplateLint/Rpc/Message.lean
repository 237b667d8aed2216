import TemplateLint.Json.Reader

/-!
# Messages between editor and server

Requests and notifications come in, replies go out, and the server asks questions of its own.
Main exports: `RpcId`, `Message`, `RpcError`, `Reply`, `Incoming`.
-/

namespace TemplateLint

/-- What ties a reply to its request. -/
inductive RpcId where
  | number (value : Int)
  | text (value : String)
  | null
deriving DecidableEq, Repr

namespace RpcId

def toJson : RpcId → Json
  | number value => Json.ofInt value
  | text value => .text value
  | null => .null

def ofJson? : Json → Option RpcId
  | .number value => (value.within? Number.leastSigned Number.greatestSigned).map number
  | .text value => some (text value)
  | .null => some null
  | _ => none

end RpcId

/-- A request, or a notification when it has no identity. -/
structure Message where
  method : String
  id : Option RpcId
  params : Option Json

/-- Why a request has no result. -/
inductive RpcError where
  /-- The text is no JSON. -/
  | parseError
  | invalidRequest
  /-- There is no such method, or it is known but not offered here. -/
  | methodNotFound (unknown : Option String)
  | invalidParams
  /-- The server has not been initialised. -/
  | notInitialized
  /-- The request was cancelled. -/
  | cancelled
deriving DecidableEq, Repr

namespace RpcError

def code : RpcError → Int
  | parseError => -32700
  | invalidRequest => -32600
  | methodNotFound _ => -32601
  | invalidParams => -32602
  | notInitialized => -32002
  | cancelled => -32800

def message : RpcError → String
  | parseError => "Parse error"
  | invalidRequest => "Invalid request"
  | methodNotFound _ => "Method not found"
  | invalidParams => "Invalid params"
  | notInitialized => "Server not initialized"
  | cancelled => "Canceled"

def toJson (error : RpcError) : Json :=
  let data := match error with
    | methodNotFound (some method) => [("data", Json.text method)]
    | _ => []
  .object ([("code", Json.ofInt error.code), ("message", .text error.message)] ++ data)

end RpcError

/-- The reply to a request. -/
structure Reply where
  id : RpcId
  result : Except RpcError Json

/-- The version that every message names. -/
def rpcVersion : String := "2.0"

namespace Reply

def toJson (reply : Reply) : Json :=
  let outcome := match reply.result with
    | .ok value => ("result", value)
    | .error error => ("error", error.toJson)
  .object [("jsonrpc", .text rpcVersion), outcome, ("id", reply.id.toJson)]

end Reply

/-- Something that an editor sends. -/
inductive Incoming where
  | message (message : Message)
  /-- The answer to a question of the server; none when it failed. -/
  | answer (id : RpcId) (result : Option Json)

namespace Incoming

/-- A value under a key, when there is one; a key with a value that makes no sense is an error. -/
def optional? {α : Type} (key : String) (decode : Json → Option α) (members : Members) :
    Option (Option α) :=
  match Members.get? key members with
  | none => some none
  | some value => (decode value).map some

/-- The answer that the members of an object denote. -/
def answer? (members : Members) : Option Incoming := do
  let id ← (Members.get? "id" members).bind RpcId.ofJson?
  match Members.get? "result" members with
  | some value => some (.answer id (some value))
  | none =>
      match Members.get? "error" members with
      | some (.object _) => some (.answer id none)
      | _ => none

/-- The request or notification that the members of an object denote. -/
def message? (members : Members) : Option Incoming := do
  let id ← optional? "id" RpcId.ofJson? members
  let method ← optional? "method" Json.text? members
  some (.message ⟨method.getD "", id, Members.get? "params" members⟩)

def ofJson? : Json → Option Incoming
  | .object members =>
      match Members.get? "jsonrpc" members with
      | some (.text version) =>
          if version = rpcVersion then (answer? members).or (message? members) else none
      | _ => none
  | _ => none

end Incoming

end TemplateLint
