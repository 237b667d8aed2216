import TemplateLint.Server.Notifications
import TemplateLint.Server.Requests

/-!
# Steps of a server

A server goes on event by event: a message comes in, a program or a removal ends, or a job looks
around.  Before it is initialised and after it is told to shut down it refuses requests and drops
notifications; after it has exited it does nothing for the editor any more.
Main exports: `Event`, `Turn.receive`, `Turn.step`, `Server.restless?`.
-/

namespace TemplateLint

namespace Turn

/-! ## What is common to all requests and notifications -/

/-- Refuse a request; a message without an identity gets no reply. -/
def refuse (turn : Turn) (id : Option RpcId) (error : RpcError) : Turn :=
  match id with
  | some request => turn.reply request (.error error)
  | none => turn

/-- Handle a request unless one with its identity is pending.  Without an identity it is
ignored. -/
def request (turn : Turn) (id : Option RpcId) (handle : RpcId → Turn) : Turn :=
  match id with
  | none => turn
  | some request =>
      if turn.server.isPending request then turn.refuse id .invalidRequest else handle request

/-- Handle a request in the phase that is meant for requests. -/
def guarded (turn : Turn) (id : Option RpcId) (handle : RpcId → Turn) : Turn :=
  match turn.server.phase.refusal? with
  | some error => turn.refuse id error
  | none => turn.request id handle

/-! ## The messages -/

def receiveBeginning (turn : Turn) (message : Message) : Turn :=
  if turn.server.phase = .fresh then
    turn.request message.id fun id =>
      match message.params.bind Params.beginning? with
      | some params => turn.beginServing id params
      | none => turn.refuse message.id .invalidParams
  else turn.refuse message.id .invalidRequest

/-- The request to shut down; it has no parameters. -/
def receiveShutdown (turn : Turn) (message : Message) : Turn :=
  match turn.server.phase.refusal? with
  | some error => turn.refuse message.id error
  | none =>
      let turn := turn.update fun server => { server with phase := .closing }
      turn.request message.id fun id =>
        if message.params.isSome then turn.refuse message.id .invalidParams else turn.shutDown id

/-- The notification to exit: whatever is pending is cancelled. -/
def receiveExit (turn : Turn) : Turn :=
  (turn.update fun server => { server with phase := .exited }).cancelRequests fun _ => true

/-- The notification to cancel a request, in any phase. -/
def receiveCancel (turn : Turn) (message : Message) : Turn :=
  match message.id, message.params.bind Params.cancelled? with
  | some _, _ => turn.refuse message.id .invalidRequest
  | none, some id => turn.cancelRequests fun request => request == id
  | none, none => turn

/-- The request to format a document. -/
def receiveFormatting (turn : Turn) (origin : Nat) (message : Message) : Turn :=
  turn.guarded message.id fun id =>
    match message.params.bind Params.formatting? with
    | some (uri, tabSize) => turn.answerFormatting origin id uri tabSize
    | none => turn.refuse message.id .invalidParams

/-- A notification; as a request it makes no sense. -/
def receiveNotification (turn : Turn) (origin : Nat) (message : Message)
    (read : Json → Option Notification) : Turn :=
  match turn.server.phase.refusal?, message.id with
  | some error, _ => turn.refuse message.id error
  | none, some _ => turn.refuse message.id .invalidRequest
  | none, none =>
      match message.params.bind read with
      | some notification => turn.heed origin notification
      | none => turn

/-- A request that is known but not offered. -/
def receiveUnoffered (turn : Turn) (message : Message) (needs : List Unoffered.Need) : Turn :=
  turn.guarded message.id fun _ =>
    if Unoffered.accepts needs message.params then turn.refuse message.id (.methodNotFound none)
    else turn.refuse message.id .invalidParams

/-- Methods that begin like this may be ignored. -/
def isOptional (method : String) : Bool :=
  method.startsWith "$/"

def receiveUnknown (turn : Turn) (message : Message) : Turn :=
  if isOptional message.method then turn
  else turn.refuse message.id (.methodNotFound (some message.method))

/-- Receive a message, which gets the next number. -/
def receiveMessage (turn : Turn) (message : Message) : Turn :=
  let origin := turn.server.messages
  let turn := turn.update fun server => { server with messages := origin + 1 }
  match message.method with
  | "initialize" => turn.receiveBeginning message
  | "shutdown" => turn.receiveShutdown message
  | "exit" => turn.receiveExit
  | "$/cancelRequest" => turn.receiveCancel message
  | "textDocument/formatting" => turn.receiveFormatting origin message
  | method =>
      match Notification.reader? method, Unoffered.needs? method with
      | some read, _ => turn.receiveNotification origin message read
      | none, some needs => turn.receiveUnoffered message needs
      | none, none => turn.receiveUnknown message

/-- Receive the answer to a question. -/
def receiveAnswer (turn : Turn) (id : RpcId) (result : Option Json) (eager : Bool) : Turn :=
  match id with
  | .number value =>
      let number := value.toNat
      match turn.server.askers.get? number with
      | none => turn
      | some asker =>
          let turn := turn.update fun server =>
            { server with askers := server.askers.erase number }
          match asker with
          | .job job => turn.deliver job (.answer (Answer.settings? result)) eager
          | .popup details folder =>
              match (Answer.choice? result).bind PopupAction.ofTitle? with
              | some action => turn.choose details folder action
              | none => turn
  | _ => turn

/-- Receive something from the editor. -/
def receive (turn : Turn) (incoming : Incoming) (eager : Bool) : Turn :=
  match incoming with
  | .message message => if turn.server.phase = .exited then turn else turn.receiveMessage message
  | .answer id result => turn.receiveAnswer id result eager

end Turn

/-! ## Events -/

/-- Something that happens to a server. -/
inductive Event where
  | received (incoming : Incoming)
  /-- The program of a job ended. -/
  | ended (job : Nat) (result : CommandResult)
  /-- What was to be removed for a job is gone, or stays. -/
  | removed (job : Nat) (result : Except IoError Unit)
  /-- A job looks around, or the editor has taken what a job told it. -/
  | woken (job : Nat)

namespace Turn

/-- Take the turn that an event calls for.  Whether a superseded job still goes on a little is left
to the surroundings, by `eager`. -/
def step (turn : Turn) (event : Event) (eager : Bool) : Turn :=
  match event with
  | .received incoming => turn.receive incoming eager
  | .ended job result => turn.deliver job (.result result) eager
  | .removed job result => turn.deliver job (.removed result) eager
  | .woken job => turn.wake job eager

end Turn

namespace Server

/-- The turn that a server takes after an event. -/
def step (server : Server) (disk : Disk) (event : Event) (eager : Bool) : Turn :=
  Turn.step ⟨server, disk, []⟩ event eager

/-- A job that would do something if it were woken: those that tell come first. -/
def restless? (server : Server) : Option Nat :=
  (server.tellings.keys.head?).or
    ((server.jobs.pairs.find? fun pair =>
      Turn.heeds ⟨server, .empty, []⟩ pair.1 pair.2 .wake).map Prod.fst)

end Server

end TemplateLint
