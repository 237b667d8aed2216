import TemplateLint.Cli.Run
import TemplateLint.Rpc.Framing
import TemplateLint.Server.Step

/-!
# The program

The outer layer: it looks at the arguments, the environment and the files that matter, has the
library decide, and writes what came of it.  It starts no programs by itself: no file that it looks
at counts as one that may be started, so that every attempt is told as a failure.
-/

namespace TemplateLint.Terminal

/-! ## The environment -/

def variableNames : List String :=
  ["HOME", "PATH", "XDG_DATA_HOME", "SHELL", "NO_COLOR", "CLICOLOR", "CLICOLOR_FORCE",
    "VIRTUAL_ENV", "CONDA_PREFIX"]

def readVariables : IO Variables :=
  variableNames.filterMapM fun name => do
    match ← IO.getEnv name with
    | some value => return some (name, value)
    | none => return none

/-! ## Files -/

/-- The location that a path leads to from a directory. -/
def follow (directory : Location) (path : Path) : Location :=
  path.components.foldl
    (fun location component =>
      match component with
      | .root => []
      | .here => location
      | .up => location.dropLast
      | .entry name => location ++ [name])
    directory

/-- The file of a name, if there is one that can be read. -/
def readFile? (name : String) : IO (Option Entry) := do
  try return some (.file (← IO.FS.readBinFile name) false)
  catch _ => return none

/-- A file tree with the files that some paths name now. -/
def survey (disk : Disk) (paths : List Path) : IO Disk :=
  paths.foldlM
    (fun disk path => do
      match ← readFile? path.display with
      | some entry => return disk.install (follow disk.workDir path) entry
      | none => return disk)
    disk

/-- A file tree that holds the current directory and nothing else. -/
def currentDisk : IO Disk := do
  let directory ← IO.currentDir
  let location := follow [] (Path.ofString directory.toString)
  return { Disk.empty.install location .directory with workDir := location }

def sameEntry : Option Entry → Entry → Bool
  | some (.file old _), .file new _ => old.data == new.data
  | some .directory, .directory => true
  | _, _ => false

def persist (before after : Disk) : IO Unit :=
  after.entries.reverse.forM fun (location, entry) => do
    if sameEntry (before.entryAt? location) entry then return ()
    let name := (Location.toPath location).display
    match entry with
    | .directory => IO.FS.createDirAll name
    | .file content _ => IO.FS.writeBinFile name content

/-! ## Input -/

partial def readAll (stream : IO.FS.Stream) (before : ByteArray) : IO ByteArray := do
  let bytes ← stream.read 65536
  if bytes.isEmpty then return before else readAll stream (before ++ bytes)

/-! ## Serving an editor -/

/-- A server with its files and what came for it. -/
structure Session where
  server : Server
  disk : Disk
  inbox : Inbox

def send (message : Json) : IO Unit := do
  let stdout ← IO.getStdout
  stdout.putStr (Frame.write message)
  stdout.flush

/-- Do what an effect asks of the surroundings: no program can be started, and files are removed from
those that are known. -/
def Session.react (session : Session) : Effect → Session × Option Event
  | .start job _ => (session, some (.ended job (.refused .missing)))
  | .remove job path =>
      match session.disk.removeTree path with
      | .ok disk => ({ session with disk }, some (.removed job (.ok ())))
      | .error reason => (session, some (.removed job (.error reason)))
  | _ => (session, none)

/-- Take a turn, and those that follow from it. -/
partial def advance (session : Session) (event : Event) : IO Session := do
  let turn := session.server.step session.disk event false
  persist session.disk turn.disk
  turn.effects.forM fun effect => do
    match effect.message? with
    | some message => send message
    | none => return ()
  let session := { session with server := turn.server, disk := turn.disk }
  let session ← turn.effects.foldlM
    (fun session effect => do
      match session.react effect with
      | (session, some event) => advance session event
      | (session, none) => return session)
    session
  match session.server.restless? with
  | some job => advance session (.woken job)
  | none => return session

/-- The settings files that a message may lead to. -/
def settingsCandidates (incoming : Incoming) : List Path :=
  match incoming with
  | .message message =>
      match message.params.bind Params.beginning? with
      | some params => (initialFolders params).flatMap Settings.candidates
      | none => []
  | .answer .. => []

/-- Read what has come, as far as it goes. -/
partial def readInbox (session : Session) : IO Session := do
  match session.inbox.next with
  | (.idle, inbox) => return { session with inbox }
  | (.skipped, inbox) => readInbox { session with inbox }
  | (.failed error, inbox) =>
      send (Reply.toJson ⟨.null, .error error⟩)
      return { session with inbox }
  | (.incoming incoming, inbox) =>
      if session.server.phase = .exited then
        return { session with inbox := { inbox with stopped := true } }
      let disk ← survey session.disk (settingsCandidates incoming)
      readInbox (← advance { session with disk, inbox } (.received incoming))

partial def serve (session : Session) : IO Unit := do
  let bytes ← (← IO.getStdin).read 65536
  if bytes.isEmpty then
    match session.inbox.close with
    | .failed error => send (Reply.toJson ⟨.null, .error error⟩)
    | _ => return ()
  else
    let session ← readInbox { session with inbox := session.inbox.add bytes.toList }
    if session.inbox.stopped || session.server.phase = .exited then return ()
    serve session

/-- The files that the command line may lead to. -/
def namedFiles (arguments : List String) (disk : Disk) : List Path :=
  arguments.map Path.ofString ++ Settings.candidates (Location.toPath disk.workDir)

def finish (answer : Cli.Answer) : IO UInt32 := do
  IO.print answer.stdout
  IO.eprint answer.stderr
  return answer.exitCode.toUInt32

def run (arguments : List String) : IO UInt32 := do
  let environ ← readVariables
  let empty ← currentDisk
  let stateFile := standardStateFile environ
  let disk ← survey empty (stateFile :: namedFiles arguments empty)
  let host : Host := ⟨environ, fun disk _ => (⟨.empty, .empty, .killed 9⟩, disk)⟩
  let terminal ← (← IO.getStdout).isTty
  let input ←
    if arguments.contains "-" then readAll (← IO.getStdin) .empty else pure .empty
  let session : Cli.Session :=
    ⟨host, Cli.isColoured environ terminal, Utf8.decode? input⟩
  let world : World := ⟨disk, [], ⟨standardEnvironment environ, false⟩⟩
  match Cli.run session arguments world with
  | (.finish answer, after) =>
      persist disk after.disk
      finish answer
  | (.serve _ (some _), _) =>
      finish ⟨Cli.toolError, "",
        Cli.errorLine session.coloured "Language server stopped: ports are not served"⟩
  | (.serve config none, after) =>
      serve
        ⟨.start environ config after.isolated.venv (Store.openFile after.disk stateFile),
          after.disk, .empty⟩
      return 0

end TemplateLint.Terminal

def main (arguments : List String) : IO UInt32 :=
  TemplateLint.Terminal.run arguments
