import TemplateLint.Disk

/-!
# Programs

What is asked of a program that is to be started, where its file is found, and how its run ended.
Main exports: `Command`, `Launch`, `Outcome`, `Command.launch`.
-/

namespace TemplateLint

/-- Environment variables. -/
abbrev Variables := List (String × String)

def Variables.get? (environ : Variables) (name : String) : Option String :=
  (environ.find? fun pair => pair.1 = name).map Prod.snd

/-- The value of an environment variable that is set to something. -/
def Variables.nonEmpty? (environ : Variables) (name : String) : Option String :=
  (Variables.get? environ name).filter (· ≠ "")

/-- A program to start, with everything that it is given. -/
structure Command where
  program : Path
  arguments : List String
  directory : Option Path
  input : String
deriving Repr, DecidableEq

/-- A program that has been started: the file that was found, and what it was given. -/
structure Launch where
  file : Path
  arguments : List String
  directory : Location
  input : String
deriving Repr, DecidableEq

/-- How a run ended. -/
inductive Ending where
  | exited (code : Nat)
  | killed (signal : Nat)
deriving Repr, DecidableEq

/-- The exit code; none when the program was killed. -/
def Ending.code? : Ending → Option Nat
  | .exited code => some code
  | .killed _ => none

/-- A finished run: all that the program printed, and how it ended. -/
structure Outcome where
  stdout : ByteArray
  stderr : ByteArray
  ending : Ending

/-- The program ended by itself and with exit code zero. -/
def Outcome.success (outcome : Outcome) : Bool :=
  outcome.ending == .exited 0

namespace Location

def toPath (location : Location) : Path :=
  if location = [] then ⟨[Path.separator]⟩
  else ⟨location.flatMap fun name => Path.separator :: name⟩

end Location

namespace Disk

/-- The path denotes a file that may be started, or the reason why not. -/
def executable (disk : Disk) (path : Path) : Except IoError Unit := do
  match ← disk.lookup path with
  | .directory => .error .denied
  | .file _ true => .ok ()
  | .file _ false => .error .denied

/-- The first directory of a search path that holds a program to start.  A file that may not be
started is passed over, and is the reason given when none is found. -/
def search (disk : Disk) (name : Path) (reason : IoError) (refused : Bool) :
    List Path → Except IoError Path
  | [] => .error (if refused then .denied else reason)
  | directory :: rest =>
      let candidate := directory.join name
      match disk.executable candidate with
      | .ok _ => .ok candidate
      | .error (.system 13) => disk.search name reason true rest
      | .error (.system 2) => disk.search name .missing refused rest
      | .error (.system 20) => disk.search name .notDirectory refused rest
      | .error other => .error other

end Disk

namespace Command

/-- Where programs are looked for when no search path is set. -/
def defaultSearchPath : String := "/bin:/usr/bin"

def searchPath (environ : Variables) : List Path :=
  let text := (Variables.get? environ "PATH").getD defaultSearchPath
  (text.splitOn ":").map Path.ofString

def holdsZero (text : String) : Bool :=
  text.toList.contains '\x00'

/-- Some part of the command cannot be handed to the system. -/
def hasZero (command : Command) : Bool :=
  command.program.bytes.contains 0 || command.arguments.any holdsZero ||
    (command.directory.map fun path => path.bytes.contains 0).getD false

/-- The directory in which the program is to run. -/
def startDirectory (disk : Disk) (command : Command) : Except IoError Location := do
  match command.directory with
  | none => .ok disk.workDir
  | some path =>
      let location ← disk.resolve path
      disk.enter location
      .ok location

/-- Start the program: the directory is entered first, and a name without a separator is looked
for in the search path. -/
def launch (disk : Disk) (environ : Variables) (command : Command) :
    Except IoError Launch := do
  if command.hasZero then .error .zeroInCommand
  else
    let directory ← command.startDirectory disk
    let disk := { disk with workDir := directory }
    let file ←
      if command.program.bytes.contains Path.separator then do
        disk.executable command.program
        .ok command.program
      else if command.program.bytes = [] then .error .missing
      else disk.search command.program .missing false (searchPath environ)
    .ok ⟨file, command.arguments, directory, command.input⟩

end Command

end TemplateLint
