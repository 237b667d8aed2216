import TemplateLint.Cli.Help
import TemplateLint.Cli.Style
import TemplateLint.Host
import TemplateLint.Settings.File
import TemplateLint.Suppression.Store

/-!
# Running requests

Formatting and linting first read the settings, then every source, and only then run the tool on
one source after the other.  The first failure ends the run; what was done before it stands.
Main exports: `Cli.Answer`, `Cli.Session`, `Cli.loadSettings`, `Cli.readSources`, `Cli.format`,
`Cli.lint`, `Cli.run`.
-/

namespace TemplateLint.Cli

/-- What a finished program leaves behind. -/
structure Answer where
  exitCode : Nat
  stdout : String
  stderr : String
deriving DecidableEq, Repr

/-- Nothing was found wrong. -/
def success : Nat := 0

/-- Problems were found, or files that would change. -/
def problemsFound : Nat := 1

/-- Something failed. -/
def toolError : Nat := 2

/-- What a run of the command line is given besides its arguments. -/
structure Session where
  host : Host
  coloured : Bool
  /-- The text of the standard input; none when its bytes are not UTF-8. -/
  stdin : Option String

/-- Why a request failed. -/
inductive Problem where
  | settings (error : SettingsError)
  | unreadable (path : String) (reason : IoError)
  | unreadableInput (reason : IoError)
  | noUri (path : String)
  | tool (failure : Failure)
  | unwritable (reason : IoError)

/-- The wording of a failure: causes of a cause are told after it. -/
def Problem.message : Problem → String
  | settings (.unreadable file reason) =>
      (SettingsError.unreadable file reason).message ++ ": " ++ reason.message
  | settings error => error.message
  | unreadable path reason => "Failed to read " ++ path ++ ": " ++ reason.message
  | unreadableInput reason => "Failed to read from stdin: " ++ reason.message
  | noUri path => "Cannot build a file URI for " ++ path
  | tool (.spawn program reason) =>
      (Failure.spawn program reason).message ++ ": " ++ reason.message
  | tool failure => failure.message
  | unwritable reason => reason.message

def errorLine (coloured : Bool) (message : String) : String :=
  Style.apply coloured .boldRed "Error" ++ ": " ++ message ++ "\n"

/-! ## Settings and sources -/

def currentDirectory (disk : Disk) : Path :=
  Location.toPath disk.workDir

/-- The settings: the standard ones, then the settings file, then the named interpreter, which also
keeps the active environment out. -/
def loadSettings (disk : Disk) (config python : Option String) :
    Except SettingsError Settings := do
  let file := match config with
    | some path => some (Path.ofString path)
    | none => Settings.discover? disk (currentDirectory disk)
  let settings ← match file with
    | none => .ok Settings.standard
    | some file => do
        let layer ← Settings.load disk file
        .ok (Settings.standard.merged layer)
  .ok <| match python with
    | none => settings
    | some python => (settings.set "pythonPath" (.text python)).set "useVenv" (.bool false)

/-- A template to work on. -/
structure Source where
  /-- The name shown in messages. -/
  name : String
  /-- The file to write back to; none for the standard input. -/
  file : Option Path
  document : Document

/-- The URI of the standard input. -/
def stdinUri : Uri := ⟨"untitled", none, .plain "stdin", none, none⟩

def stdinSource (languageId : Option String) (text : String) : Source :=
  ⟨"<stdin>", none, ⟨stdinUri, languageId.getD "html", none, text⟩⟩

def fileSource (disk : Disk) (languageId : Option String) (path : String) :
    Except Problem Source := do
  let absolute := (currentDirectory disk).child path
  match disk.readText absolute with
  | .error reason => .error (.unreadable path reason)
  | .ok text =>
      match Document.ofPath? absolute languageId text with
      | none => .error (.noUri path)
      | some document => .ok ⟨path, some absolute, document⟩

/-- Read every source; `-` is the standard input, of which nothing is left after the first time. -/
def readSources (disk : Disk) (languageId : Option String) (stdin : Option String) :
    List String → Except Problem (List Source)
  | [] => .ok []
  | path :: rest =>
      if path = "-" then
        match stdin with
        | none => .error (.unreadableInput .notText)
        | some text => do
            let others ← readSources disk languageId (some "") rest
            .ok (stdinSource languageId text :: others)
      else do
        let source ← fileSource disk languageId path
        let others ← readSources disk languageId stdin rest
        .ok (source :: others)

def prepare (session : Session) (sources : Sources) (disk : Disk) :
    Except Problem (Settings × List Source) := do
  let settings ← (loadSettings disk sources.config sources.python).mapError Problem.settings
  let read ← readSources disk sources.languageId session.stdin sources.paths
  .ok (settings, read)

def Source.invocation (source : Source) (settings : Settings) : Invocation :=
  ⟨source.document, settings, none, none⟩

/-! ## Formatting -/

/-- How far a run has come: what it printed, and how many changes or problems there were. -/
structure Progress where
  stdout : String
  count : Nat
deriving Repr

/-- Deliver the formatted text of a source: the text itself for the standard input, a changed file
otherwise; with `check` only the news that there is a change. -/
def deliver (coloured check : Bool) (source : Source) (formatted : String) (progress : Progress)
    (disk : Disk) : Except IoError (Progress × Disk) :=
  let changed := formatted ≠ source.document.text
  let count := if changed then progress.count + 1 else progress.count
  let report := fun (style : Style) (verb : String) =>
    progress.stdout ++ Style.apply coloured style verb ++ " " ++ source.name ++ "\n"
  if check then
    .ok (⟨if changed then report .yellow "Would reformat" else progress.stdout, count⟩, disk)
  else
    match source.file with
    | none => .ok (⟨progress.stdout ++ formatted, count⟩, disk)
    | some file =>
        if changed then do
          let disk ← disk.write file formatted.toUTF8
          .ok (⟨report .green "Reformatted", count⟩, disk)
        else .ok (progress, disk)

/-- Format one source after the other, up to the first failure. -/
def formatSources (session : Session) (check : Bool) (settings : Settings)
    (progress : Progress) (world : World) :
    List Source → (Progress × Option Problem) × World
  | [] => ((progress, none), world)
  | source :: rest =>
      match session.host.formatText .active (source.invocation settings) world with
      | (.error failure, world) => ((progress, some (.tool failure)), world)
      | (.ok formatted, world) =>
          match deliver session.coloured check source formatted progress world.disk with
          | .error reason => ((progress, some (.unwritable reason)), world)
          | .ok (progress, disk) =>
              formatSources session check settings progress { world with disk } rest

def failed (session : Session) (stdout : String) (problem : Problem) : Answer :=
  ⟨toolError, stdout, errorLine session.coloured problem.message⟩

def formatAnswer (session : Session) (check : Bool) : Progress × Option Problem → Answer
  | (progress, some problem) => failed session progress.stdout problem
  | (progress, none) =>
      if check ∧ 0 < progress.count then
        ⟨problemsFound, progress.stdout,
          String.ofList (Text.decimal progress.count) ++ " file(s) would be reformatted\n"⟩
      else ⟨success, progress.stdout, ""⟩

def format (session : Session) (sources : Sources) (check : Bool) (world : World) :
    Answer × World :=
  match prepare session sources world.disk with
  | .error problem => (failed session "" problem, world)
  | .ok (settings, read) =>
      let (result, world) := formatSources session check settings ⟨"", 0⟩ world read
      (formatAnswer session check result, world)

/-! ## Linting -/

/-- The line that tells a problem, with the line counted from one as the tool does. -/
def problemLine (coloured : Bool) (source : Source) (problem : TemplateLint.Problem) : String :=
  Style.apply coloured .bold source.name ++ ":" ++
    String.ofList (Text.decimal (problem.line + 1)) ++ ":" ++
    String.ofList (Text.decimal problem.column) ++ ": " ++
    Style.apply coloured .red problem.code ++ " " ++ problem.message ++ "\n"

/-- Lint one source after the other, up to the first failure. -/
def lintSources (session : Session) (settings : Settings) (progress : Progress) (world : World) :
    List Source → (Progress × Option Problem) × World
  | [] => ((progress, none), world)
  | source :: rest =>
      match session.host.lintProblems .active (source.invocation settings) world with
      | (.error failure, world) => ((progress, some (.tool failure)), world)
      | (.ok problems, world) =>
          let lines := String.join (problems.map (problemLine session.coloured source))
          lintSources session settings
            ⟨progress.stdout ++ lines, progress.count + problems.length⟩ world rest

def lintAnswer (session : Session) : Progress × Option Problem → Answer
  | (progress, some problem) => failed session progress.stdout problem
  | (progress, none) =>
      if progress.count = 0 then ⟨success, progress.stdout, ""⟩
      else
        ⟨problemsFound, progress.stdout,
          "Found " ++ String.ofList (Text.decimal progress.count) ++ " problem(s)\n"⟩

def lint (session : Session) (sources : Sources) (world : World) : Answer × World :=
  match prepare session sources world.disk with
  | .error problem => (failed session "" problem, world)
  | .ok (settings, read) =>
      let (result, world) := lintSources session settings ⟨"", 0⟩ world read
      (lintAnswer session result, world)

/-! ## Everything else -/

/-- The version of the program. -/
def versionNumber : String := "0.1.0"

/-- The name of the program with its version. -/
def versionText : String := "djlint-ls " ++ versionNumber ++ "\n"

def shellList : String :=
  "Available shells:\n" ++ String.join (Shell.all.map fun shell => "  " ++ shell.name ++ "\n")

def completions (session : Session) (shell : Option Shell) (list : Bool) : Answer :=
  if list then ⟨success, shellList, ""⟩
  else
    match shell.or (Shell.ofVariables? session.host.environ) with
    | some shell => ⟨success, shell.script, ""⟩
    | none =>
        ⟨toolError, "",
          errorLine session.coloured
            "Could not detect shell from $SHELL, pass one explicitly (e.g. \x60djlint-ls completions bash\x60)"⟩

/-- What is to be done after a command line has been read. -/
inductive Action where
  | finish (answer : Answer)
  /-- Serve an editor, with the settings file if one is named. -/
  | serve (config : Option Path) (port : Option Nat)

/-- Serve, unless the named settings file is missing. -/
def serve (session : Session) (disk : Disk) (config : Option String) (port : Option Nat) : Action :=
  match config with
  | none => .serve none port
  | some path =>
      if disk.isFile (Path.ofString path) then .serve (some (Path.ofString path)) port
      else
        .finish ⟨toolError, "",
          errorLine session.coloured ("Configuration file not found: " ++ path)⟩

def runRequest (session : Session) (request : Request) (world : World) : Action × World :=
  match request with
  | .serve config port => (serve session world.disk config port, world)
  | .format sources check =>
      let (answer, world) := format session sources check world
      (.finish answer, world)
  | .lint sources =>
      let (answer, world) := lint session sources world
      (.finish answer, world)
  | .completions shell list => (.finish (completions session shell list), world)
  | .version => (.finish ⟨success, versionText, ""⟩, world)

def run (session : Session) (arguments : List String) (world : World) : Action × World :=
  match parse arguments with
  | .request request => runRequest session request world
  | .usage => (.finish ⟨toolError, "", usageText⟩, world)
  | .help command => (.finish ⟨success, helpText command, ""⟩, world)
  | .noCommand => (.finish ⟨toolError, "", helpText none⟩, world)

end TemplateLint.Cli
