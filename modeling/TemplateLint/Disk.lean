import TemplateLint.IoError
import TemplateLint.Path

/-!
# Files

A file tree as one process sees it: directories and files under their names from the root, and the
directory that relative paths start from.  Reading changes nothing; each change answers with the
new tree, unless the system refuses it.  Main exports: `Disk`, `Disk.resolve`, `Disk.readText`,
`Disk.write`, `Disk.createDirectories`, `Disk.removeTree`.
-/

namespace TemplateLint

/-- What stands under a name. -/
inductive Entry where
  | directory
  | file (content : ByteArray) (executable : Bool)
deriving Inhabited

/-- The names of the steps from the root. -/
abbrev Location := List (List UInt8)

/-- A file tree and the current directory. -/
structure Disk where
  entries : List (Location × Entry)
  workDir : Location
  /-- Why the system lets nothing be changed at a location, if it does not: what stands there may be
  protected, or there may be no room for more. -/
  refuses : Location → Option IoError
deriving Inhabited

namespace Disk

/-- The tree that holds nothing but its root, and may be changed everywhere. -/
def empty : Disk := ⟨[], [], fun _ => none⟩

/-- The entry at a location; the root is a directory. -/
def entryAt? (disk : Disk) (location : Location) : Option Entry :=
  if location = [] then some .directory
  else (disk.entries.find? fun pair => pair.1 = location).map Prod.snd

/-- Put an entry at a location, in the place of the old one. -/
def put (disk : Disk) (location : Location) (entry : Entry) : Disk :=
  { disk with
    entries := (location, entry) :: disk.entries.filter fun pair => pair.1 ≠ location }

/-- The location is a directory, or the reason why it cannot be entered. -/
def enter (disk : Disk) (location : Location) : Except IoError Unit :=
  match disk.entryAt? location with
  | some .directory => .ok ()
  | some (.file ..) => .error .notDirectory
  | none => .error .missing

/-- The longest name that an entry may have. -/
def nameLimit : Nat := 255

/-- The longest path that may be used. -/
def pathLimit : Nat := 4095

/-- Follow one component; whatever is followed further must be a directory. -/
def step (disk : Disk) (location : Location) : Path.Component → Except IoError Location
  | .root => .ok []
  | .here => .ok location
  | .up => do
      disk.enter location
      .ok location.dropLast
  | .entry name => do
      disk.enter location
      if nameLimit < name.length then .error .nameTooLong
      else .ok (location ++ [name])

/-- The location that a path denotes, whether or not something is there. -/
def resolve (disk : Disk) (path : Path) : Except IoError Location :=
  if path.bytes.contains 0 then .error .zeroInPath
  else if path.bytes = [] then .error .missing
  else if pathLimit < path.bytes.length then .error .nameTooLong
  else path.components.foldlM disk.step disk.workDir

/-- The path ends in a separator or a dot, so that it can only denote a directory. -/
def wantsDirectory (path : Path) : Bool :=
  match (Path.splitSeparators path.bytes).getLast? with
  | some [] => true
  | some part => part == [Path.dot]
  | none => false

def lookup (disk : Disk) (path : Path) : Except IoError Entry := do
  let location ← disk.resolve path
  match disk.entryAt? location with
  | none => .error .missing
  | some .directory => .ok .directory
  | some entry => if wantsDirectory path then .error .notDirectory else .ok entry

def isFile (disk : Disk) (path : Path) : Bool :=
  match disk.lookup path with
  | .ok (.file ..) => true
  | _ => false

def isDirectory (disk : Disk) (path : Path) : Bool :=
  match disk.lookup path with
  | .ok .directory => true
  | _ => false

def isPresent (disk : Disk) (path : Path) : Bool :=
  match disk.lookup path with
  | .ok _ => true
  | .error _ => false

def readBytes (disk : Disk) (path : Path) : Except IoError ByteArray := do
  match ← disk.lookup path with
  | .directory => .error .isDirectory
  | .file content _ => .ok content

def readText (disk : Disk) (path : Path) : Except IoError String := do
  let content ← disk.readBytes path
  match Utf8.decode? content with
  | some text => .ok text
  | none => .error .notText

/-- What the system does not refuse may be changed. -/
def permit (disk : Disk) (location : Location) : Except IoError Unit :=
  match disk.refuses location with
  | some reason => .error reason
  | none => .ok ()

/-- Write a file anew; an existing file keeps its permissions. -/
def write (disk : Disk) (path : Path) (content : ByteArray) : Except IoError Disk := do
  let location ← disk.resolve path
  match disk.entryAt? location with
  | some .directory => .error .isDirectory
  | some (.file _ executable) =>
      if wantsDirectory path then .error .notDirectory
      else do
        disk.permit location
        .ok (disk.put location (.file content executable))
  | none =>
      if wantsDirectory path then .error .isDirectory
      else do
        disk.permit location
        .ok (disk.put location (.file content false))

def createDirectory (disk : Disk) (path : Path) : Except IoError Disk := do
  let location ← disk.resolve path
  match disk.entryAt? location with
  | some _ => .error .alreadyThere
  | none => do
      disk.permit location
      .ok (disk.put location .directory)

/-- Make the first directory of a list of ancestors, and first those above it if they are
missing. -/
def createFrom (disk : Disk) : List Path → Except IoError Disk
  | [] => .error .missing
  | path :: above =>
      if path.bytes = [] then .ok disk
      else
        match disk.createDirectory path with
        | .ok created => .ok created
        | .error (.system 2) => do
            let disk ← disk.createFrom above
            disk.createDirectory path
        | .error reason => if disk.isDirectory path then .ok disk else .error reason

/-- Make a directory and those above it that are missing. -/
def createDirectories (disk : Disk) (path : Path) : Except IoError Disk :=
  disk.createFrom path.ancestors

def removeTree (disk : Disk) (path : Path) : Except IoError Disk := do
  let location ← disk.resolve path
  disk.enter location
  disk.permit location
  .ok { disk with entries := disk.entries.filter fun pair => !location.isPrefixOf pair.1 }

def erase (disk : Disk) (location : Location) : Disk :=
  { disk with entries := disk.entries.filter fun pair => !location.isPrefixOf pair.1 }

/-- The non-empty prefixes of a location, the location itself last. -/
def prefixes (location : Location) : List Location :=
  (List.range location.length).map fun count => location.take (count + 1)

/-- Put an entry at a location together with the directories above it, whatever stood there. -/
def install (disk : Disk) (location : Location) (entry : Entry) : Disk :=
  let directories := (prefixes location).dropLast
  let disk := directories.foldl (fun disk above =>
    match disk.entryAt? above with
    | some .directory => disk
    | _ => disk.put above .directory) disk
  disk.put location entry

theorem entryAt?_put (disk : Disk) (location other : Location) (entry : Entry)
    (proper : location ≠ []) :
    (disk.put location entry).entryAt? other =
      if other = location then some entry else disk.entryAt? other := by
  by_cases root : other = []
  · subst root
    simp [entryAt?, proper.symm]
  · by_cases same : other = location
    · subst same
      simp [entryAt?, put, root]
    · have swapped : ¬ location = other := fun equality => same equality.symm
      simp only [entryAt?, put, root, same, if_false, List.find?_cons, swapped, decide_false]
      congr 1
      rw [List.find?_filter]
      congr 1
      funext pair
      by_cases here : pair.1 = other
      · simp [here, same]
      · simp [here]

end Disk

end TemplateLint
