import TemplateLint.Text.Utf8

/-!
# File paths

A path is the text it was given as, in bytes.  Comparison works on its components: repeated
separators, single dots and a trailing separator do not count, double dots do.
Main exports: `Path.components`, `Path.parent?`, `Path.ancestors`, `Path.join`, `Path.Same`,
`Path.StartsWith`.
-/

namespace TemplateLint

/-- A path as it was given. -/
structure Path where
  bytes : List UInt8
deriving DecidableEq, Repr, Inhabited

namespace Path

/-- The byte that separates components. -/
def separator : UInt8 := 0x2f

/-- The byte that begins a file extension. -/
def dot : UInt8 := 0x2e

/-- One step of a path. -/
inductive Component where
  /-- The root directory. -/
  | root
  /-- The directory itself, at the start of a relative path. -/
  | here
  /-- The directory above. -/
  | up
  /-- The entry of that name. -/
  | entry (name : List UInt8)
deriving DecidableEq, Repr

def ofString (text : String) : Path :=
  ⟨Utf8.encode text⟩

def display (path : Path) : String :=
  Utf8.display path.bytes

def isAbsolute (path : Path) : Bool :=
  path.bytes.head? == some separator

/-- The parts of the bytes between separators, empty ones included. -/
def splitSeparators : List UInt8 → List (List UInt8)
  | [] => [[]]
  | byte :: rest =>
      if byte = separator then [] :: splitSeparators rest
      else
        match splitSeparators rest with
        | [] => [[byte]]
        | part :: parts => (byte :: part) :: parts

/-- The component that a part between separators denotes, if any. -/
def component? (part : List UInt8) : Option Component :=
  if part = [] then none
  else if part = [dot] then none
  else if part = [dot, dot] then some .up
  else some (.entry part)

def components (path : Path) : List Component :=
  let parts := splitSeparators path.bytes
  let start : List Component :=
    if path.isAbsolute then [.root]
    else if parts.head? = some [dot] then [.here] else []
  start ++ parts.filterMap component?

def Same (left right : Path) : Prop :=
  left.components = right.components

instance (left right : Path) : Decidable (Same left right) :=
  inferInstanceAs (Decidable (left.components = right.components))

/-- The path lies in the folder, or is the folder. -/
def StartsWith (path folder : Path) : Prop :=
  folder.components <+: path.components

instance (path folder : Path) : Decidable (path.StartsWith folder) :=
  inferInstanceAs (Decidable (folder.components <+: path.components))

/-- The path continued by another one, which replaces it when absolute. -/
def join (path next : Path) : Path :=
  if next.isAbsolute then next
  else if path.bytes = [] then next
  else if path.bytes.getLast? = some separator then ⟨path.bytes ++ next.bytes⟩
  else ⟨path.bytes ++ separator :: next.bytes⟩

/-- The entry of the given name in the directory. -/
def child (path : Path) (name : String) : Path :=
  path.join (ofString name)

/-! ## The directory above -/

/-- The reversed bytes of a path, from its last component on: separators and dots that denote
nothing are dropped, and `body` counts the bytes that no component may take. -/
def trimEnd (body : Nat) : List UInt8 → List UInt8
  | [] => []
  | byte :: rest =>
      if (byte :: rest).length ≤ body then byte :: rest
      else if byte = separator then trimEnd body rest
      else if byte = dot then
        match rest with
        | [] => []
        | next :: _ =>
            if next = separator ∨ rest.length ≤ body then trimEnd body rest else byte :: rest
      else byte :: rest

/-- The reversed bytes without the last component. -/
def dropName (body : Nat) : List UInt8 → List UInt8
  | [] => []
  | byte :: rest =>
      if (byte :: rest).length ≤ body then byte :: rest
      else if byte = separator then byte :: rest
      else dropName body rest

/-- The bytes at the start that are no part of a name: the root, or a leading dot. -/
def bodyStart (path : Path) : Nat :=
  if path.isAbsolute then 1
  else if (splitSeparators path.bytes).head? = some [dot] then 1 else 0

/-- The path without its last component and the separators around it; none for the root and for
the empty path. -/
def parent? (path : Path) : Option Path :=
  let body := path.bodyStart
  let trimmed := trimEnd body path.bytes.reverse
  if trimmed.length ≤ body then
    if path.isAbsolute || trimmed.isEmpty then none else some ⟨[]⟩
  else some ⟨(trimEnd body (dropName body trimmed)).reverse⟩

/-- The path and the directories above it, `fuel` of them at most, nearest first. -/
def ancestorsFrom (path : Path) : Nat → List Path
  | 0 => [path]
  | fuel + 1 =>
      match path.parent? with
      | some parent => path :: parent.ancestorsFrom fuel
      | none => [path]

/-- The path and all directories above it, nearest first. -/
def ancestors (path : Path) : List Path :=
  path.ancestorsFrom path.bytes.length

/-! ## Names -/

/-- The name of the entry that the path ends in. -/
def fileName? (path : Path) : Option (List UInt8) :=
  match path.components.getLast? with
  | some (.entry name) => some name
  | _ => none

/-- What stands after the last dot of a reversed name, when something stands before it. -/
def extensionOf (name : List UInt8) : Option (List UInt8) :=
  let reversed := name.reverse
  let after := reversed.takeWhile (· != dot)
  match reversed.drop after.length with
  | [] => none
  | [_] => none
  | _ :: _ => some after.reverse

/-- What stands before the last dot of a name, or the whole name when nothing would be left. -/
def stemOf (name : List UInt8) : List UInt8 :=
  match extensionOf name with
  | none => name
  | some extension => name.take (name.length - extension.length - 1)

/-- The name of the entry that the path ends in, without its extension. -/
def stem? (path : Path) : Option (List UInt8) :=
  path.fileName?.map stemOf

/-- The extension of the entry that the path ends in. -/
def extension? (path : Path) : Option (List UInt8) :=
  path.fileName?.bind extensionOf

end Path

end TemplateLint
