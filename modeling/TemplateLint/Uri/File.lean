import TemplateLint.Path
import TemplateLint.Uri.Basic
import TemplateLint.Uri.Percent

/-!
# Files as URIs

Between local paths and their URIs.  Main exports: `Uri.toPath?`, `Uri.ofPath?`.
-/

namespace TemplateLint.Uri

/-- The bytes end in a letter and a colon or a bar. -/
def endsInDrive (bytes : List UInt8) : Bool :=
  match bytes.reverse with
  | mark :: letter :: _ :: _ =>
      (mark == 0x3a || mark == 0x7c) && (Char.ofNat letter.toNat).isAlpha
  | _ => false

/-- The local path of the steps, with their escapes resolved; a drive at the end is a directory. -/
def stepsPath (names : List String) : Path :=
  let bytes := names.flatMap fun name => Path.separator :: Percent.decode (Utf8.encode name)
  ⟨if endsInDrive bytes then bytes ++ [Path.separator] else bytes⟩

/-- The local path that the URI denotes: it must have steps, and no host but this one. -/
def toPath? (uri : Uri) : Option Path :=
  match uri.route with
  | .plain _ => none
  | .steps [] => none
  | .steps names =>
      match uri.host? with
      | none => some (stepsPath names)
      | some host => if host = "localhost" then some (stepsPath names) else none

/-- The step that a component of an absolute path becomes. -/
def componentStep : Path.Component → Option String
  | .root => none
  | .here => none
  | .up => some ".."
  | .entry name => some (Percent.encodeBytes Percent.inStep name)

def ofPath? (path : Path) : Option Uri :=
  if path.isAbsolute then
    let names := path.components.filterMap componentStep
    some
      { scheme := "file"
        authority := some ⟨"", "", none⟩
        route := .steps (if names = [] then [""] else names)
        query := none
        fragment := none }
  else none

end TemplateLint.Uri
