import TemplateLint.Uri.File

/-!
# Documents

A document is a text under a URI, with the language that the editor gives it.  Positions count
lines and UTF-16 units.  Main exports: `Document`, `Document.localPath?`, `Document.fullRange`,
`Document.folderIn?`, `languageOfPath`.
-/

namespace TemplateLint

/-- A place in a text: a line, and UTF-16 units from its start, both from zero. -/
structure Position where
  line : Nat
  character : Nat
deriving DecidableEq, Repr

/-- The part of a text between two places. -/
structure Range where
  first : Position
  last : Position
deriving DecidableEq, Repr

/-- A text under a URI. -/
structure Document where
  uri : Uri
  languageId : String
  version : Option Int
  text : String
deriving DecidableEq, Repr

/-- The number of UTF-16 units of a character. -/
def units16 (c : Char) : Nat :=
  if 0xffff < c.toNat then 2 else 1

/-- The place after the characters, from a place before them. -/
def Position.after (start : Position) : List Char → Position
  | [] => start
  | c :: rest =>
      if c = '\n' then Position.after ⟨start.line + 1, 0⟩ rest
      else Position.after ⟨start.line, start.character + units16 c⟩ rest

/-- The place in 32 bits: what does not fit is cut off. -/
def Position.cut (place : Position) : Position :=
  ⟨place.line % 0x100000000, place.character % 0x100000000⟩

def endPosition (text : String) : Position :=
  (Position.after ⟨0, 0⟩ text.toList).cut

/-- The language that an editor would give to a file, by the extension of its name. -/
def languageOfExtension : String → String
  | "jinja" => "jinja"
  | "jinja2" => "jinja"
  | "j2" => "jinja"
  | "njk" => "nunjucks"
  | "nunjucks" => "nunjucks"
  | "hbs" => "handlebars"
  | "handlebars" => "handlebars"
  | "mustache" => "mustache"
  | "twig" => "twig"
  | _ => "html"

/-- The text with the letters of ASCII in lower case. -/
def lowerAscii (text : String) : String :=
  String.ofList (text.toList.map Char.toLower)

/-- The language of a file, by its path. -/
def languageOfPath (path : Path) : String :=
  match path.extension?.bind fun bytes => Utf8.decode? ⟨bytes.toArray⟩ with
  | some extension => languageOfExtension (lowerAscii extension)
  | none => "html"

namespace Document

/-- The document of a local file, whose path must be absolute. -/
def ofPath? (path : Path) (languageId : Option String) (text : String) : Option Document := do
  let uri ← Uri.ofPath? path
  some ⟨uri, languageId.getD (languageOfPath path), none, text⟩

/-- The local path, for a file. -/
def localPath? (document : Document) : Option Path :=
  if document.uri.scheme = "file" then document.uri.toPath? else none

def directory? (document : Document) : Option Path :=
  document.localPath?.bind Path.parent?

def fullRange (document : Document) : Range :=
  ⟨⟨0, 0⟩, endPosition document.text⟩

/-- Of two folders the one with more components, the later one when they have as many. -/
def deeper (best : Option Path) (folder : Path) : Option Path :=
  match best with
  | none => some folder
  | some other =>
      if other.components.length ≤ folder.components.length then some folder else some other

/-- The innermost of the folders that the document lies in. -/
def folderIn? (folders : List Path) (document : Document) : Option Path := do
  let path ← document.localPath?
  (folders.filter fun folder => path.StartsWith folder).foldl deeper none

end Document

end TemplateLint
