import TemplateLint.Uri.Basic
import TemplateLint.Uri.Host

/-!
# Reading of URIs

A text is brought to the normal form of its scheme: blanks around it and line ends inside it are
dropped, the scheme and the host are lower-cased, dot steps are resolved, and reserved characters
are escaped.  Schemes with a web address and `file` also take backslashes for slashes.
Main export: `Uri.read`.
-/

namespace TemplateLint.Uri

/-- How much a scheme promises about what follows it. -/
inductive SchemeKind where
  /-- A local file. -/
  | file
  /-- A web address. -/
  | web
  /-- Anything else. -/
  | other
deriving DecidableEq, Repr

def SchemeKind.of (scheme : String) : SchemeKind :=
  if scheme = "file" then .file
  else if ["http", "https", "ws", "wss", "ftp"].contains scheme then .web
  else .other

/-- The port that a scheme uses unless told otherwise. -/
def usualPort? : String → Option Nat
  | "http" => some 80
  | "ws" => some 80
  | "https" => some 443
  | "wss" => some 443
  | "ftp" => some 21
  | _ => none

/-! ## The text as a whole -/

/-- A blank or a control character at either end. -/
def isEdge (c : Char) : Bool :=
  c.toNat ≤ 0x20

def significant (text : String) : List Char :=
  let inner := ((text.toList.dropWhile isEdge).reverse.dropWhile isEdge).reverse
  inner.filter fun c => !(c == '\t' || c == '\n' || c == '\r')

def isSchemeChar (c : Char) : Bool :=
  c.isAlphanum || c == '+' || c == '-' || c == '.'

/-- The scheme, and what follows its colon. -/
def scheme? (chars : List Char) : Option (String × List Char) :=
  let name := chars.takeWhile isSchemeChar
  match name, chars.drop name.length with
  | first :: _, ':' :: rest =>
      if first.isAlpha then some (String.ofList (name.map Char.toLower), rest) else none
  | _, _ => none

/-! ## Paths -/

def separates (kind : SchemeKind) (c : Char) : Bool :=
  c == '/' || (c == '\\' && kind != .other)

def endsPath (c : Char) : Bool :=
  c == '?' || c == '#'

/-- The parts between separators, empty ones included. -/
def splitSteps (kind : SchemeKind) : List Char → List (List Char)
  | [] => [[]]
  | c :: rest =>
      if separates kind c then [] :: splitSteps kind rest
      else
        match splitSteps kind rest with
        | [] => [[c]]
        | step :: steps => (c :: step) :: steps

/-- A written dot, plain or escaped, at the start of a step. -/
def dropDot? : List Char → Option (List Char)
  | '.' :: rest => some rest
  | '%' :: '2' :: 'e' :: rest => some rest
  | '%' :: '2' :: 'E' :: rest => some rest
  | _ => none

def isHere (step : List Char) : Bool :=
  dropDot? step == some []

def isUp (step : List Char) : Bool :=
  (dropDot? step).bind dropDot? == some []

/-- The step is a drive: a letter and a colon or a bar. -/
def isDrive (step : List Char) : Bool :=
  match step with
  | [letter, mark] => letter.isAlpha && (mark == ':' || mark == '|')
  | _ => false

/-- The steps before, nearest first, without the nearest one; a drive is never left. -/
def leave : List (List Char) → List (List Char)
  | [] => []
  | step :: above => if isDrive step then step :: above else above

/-- A step as it is kept: escaped, and a drive at the start of a file path with a colon. -/
def keep (kind : SchemeKind) (above : List (List Char)) (step : List Char) : List Char :=
  match step with
  | [letter, _] =>
      if kind = .file ∧ above = [] ∧ isDrive step then [letter, ':']
      else (Percent.encode Percent.inPath step).toList
  | step => (Percent.encode Percent.inPath step).toList

/-- Resolve the steps one after the other onto those before, nearest first. -/
def resolveSteps (kind : SchemeKind) (above : List (List Char)) :
    List (List Char) → List (List Char)
  | [] => above.reverse
  | [last] =>
      if isUp last then ([] :: leave above).reverse
      else if isHere last then ([] :: above).reverse
      else (keep kind above last :: above).reverse
  | step :: rest =>
      if isUp step then resolveSteps kind (leave above) rest
      else if isHere step then resolveSteps kind above rest
      else resolveSteps kind (keep kind above step :: above) rest

/-- Without the empty steps at the start, the last step apart. -/
def dropEmptySteps : List (List Char) → List (List Char)
  | [] :: next :: rest => dropEmptySteps (next :: rest)
  | steps => steps

/-- The steps of a path, and what follows the path. -/
def readSteps (kind : SchemeKind) (chars : List Char) : Route × List Char :=
  let path := chars.takeWhile fun c => !endsPath c
  let steps := resolveSteps kind [] (splitSteps kind path)
  let steps := if kind = .file then dropEmptySteps steps else steps
  (.steps (steps.map String.ofList), chars.drop path.length)

/-- The path after an authority: its first slash may be missing where there must be one. -/
def readPath (kind : SchemeKind) (chars : List Char) : Route × List Char :=
  match chars with
  | [] => if kind = .other then (.steps [], []) else readSteps kind []
  | c :: rest =>
      if separates kind c then readSteps kind rest
      else if kind = .other ∧ endsPath c then (.steps [], chars)
      else readSteps kind chars

/-! ## Query and fragment -/

/-- The URI with the query and the fragment that follow its path. -/
def withTail (kind : SchemeKind) (scheme : String) (authority : Option Authority)
    (route : Route × List Char) : Uri :=
  let (route, chars) := route
  let reserved := if kind = .other then Percent.inQuery else Percent.inSpecialQuery
  let (query, chars) := match chars with
    | '?' :: rest =>
        let query := rest.takeWhile (· ≠ '#')
        (some (Percent.encode reserved query), rest.drop query.length)
    | chars => (none, chars)
  let fragment := match chars with
    | '#' :: rest => some (Percent.encode Percent.inFragment rest)
    | _ => none
  { scheme, authority, route, query, fragment }

/-! ## Authorities -/

def endsAuthority (kind : SchemeKind) (c : Char) : Bool :=
  separates kind c || endsPath c

/-- What stands before the last `@` of an authority, and what follows it. -/
def splitUser (kind : SchemeKind) (chars : List Char) : Option (List Char × List Char) :=
  let authority := chars.takeWhile fun c => !endsAuthority kind c
  let host := (authority.reverse.takeWhile (· ≠ '@')).length
  if host = authority.length then none
  else
    let user := authority.length - host - 1
    some (chars.take user, chars.drop (user + 1))

/-- User name and password in their written form: an empty password takes its colon along. -/
def userText (user : List Char) : String :=
  let name := user.takeWhile (· ≠ ':')
  let escape := fun text => Percent.encode Percent.inUserInfo text
  match user.drop name.length with
  | [] => escape name
  | [_] => escape name
  | _ :: password => escape name ++ ":" ++ escape password

/-- The host ends where a colon stands outside brackets, or with the authority. -/
def takeHost (kind : SchemeKind) (inside : Bool) : List Char → List Char
  | [] => []
  | c :: rest =>
      if (c == ':' && !inside) || endsAuthority kind c then []
      else if c = '[' then c :: takeHost kind true rest
      else if c = ']' then c :: takeHost kind false rest
      else c :: takeHost kind inside rest

/-- The greatest port. -/
def greatestPort : Nat := 65535

/-- The port after its colon, and what follows it. -/
def readPort (scheme : String) (chars : List Char) :
    Except UriError (Option Nat × List Char) :=
  let digits := chars.takeWhile Char.isDigit
  let rest := chars.drop digits.length
  let port := Text.asciiNat? digits
  if (port.map fun value => decide (greatestPort < value)) = some true then .error .badPort
  else
    match rest with
    | [] => .ok (port.filter (some · ≠ usualPort? scheme), rest)
    | c :: _ =>
        if c == '/' || c == '\\' || endsPath c then
          .ok (port.filter (some · ≠ usualPort? scheme), rest)
        else .error .badPort

/-- The authority after its slashes, and what follows it. -/
def readAuthority (kind : SchemeKind) (scheme : String) (chars : List Char) :
    Except UriError (Authority × List Char) := do
  let (user, chars) ← match splitUser kind chars with
    | none => .ok ("", chars)
    | some ([], rest) =>
        match rest with
        | c :: _ => if endsAuthority kind c then .error .emptyHost else .ok ("", rest)
        | [] => .ok ("", rest)
    | some (user, rest) => .ok (userText user, rest)
  let text := takeHost kind false chars
  let rest := chars.drop text.length
  if kind = .web ∧ text = [] then .error .emptyHost
  else
    let host ← if kind = .other then Host.readPlain text else Host.read text
    match rest with
    | ':' :: afterColon =>
        if host = "" then .error .emptyHost
        else
          let (port, rest) ← readPort scheme afterColon
          .ok (⟨user, host, port⟩, rest)
    | rest =>
        if host = "" ∧ user ≠ "" then .error .emptyHost
        else .ok (⟨user, host, none⟩, rest)

/-! ## The three kinds of URI -/

/-- A local file has an empty authority unless it names a host other than this one. -/
def noHost : Authority := ⟨"", "", none⟩

/-- The host of a file and its path, after two slashes. -/
def readFileHost (chars : List Char) : Except UriError (Authority × Route × List Char) := do
  let text := chars.takeWhile fun c => !endsAuthority .file c
  let rest := chars.drop text.length
  if isDrive text then .ok (noHost, readSteps .file chars)
  else if text = [] then .ok (noHost, readSteps .file rest)
  else
    let host ← Host.read text
    if host = "localhost" then .ok (noHost, readSteps .file rest)
    else
      let startsWithDrive := match rest with
        | _ :: path => isDrive (path.takeWhile fun c => !endsAuthority .file c)
        | [] => false
      .ok (if startsWithDrive then noHost else ⟨"", host, none⟩, readPath .file rest)

def readFile (chars : List Char) : Except UriError Uri := do
  match chars with
  | first :: second :: rest =>
      if separates .file first && separates .file second then
        let (authority, route) ← readFileHost rest
        .ok (withTail .file "file" (some authority) route)
      else .ok (withTail .file "file" (some noHost) (readPath .file chars))
  | _ => .ok (withTail .file "file" (some noHost) (readPath .file chars))

/-- A web address after its scheme; any number of slashes may come first. -/
def readWeb (scheme : String) (chars : List Char) : Except UriError Uri := do
  let (authority, rest) ← readAuthority .web scheme (chars.dropWhile (separates .web))
  .ok (withTail .web scheme (some authority) (readPath .web rest))

def readOther (scheme : String) (chars : List Char) : Except UriError Uri := do
  match chars with
  | '/' :: '/' :: rest =>
      let (authority, rest) ← readAuthority .other scheme rest
      .ok (withTail .other scheme (some authority) (readPath .other rest))
  | '/' :: rest => .ok (withTail .other scheme none (readSteps .other rest))
  | chars =>
      let path := chars.takeWhile fun c => !endsPath c
      let route := Route.plain (Percent.encode Percent.isControl path)
      .ok (withTail .other scheme none (route, chars.drop path.length))

def read (text : String) : Except UriError Uri :=
  match scheme? (significant text) with
  | none => .error .relative
  | some (scheme, rest) =>
      match SchemeKind.of scheme with
      | .file => readFile rest
      | .web => readWeb scheme rest
      | .other => readOther scheme rest

end TemplateLint.Uri
