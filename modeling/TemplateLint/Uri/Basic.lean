import TemplateLint.Text.Digit

/-!
# URIs

A URI in its normal form, and its text.  Two URIs are the same when their normal forms are.
Main exports: `Uri`, `Uri.text`.
-/

namespace TemplateLint

/-- Who is addressed: user name and password as written before the `@`, host, and a port other than
the usual one. -/
structure Authority where
  userInfo : String
  host : String
  port : Option Nat
deriving DecidableEq, Repr

/-- What follows the authority. -/
inductive Route where
  /-- A text without structure. -/
  | plain (text : String)
  /-- Steps, each after a slash. -/
  | steps (names : List String)
deriving DecidableEq, Repr

/-- A URI in its normal form. -/
structure Uri where
  scheme : String
  authority : Option Authority
  route : Route
  query : Option String
  fragment : Option String
deriving DecidableEq, Repr

namespace Uri

def authorityText (authority : Authority) : String :=
  let user := if authority.userInfo = "" then "" else authority.userInfo ++ "@"
  let port := match authority.port with
    | none => ""
    | some port => ":" ++ String.ofList (Text.decimal port)
  "//" ++ user ++ authority.host ++ port

/-- The steps, each after a slash. -/
def stepsText (names : List String) : String :=
  String.join (names.map ("/" ++ ·))

/-- The route; without an authority it must not start like one. -/
def routeText (uri : Uri) : String :=
  match uri.route with
  | .plain text => text
  | .steps names =>
      match uri.authority, names with
      | none, "" :: _ :: _ => "/." ++ stepsText names
      | _, _ => stepsText names

def text (uri : Uri) : String :=
  let authority := match uri.authority with
    | none => ""
    | some authority => authorityText authority
  let query := match uri.query with
    | none => ""
    | some query => "?" ++ query
  let fragment := match uri.fragment with
    | none => ""
    | some fragment => "#" ++ fragment
  uri.scheme ++ ":" ++ authority ++ uri.routeText ++ query ++ fragment

/-- The host; an empty one is none. -/
def host? (uri : Uri) : Option String :=
  (uri.authority.map Authority.host).filter (· ≠ "")

end Uri

end TemplateLint
