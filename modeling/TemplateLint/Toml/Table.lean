import TemplateLint.Json.Value

/-!
# Tables of TOML

A document builds one tree of tables.  Each table remembers how it came about, because a header may
define a table only once and a dotted key may extend only what dotted keys began.
Main exports: `Toml.Node`, `Toml.assign?`, `Toml.define?`, `Toml.append?`, `Toml.toMembers`.
-/

namespace TemplateLint.Toml

/-- How a table came about. -/
inductive Mark where
  /-- It lies above a table that a header defined. -/
  | implied
  /-- Dotted keys began it. -/
  | dotted
  /-- A header defined it. -/
  | defined
deriving DecidableEq, Repr

/-- What stands under a key. -/
inductive Node where
  | leaf (value : Json)
  | table (mark : Mark) (members : List (String × Node))
  /-- Tables that headers appended, the last one first. -/
  | series (last : List (String × Node)) (before : List (List (String × Node)))
deriving Inhabited

/-- The members of a table. -/
abbrev Table := List (String × Node)

def Table.find? (table : Table) (key : String) : Option Node :=
  (List.find? (fun pair => pair.1 = key) table).map Prod.snd

/-- Put a node under a key, in the place of the old one if there is one. -/
def Table.set (key : String) (node : Node) : Table → Table
  | [] => [(key, node)]
  | (name, old) :: rest =>
      if name = key then (name, node) :: rest else (name, old) :: Table.set key node rest

/-- Put a value under a dotted key; every key may be given once. -/
def assign? (value : Json) : List String → Table → Option Table
  | [], _ => none
  | [key], table =>
      match table.find? key with
      | some _ => none
      | none => some (table.set key (.leaf value))
  | key :: next :: rest, table =>
      match table.find? key with
      | none => do
          let inner ← assign? value (next :: rest) []
          some (table.set key (.table .dotted inner))
      | some (.table .dotted members) => do
          let inner ← assign? value (next :: rest) members
          some (table.set key (.table .dotted inner))
      | some (.table .implied members) =>
          if rest = [] then none
          else do
            let inner ← assign? value (next :: rest) members
            some (table.set key (.table .implied inner))
      | some _ => none

/-- Change the table at the end of a header's path; tables missing on the way are implied, and a
series is entered at its last table. -/
def change? (edit : Table → Option Table) : List String → Table → Option Table
  | [], table => edit table
  | key :: rest, table =>
      match table.find? key with
      | none => do
          let inner ← change? edit rest []
          some (table.set key (.table .implied inner))
      | some (.table mark members) => do
          let inner ← change? edit rest members
          some (table.set key (.table mark inner))
      | some (.series last before) => do
          let inner ← change? edit rest last
          some (table.set key (.series inner before))
      | some (.leaf _) => none

def define? (path : List String) (key : String) (root : Table) : Option Table :=
  change? (fun table =>
    match table.find? key with
    | none => some (table.set key (.table .defined []))
    | some (.table .implied members) => some (table.set key (.table .defined members))
    | some _ => none) path root

def append? (path : List String) (key : String) (root : Table) : Option Table :=
  change? (fun table =>
    match table.find? key with
    | none => some (table.set key (.series [] []))
    | some (.series last before) => some (table.set key (.series [] (last :: before)))
    | some _ => none) path root

mutual

def Node.toJson : Node → Json
  | .leaf value => value
  | .table _ members => .object (toMembers members)
  | .series last before => .array (toItems before ++ [.object (toMembers last)])

def toMembers : List (String × Node) → Members
  | [] => []
  | (key, node) :: rest => (key, node.toJson) :: toMembers rest

/-- The tables before the last one of a series, first to last. -/
def toItems : List (List (String × Node)) → List Json
  | [] => []
  | table :: before => toItems before ++ [.object (toMembers table)]

end

end TemplateLint.Toml
