import TemplateLint.Text.Digit

/-!
# Arguments of a command line

Arguments are options, with or without a value, and operands.  A long option may carry its value
after an equals sign, short ones may be written together, and after `--` everything is an operand.
No option may be given twice.
Main exports: `Cli.Grammar`, `Cli.Item`, `Cli.readItems`.
-/

namespace TemplateLint.Cli

/-- What an option is for. -/
inductive OptionName where
  | config
  | verbose
  | port
  | stdio
  | check
  | languageId
  | python
  | list
  | help
  | version
deriving DecidableEq, Repr

/-- How an option is written. -/
structure OptionForm where
  name : OptionName
  long : List Char
  short : Option Char
  takesValue : Bool
deriving Repr

/-- An argument that has been read. -/
inductive Item where
  | option (name : OptionName) (value : Option String)
  | operand (text : String)
deriving DecidableEq, Repr

/-- Why reading ends early. -/
inductive Stop where
  /-- The arguments make no sense. -/
  | usage
  /-- The user asks for help. -/
  | help
  /-- The user asks for the version. -/
  | version
deriving DecidableEq, Repr

/-- What may be written on a level of the command line. -/
structure Grammar where
  options : List OptionForm
  /-- The operands that may follow those before them. -/
  admits : Nat → String → Bool
  /-- The first operand ends the level. -/
  endsAtOperand : Bool

/-! ## One argument -/

/-- What one argument says. -/
inductive Reading where
  | items (items : List Item)
  /-- The last option of the argument still wants a value. -/
  | wantsValue (before : List Item) (name : OptionName)
  | operand
  | separator
  | stop (before : List Item) (stop : Stop)
deriving Repr

/-- An option without a value: it is an item, or it ends the reading. -/
def readFlag (before : List Item) (name : OptionName) : Reading :=
  match name with
  | .help => .stop before .help
  | .version => .stop before .version
  | name => .items (before ++ [.option name none])

def readLong (grammar : Grammar) (text : List Char) : Reading :=
  let word := text.takeWhile (· ≠ '=')
  match grammar.options.find? fun form => form.long = word with
  | none => .stop [] .usage
  | some form =>
      match form.takesValue, text.drop word.length with
      | false, [] => readFlag [] form.name
      | false, _ :: _ => .stop [] .usage
      | true, [] => .wantsValue [] form.name
      | true, _ :: value => .items [.option form.name (some (String.ofList value))]

/-- The value that is written together with a short option. -/
def attachedValue : List Char → String
  | '=' :: value => String.ofList value
  | value => String.ofList value

def readShort (grammar : Grammar) (before : List Item) : List Char → Reading
  | [] => .items before
  | c :: rest =>
      match grammar.options.find? fun form => form.short = some c with
      | none => .stop before .usage
      | some form =>
          if form.takesValue then
            match rest with
            | [] => .wantsValue before form.name
            | rest => .items (before ++ [.option form.name (some (attachedValue rest))])
          else
            match readFlag before form.name with
            | .items items => readShort grammar items rest
            | other => other

def readArgument (grammar : Grammar) (text : String) : Reading :=
  match text.toList with
  | ['-', '-'] => .separator
  | '-' :: '-' :: rest => readLong grammar rest
  | '-' :: c :: rest => readShort grammar [] (c :: rest)
  | _ => .operand

/-- The argument may be the value of an option before it. -/
def isValue (text : String) : Bool :=
  match text.toList with
  | ['-'] => true
  | '-' :: _ => false
  | _ => true

/-! ## All arguments of a level -/

/-- The greatest number of a port. -/
def greatestPort : Int := 65535

def port? (text : String) : Option Nat := do
  let (negative, digits) := match text.toList with
    | '-' :: digits => (true, digits)
    | '+' :: digits => (false, digits)
    | digits => (false, digits)
  let value ← Text.asciiNat? digits
  if (negative ∧ value ≠ 0) ∨ greatestPort < value then none else some value

def suits : OptionName → Option String → Bool
  | .port, some text => (port? text).isSome
  | _, _ => true

def operands (items : List Item) : List String :=
  items.filterMap fun
    | .operand text => some text
    | .option .. => none

def isGiven (name : OptionName) (items : List Item) : Bool :=
  items.any fun
    | .option other _ => other = name
    | .operand _ => false

def valueOf? (name : OptionName) (items : List Item) : Option String :=
  items.findSome? fun
    | .option other value => if other = name then value else none
    | .operand _ => none

def admits (grammar : Grammar) (before : List Item) : Item → Bool
  | .option name value => !isGiven name before && suits name value
  | .operand text => grammar.admits (operands before).length text

/-- The items before together with further ones, if each may follow. -/
def extend? (grammar : Grammar) (before : List Item) : List Item → Option (List Item)
  | [] => some before
  | item :: rest =>
      if admits grammar before item then extend? grammar (before ++ [item]) rest else none

/-- The operands after `--`. -/
def readOperands (grammar : Grammar) (before : List Item) (arguments : List String) :
    Except Stop (List Item) :=
  match extend? grammar before (arguments.map Item.operand) with
  | some items => .ok items
  | none => .error .usage

/-- The items of a level after those before them, and the arguments from the operand that ends the
level. -/
def readItems (grammar : Grammar) (before : List Item) :
    List String → Except Stop (List Item × List String)
  | [] => .ok (before, [])
  | argument :: rest =>
      match readArgument grammar argument with
      | .separator => do
          let items ← readOperands grammar before rest
          .ok (items, [])
      | .stop further stop =>
          match extend? grammar before further with
          | some _ => .error stop
          | none => .error .usage
      | .operand =>
          if grammar.endsAtOperand then .ok (before, argument :: rest)
          else
            match extend? grammar before [.operand argument] with
            | some items => readItems grammar items rest
            | none => .error .usage
      | .items further =>
          match extend? grammar before further with
          | some items => readItems grammar items rest
          | none => .error .usage
      | .wantsValue further name =>
          match rest with
          | [] => .error .usage
          | value :: rest =>
              if isValue value then
                match extend? grammar before (further ++ [.option name (some value)]) with
                | some items => readItems grammar items rest
                | none => .error .usage
              else .error .usage

end TemplateLint.Cli
