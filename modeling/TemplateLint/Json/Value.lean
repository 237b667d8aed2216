import TemplateLint.Decimal.Double

/-!
# JSON values

Values as settings, messages and state files hold them.  Integers and doubles are told apart, and
an object keeps its members in the order in which their keys first came.
Main exports: `Json`, `Number`, `Members.get?`, `Members.insert`.
-/

namespace TemplateLint

/-- A JSON number: an integer of 64 bits, signed or unsigned, or a finite double. -/
inductive Number where
  | integer (value : Int)
  | double (value : Double)
deriving DecidableEq, Repr, Inhabited

namespace Number

/-- The least signed integer of 64 bits. -/
def leastSigned : Int := -0x8000000000000000

/-- The greatest signed integer of 64 bits. -/
def greatestSigned : Int := 0x7fffffffffffffff

/-- The greatest unsigned integer of 64 bits. -/
def greatestUnsigned : Int := 0xffffffffffffffff

/-- The closest signed integer of 64 bits. -/
def clampSigned (value : Int) : Int :=
  max leastSigned (min value greatestSigned)

/-- The number as a signed integer of 64 bits: none when it has a fraction, and the closest one
when it is too large. -/
def toSigned? : Number → Option Int
  | .integer value => some (clampSigned value)
  | .double value => value.toInt?.map clampSigned

/-- The number as an integer between the bounds; a number written with a fraction or an exponent
is none. -/
def within? (low high : Int) : Number → Option Int
  | .integer value => if low ≤ value ∧ value ≤ high then some value else none
  | .double _ => none

end Number

/-- A JSON value. -/
inductive Json where
  | null
  | bool (value : Bool)
  | number (value : Number)
  | text (value : String)
  | array (items : List Json)
  | object (members : List (String × Json))
deriving Repr, Inhabited

/-- The members of an object, in order. -/
abbrev Members := List (String × Json)

namespace Members

def get? (key : String) : Members → Option Json
  | [] => none
  | (name, value) :: rest => if name = key then some value else get? key rest

/-- Put a value under a key, in the place of the old one if there is one. -/
def insert (key : String) (value : Json) : Members → Members
  | [] => [(key, value)]
  | (name, old) :: rest =>
      if name = key then (name, value) :: rest else (name, old) :: insert key value rest

def erase (key : String) (members : Members) : Members :=
  members.filter fun pair => pair.1 ≠ key

/-- Put every member of `upper` over those of `lower`. -/
def overlay (lower upper : Members) : Members :=
  upper.foldl (fun members pair => insert pair.1 pair.2 members) lower

/-- The value under a key, `null` when there is none. -/
def get (key : String) (members : Members) : Json :=
  (get? key members).getD .null

@[simp] theorem get?_nil (key : String) : get? key [] = none := rfl

theorem get?_insert (key name : String) (value : Json) (members : Members) :
    get? name (insert key value members) =
      if name = key then some value else get? name members := by
  induction members with
  | nil => by_cases same : key = name <;> simp [insert, get?, same, eq_comm]
  | cons head rest inductionHypothesis =>
      obtain ⟨first, old⟩ := head
      by_cases here : first = key
      · by_cases same : name = key <;> simp_all [insert, get?, eq_comm]
      · by_cases same : name = key
        · simp_all [insert, get?]
        · by_cases other : first = name <;> simp_all [insert, get?]

end Members

namespace Json

def ofInt (value : Int) : Json :=
  .number (.integer value)

def ofNat (value : Nat) : Json :=
  .number (.integer value)

/-- The value, or `null`. -/
def ofOption {α : Type} (encode : α → Json) : Option α → Json
  | none => .null
  | some value => encode value

def text? : Json → Option String
  | .text value => some value
  | _ => none

def items? : Json → Option (List Json)
  | .array items => some items
  | _ => none

def members? : Json → Option Members
  | .object members => some members
  | _ => none

/-- A member of an object; `null` when there is none or the value is no object. -/
def member (key : String) : Json → Json
  | .object members => Members.get key members
  | _ => .null

/-- The value is `null`. -/
def isNull : Json → Bool
  | .null => true
  | _ => false

end Json

end TemplateLint
