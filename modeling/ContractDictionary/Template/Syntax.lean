import ContractDictionary.Json.Value
import ContractDictionary.Text.Words

/-!
# Templates and helpers

A template is text with values, calls of helpers, and blocks between an opening and a closing
tag.  A helper computes a text or a value from the values of its arguments, or decides about the
parts of a block.
-/

namespace ContractDictionary

namespace Template

/-- Where a path begins. -/
inductive Origin where
  /-- At the value of a block around it; `0` is the innermost one. -/
  | block (levels : Nat)
  /-- At the whole data. -/
  | root
  deriving DecidableEq, Repr

inductive Reference where
  /-- The value that the fields lead to. -/
  | path (origin : Origin) (fields : List String)
  /-- A variable of a block around it, such as the position of the current item. -/
  | variable (levels : Nat) (name : String)
  deriving DecidableEq, Repr

inductive Argument where
  | reference (target : Reference)
  | literal (value : Json)
  /-- The result of a helper. -/
  | call (helper : String) (arguments : List Argument)
  /-- An argument that is given by its name and not by its place. -/
  | named (name : String) (value : Argument)

inductive Node where
  | text (value : String)
  /-- A name alone: the helper of this name, or else a field of the current value. -/
  | name (name : String)
  | value (target : Reference)
  /-- The result of a helper for some arguments. -/
  | call (helper : String) (arguments : List Argument)
  /-- An argument; if its text is the name of a helper, then the helper of this name. -/
  | computed (argument : Argument)
  /-- A block; its parameters are names for the value and the key that its body is about. -/
  | block (name : String) (arguments : List Argument) (parameters : List String)
      (body : List Node) (otherwise : Option (List Node))

end Template

abbrev Template := List Template.Node

end ContractDictionary

namespace ContractDictionary.Template

/-- Why a template cannot be filled. -/
inductive RenderFault where
  | missingValue
  | invalidPosition (field : String)
  | unknownHelper (name : String)
  | invalidArgument
  deriving DecidableEq, Repr

mutual

/-- A value as it stands in the text of a filled template. -/
def display : Json → String
  | .null => ""
  | .bool value => if value then "true" else "false"
  | .integer value => toString value
  | .real value => Json.realLayout.text value
  | .text value => value
  | .list items => "[" ++ String.intercalate ", " (displayItems items) ++ "]"
  | .record _ => "[object]"

def displayItems : List Json → List String
  | [] => []
  | item :: rest => display item :: displayItems rest

end

/-- The value counts as true: it is neither empty nor nearly zero. -/
def isTrue : Json → Bool
  | .null => false
  | .bool value => value
  | .integer value => value ≠ 0
  | .real (.finite _ significand _) => Binary64.leastNormal ≤ significand
  | .real _ => false
  | .text value => value ≠ ""
  | .list items => !items.isEmpty
  | .record fields => !fields.isEmpty

def isSame (left right : Json) : Bool :=
  left.write == right.write

/-- The number of items or fields of a value, or of bytes of a text. -/
def extent : Json → Nat
  | .text value => value.utf8ByteSize
  | .list items => items.length
  | .record fields => fields.length
  | _ => 0

/-- A number as an integer times a power of two. -/
def scaled? : Json → Option (Int × Int)
  | .integer value => some (value, 0)
  | .real (.finite negative significand exponent) =>
      some (if negative then -significand else significand, exponent)
  | _ => none

/-- The order of two values, if they are both numbers, both texts or both truth values. -/
def order? (left right : Json) : Option Ordering :=
  match left, right with
  | .text left, .text right => some (compare left right)
  | .bool left, .bool right => some (compare left right)
  | _, _ => do
      let (left, leftExponent) ← scaled? left
      let (right, rightExponent) ← scaled? right
      let least := min leftExponent rightExponent
      let leftUnit := powerOfTwo (leftExponent - least).toNat
      let rightUnit := powerOfTwo (rightExponent - least).toNat
      return compare (left * leftUnit) (right * rightUnit)

/-- The value of an item or a field under its position or key. -/
def entry? : Json → Json → Option Json
  | .list items, .integer position => if 0 ≤ position then items[position.toNat]? else none
  | .record fields, .text key => fields.lookup key
  | _, _ => none

def textHelpers : List (String × (String → String)) :=
  [("snake_case", Text.snake),
    ("camel_case", Text.camel "_"),
    ("pascal_case", Text.pascal "_"),
    ("lower", Text.lower),
    ("upper", Text.upper)]

def unary (result : Json → Option Json) : List (Option Json) → Option Json
  | some value :: _ => result value
  | _ => none

def binary (result : Json → Json → Option Json) : List (Option Json) → Option Json
  | some left :: some right :: _ => result left right
  | _ => none

/-- A helper that tests the order of two values; those without an order fail every test. -/
def ordered (test : Ordering → Bool) : List (Option Json) → Option Json :=
  binary fun left right => some (.bool ((order? left right).any test))

/-- The helpers that compute a value from the values of their arguments, which may be absent. -/
def valueHelpers : List (String × (List (Option Json) → Option Json)) :=
  [("lookup", binary entry?),
    ("eq", binary fun left right => some (.bool (isSame left right))),
    ("ne", binary fun left right => some (.bool (!isSame left right))),
    ("gt", ordered Ordering.isGT),
    ("gte", ordered Ordering.isGE),
    ("lt", ordered Ordering.isLT),
    ("lte", ordered Ordering.isLE),
    ("and", fun values => some (.bool (values.all (·.any isTrue)))),
    ("or", fun values => some (.bool (values.any (·.any isTrue)))),
    ("not", unary fun value => some (.bool (!isTrue value))),
    ("len", unary fun value => some (.integer (extent value)))]

/-- The helpers that decide about the parts of a block from the value of their argument. -/
def blockHelpers : List String := ["if", "unless", "each", "with"]

def silentHelpers : List String := ["raw", "log"]

def isHelper (name : String) : Bool :=
  (textHelpers.lookup name).isSome || (valueHelpers.lookup name).isSome ||
    name ∈ blockHelpers || name ∈ silentHelpers

/-- The result of a helper outside a block for the values of its arguments. -/
def callHelper (name : String) (values : List (Option Json)) : Except RenderFault Json :=
  match textHelpers.lookup name, valueHelpers.lookup name with
  | some helper, _ =>
      match values with
      | some (.text value) :: _ => .ok (.text (helper value))
      | _ => .error .invalidArgument
  | none, some helper =>
      match helper values with
      | some value => .ok value
      | none => .error .invalidArgument
  | none, none =>
      if name ∈ silentHelpers then .ok (.text "")
      else if name ∈ blockHelpers then
        if values.isEmpty then .error .invalidArgument else .ok (.text "")
      else .error (.unknownHelper name)

end ContractDictionary.Template
