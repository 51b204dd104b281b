import ContractDictionary.Json.Value
import ContractDictionary.Model.Entity

/-!
# Terms and states

The terms of contracts, with the values they allow and their defaults, and the variables that
change over the life of a contract.  Both declare the name of a scalar type, followed by `[]` for
an array.
-/

namespace ContractDictionary

inductive ScalarType where
  | contractReference
  | cycle
  | enumeration
  | period
  | real
  | timestamp
  | unknown
  | varchar
  deriving DecidableEq, Repr

namespace ScalarType

def all : List ScalarType :=
  [.contractReference, .cycle, .enumeration, .period, .real, .timestamp, .unknown, .varchar]

def name : ScalarType → String
  | .contractReference => "ContractReference"
  | .cycle => "Cycle"
  | .enumeration => "Enum"
  | .period => "Period"
  | .real => "Real"
  | .timestamp => "Timestamp"
  | .unknown => "Unknown"
  | .varchar => "Varchar"

def ofName? (name : String) : Option ScalarType :=
  all.find? (·.name == name)

def ofName (name : String) : Except UnknownName ScalarType :=
  match ofName? name with
  | some type => .ok type
  | none => .error (.scalarType name)

@[simp] theorem ofName?_name (type : ScalarType) : ofName? type.name = some type := by
  cases type <;> decide

end ScalarType

structure DeclaredType where
  scalar : ScalarType
  isArray : Bool
  deriving DecidableEq, Repr

namespace DeclaredType

def arrayMark : String := "[]"

def elementName? (declaration : String) : Option String :=
  let cs := declaration.toList
  if arrayMark.toList.isSuffixOf cs then
    some (String.ofList (cs.take (cs.length - arrayMark.length)))
  else
    none

def ofText (declaration : String) : Except UnknownName DeclaredType :=
  match elementName? declaration with
  | some element => (ScalarType.ofName element).map (⟨·, true⟩)
  | none => (ScalarType.ofName declaration).map (⟨·, false⟩)

end DeclaredType

/-- A value that a term or a state declares as allowed. -/
inductive AllowedValue where
  /-- A member of an enumerated type. -/
  | member (member : Member)
  /-- A constraint in free form. -/
  | scalar (value : Json)

def AllowedValue.asMember? : AllowedValue → Option Member
  | .member found => some found
  | .scalar _ => none

inductive TermDefault where
  /-- The acronym of a member. -/
  | acronym (token : String)
  | real (value : Binary64)
  | text (value : String)
  deriving DecidableEq, Repr

/-- A term of one or more contract types. -/
structure Term extends EntityInfo where
  /-- The allowed values in the order of their declaration. -/
  allowedValues : List AllowedValue
  default : Option TermDefault
  /-- The group to which the term belongs. -/
  group : String
  type : DeclaredType

instance : Entity Term := ⟨Term.toEntityInfo⟩

namespace Term

def scalarType (term : Term) : ScalarType :=
  term.type.scalar

def isArray (term : Term) : Bool :=
  term.type.isArray

def isEnumerated (term : Term) : Bool :=
  term.scalarType = .enumeration

def admitsDefault (term : Term) : Bool :=
  match term.scalarType with
  | .cycle | .period => false
  | _ => true

def effectiveDefault? (term : Term) : Option TermDefault :=
  if term.admitsDefault then term.default else none

def hasDefault (term : Term) : Bool :=
  term.effectiveDefault?.isSome

def members (term : Term) : List Member :=
  if term.isEnumerated then term.allowedValues.filterMap AllowedValue.asMember? else []

def asEnumeration? (term : Term) : Option Enumeration :=
  if term.isEnumerated then some (.ofMembers term.toEntityInfo term.members) else none

end Term

abbrev TermSet := EntitySet Term

namespace TermSet

def require (terms : TermSet) (identifier : String) : Except UnknownName Term :=
  match terms.get? identifier with
  | some term => .ok term
  | none => .error (.term identifier)

def ofGroup (terms : TermSet) (group : String) : TermSet :=
  terms.filter (·.group == group)

def enumerated (terms : TermSet) : TermSet :=
  terms.filter Term.isEnumerated

end TermSet

structure State extends EntityInfo where
  allowedValues : List AllowedValue
  type : DeclaredType

instance : Entity State := ⟨State.toEntityInfo⟩

/-- The description on one line: line feeds and carriage returns are left out. -/
def State.shortDescription (state : State) : String :=
  String.ofList (state.description.toList.filter fun c => c ≠ '\n' && c ≠ '\r')

abbrev StateSet := EntitySet State

def StateSet.require (states : StateSet) (identifier : String) : Except UnknownName State :=
  match states.get? identifier with
  | some state => .ok state
  | none => .error (.state identifier)

end ContractDictionary
