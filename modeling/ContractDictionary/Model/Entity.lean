import ContractDictionary.Sorting
import ContractDictionary.Text.Basic

/-!
# Entities

What a dictionary declares has an identifier, an acronym, a name and a description.  Two
entities of one kind are the same if identifier and acronym agree.  A collection of entities
is kept in the order of their identifiers, and the members of an enumeration in that of their
options.
-/

namespace ContractDictionary

inductive UnknownName where
  | term (identifier : String)
  | contract (identifier : String)
  | state (identifier : String)
  | scalarType (name : String)
  | status (name : String)
  | functionType (name : String)
  deriving DecidableEq, Repr

def UnknownName.message : UnknownName → String
  | .term identifier => "Term not found: " ++ identifier
  | .contract identifier => "Contract not found: " ++ identifier
  | .state identifier => "State not found: " ++ identifier
  | .scalarType name => "Unknown scalar type: " ++ name
  | .status name => "Unknown publication status: " ++ name
  | .functionType name => "Unknown function type: " ++ name

structure EntityInfo where
  /-- A short identifier such as `SCF`. -/
  acronym : String
  /-- A text that explains the entity. -/
  description : String
  /-- The canonical identifier such as `contractRole`. -/
  identifier : String
  /-- The formal name. -/
  name : String
  deriving DecidableEq, Repr

class Entity (α : Type) where
  info : α → EntityInfo

section

variable {α : Type} [Entity α]

/-- The token names the entity by acronym or identifier, in any case. -/
def EntityInfo.isMatch (info : EntityInfo) (token : String) : Bool :=
  Text.sameIgnoringCase info.acronym token || Text.sameIgnoringCase info.identifier token

def EntityInfo.identity (info : EntityInfo) : String × String :=
  (info.identifier, info.acronym)

def identifierOf (entity : α) : String :=
  (Entity.info entity).identifier

def sameEntity (left right : α) : Bool :=
  (Entity.info left).identity == (Entity.info right).identity

structure EntitySet (α : Type) [Entity α] where
  toList : List α
  ordered : toList.Pairwise (fun a b => identifierOf a ≤ identifierOf b) := by simp

namespace EntitySet

/-- The set of the given entities; those of one identifier stay in their order. -/
def ofList (items : List α) : EntitySet α :=
  ⟨sortOn identifierOf items, pairwise_sortOn identifierOf items⟩

def empty : EntitySet α :=
  ⟨[], .nil⟩

def size (set : EntitySet α) : Nat :=
  set.toList.length

def get? (set : EntitySet α) (identifier : String) : Option α :=
  set.toList.find? (identifierOf · == identifier)

def filter (keep : α → Bool) (set : EntitySet α) : EntitySet α :=
  ofList (set.toList.filter keep)

def identifiers (set : EntitySet α) : List String :=
  set.toList.map identifierOf

theorem mem_ofList {items : List α} {x : α} : x ∈ (ofList items).toList ↔ x ∈ items :=
  mem_sortOn

theorem toList_ofList_perm (items : List α) : (ofList items).toList.Perm items :=
  sortOn_perm identifierOf items

/-- Selection needs no sorting, since the set is in order. -/
theorem toList_filter (keep : α → Bool) (set : EntitySet α) :
    (set.filter keep).toList = set.toList.filter keep := by
  exact sortOn_of_pairwise (set.ordered.filter keep)

end EntitySet

end

structure Member extends EntityInfo where
  /-- The position within the enumeration. -/
  option : Int
  /-- Whether the member is the default, where a default applies at all. -/
  isDefault : Option Bool := none
  deriving DecidableEq, Repr

instance : Entity Member := ⟨Member.toEntityInfo⟩

def sortMembers (members : List Member) : List Member :=
  sortBy (fun a b => decide (a.option ≤ b.option)) members

theorem pairwise_sortMembers (members : List Member) :
    (sortMembers members).Pairwise (fun a b => a.option ≤ b.option) := by
  let le : Member → Member → Bool := fun a b => decide (a.option ≤ b.option)
  have total : ∀ a b, le a b || le b a := by
    intro a b
    simp only [le, Bool.or_eq_true, decide_eq_true_eq]
    omega
  have trans : ∀ a b c, le a b → le b c → le a c := by
    intro a b c
    simp only [le, decide_eq_true_eq]
    omega
  have := pairwise_sortBy total trans members
  simpa [sortMembers, le] using this

structure Enumeration extends EntityInfo where
  members : List Member
  ordered : members.Pairwise (fun a b => a.option ≤ b.option) := by simp

instance : Entity Enumeration := ⟨Enumeration.toEntityInfo⟩

namespace Enumeration

def ofMembers (info : EntityInfo) (members : List Member) : Enumeration :=
  { info with members := sortMembers members, ordered := pairwise_sortMembers members }

def findMember? (enumeration : Enumeration) (token : String) : Option Member :=
  enumeration.members.find? (·.isMatch token)

end Enumeration

end ContractDictionary
