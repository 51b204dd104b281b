import ContractDictionary.Calendar.DateTime
import ContractDictionary.Model.Term

/-!
# The dictionary

The taxonomy lists the types of contracts in the order of their acronyms, and the applicability
which terms apply to which type, in the order of the text `contract type|term`.  A contract joins
a type with its terms; the placeholder type has none.  Warnings are about doubtful data that stop
neither compilation nor generation.
-/

namespace ContractDictionary

/-- How far a contract type has come to publication. -/
inductive PublicationStatus where
  | implemented
  | planned
  | released
  | unknown
  deriving DecidableEq, Repr

namespace PublicationStatus

def all : List PublicationStatus :=
  [.implemented, .planned, .released, .unknown]

def name : PublicationStatus → String
  | .implemented => "Implemented"
  | .planned => "Planned"
  | .released => "Released"
  | .unknown => "Unknown"

def ofName (name : String) : Except UnknownName PublicationStatus :=
  match all.find? (·.name == name) with
  | some status => .ok status
  | none => .error (.status name)

end PublicationStatus

structure ContractType extends EntityInfo where
  /-- The economic classification such as `Fixed Income`. -/
  classification : String
  /-- What the type covers economically. -/
  coverage : Option String
  /-- The family of instruments such as `Basic`. -/
  family : String
  status : PublicationStatus
  deriving DecidableEq, Repr

instance : Entity ContractType := ⟨ContractType.toEntityInfo⟩

/-- The acronym of the placeholder type for exotic instruments, of which no contract exists. -/
def experimentalAcronym : String := "EXOTi"

def ContractType.isExperimental (type : ContractType) : Bool :=
  type.acronym == experimentalAcronym

/-- Contract types in the order of their acronyms. -/
structure Taxonomy where
  toList : List ContractType
  ordered : toList.Pairwise (fun a b => a.acronym ≤ b.acronym) := by simp

namespace Taxonomy

/-- The taxonomy of the given types; those of one acronym stay in their order. -/
def ofList (types : List ContractType) : Taxonomy :=
  ⟨sortOn (·.acronym) types, pairwise_sortOn (·.acronym) types⟩

def size (taxonomy : Taxonomy) : Nat :=
  taxonomy.toList.length

def get? (taxonomy : Taxonomy) (identifier : String) : Option ContractType :=
  taxonomy.toList.find? (·.identifier == identifier)

end Taxonomy

structure Contract where
  type : ContractType
  terms : TermSet

instance : Entity Contract := ⟨fun contract => contract.type.toEntityInfo⟩

namespace Contract

def acronym (contract : Contract) : String :=
  contract.type.acronym

def identifier (contract : Contract) : String :=
  contract.type.identifier

def usesScalarType (contract : Contract) (scalar : ScalarType) : Bool :=
  contract.terms.toList.any (·.scalarType == scalar)

end Contract

structure ContractSet where
  toList : List Contract
  ordered : toList.Pairwise (fun a b => a.acronym ≤ b.acronym) := by simp

namespace ContractSet

def ofList (contracts : List Contract) : ContractSet :=
  let kept := contracts.filter fun contract => !contract.type.isExperimental
  ⟨sortOn Contract.acronym kept, pairwise_sortOn Contract.acronym kept⟩

def size (contracts : ContractSet) : Nat :=
  contracts.toList.length

def get? (contracts : ContractSet) (identifier : String) : Option Contract :=
  contracts.toList.find? (·.identifier == identifier)

def require (contracts : ContractSet) (identifier : String) : Except UnknownName Contract :=
  match contracts.get? identifier with
  | some contract => .ok contract
  | none => .error (.contract identifier)

end ContractSet

structure ApplicabilityRow where
  contractTypeId : String
  termId : String
  /-- The processing directive that comes with the term. -/
  instruction : String
  deriving DecidableEq, Repr

def ApplicabilityRow.sortKey (row : ApplicabilityRow) : String :=
  row.contractTypeId ++ "|" ++ row.termId

/-- The rows for all contract types, in the order of their sort keys. -/
structure Applicability where
  rows : List ApplicabilityRow
  ordered : rows.Pairwise (fun a b => a.sortKey ≤ b.sortKey) := by simp

namespace Applicability

/-- The applicability of the given rows; those of one sort key stay in their order. -/
def ofRows (rows : List ApplicabilityRow) : Applicability :=
  ⟨sortOn ApplicabilityRow.sortKey rows, pairwise_sortOn ApplicabilityRow.sortKey rows⟩

def size (applicability : Applicability) : Nat :=
  applicability.rows.length

def rowsOf (applicability : Applicability) (contractTypeId : String) : List ApplicabilityRow :=
  applicability.rows.filter (·.contractTypeId == contractTypeId)

/-- The contract types that rows name, a type once for each run of rows. -/
def contractTypeIds (applicability : Applicability) : List String :=
  dropRepeats (· == ·) (applicability.rows.map (·.contractTypeId))

end Applicability

/-- A finding about the quality of a dictionary. -/
inductive Warning where
  /-- An enumerated default names no member, and the first member takes its place. -/
  | unmatchedDefault (termId default fallback : String)
  /-- A numeric default is no number, and zero takes its place. -/
  | unreadableReal (termId value : String)
  deriving DecidableEq, Repr

namespace Warning

def termId : Warning → String
  | .unmatchedDefault termId _ _ => termId
  | .unreadableReal termId _ => termId

def message : Warning → String
  | .unmatchedDefault termId default fallback =>
      "enum default '" ++ default ++ "' of term '" ++ termId ++
        "' matches no member, reverting to '" ++ fallback ++ "'"
  | .unreadableReal termId value =>
      "numeric default '" ++ value ++ "' of term '" ++ termId ++
        "' is not a number, reverting to 0"

/-- The texts by which warnings are ordered: their kind, then their parts. -/
def sortKey : Warning → List String
  | .unmatchedDefault termId default fallback => ["0", termId, default, fallback]
  | .unreadableReal termId value => ["1", termId, value]

def summary (warnings : List Warning) : List Warning :=
  dropRepeats (fun a b => decide (a = b))
    (sortBy (fun a b => inTextOrder a.sortKey b.sortKey) warnings)

end Warning

structure Dictionary where
  version : String
  versionDate : DateTime
  applicability : Applicability
  eventType : Enumeration
  contractPerformance : Enumeration
  contractRole : Enumeration
  referenceRole : Enumeration
  referenceType : Enumeration
  contractType : Enumeration
  contracts : ContractSet
  states : StateSet
  taxonomy : Taxonomy
  terms : TermSet

/-- The enumerations that are generated as types of their own, in the order of identifiers. -/
def Dictionary.enumerations (dictionary : Dictionary) : List Enumeration :=
  sortOn (·.identifier)
    (dictionary.terms.toList.filterMap Term.asEnumeration? ++
      [dictionary.eventType, dictionary.referenceRole, dictionary.referenceType])

end ContractDictionary
