import ContractDictionary.Compile.Normal

/-!
# Compilation

A document in normal form is compiled section by section; the first fault in the order of the
sections is the one that is stated.
-/

namespace ContractDictionary

structure Compilation where
  dictionary : Dictionary
  warnings : List Warning

/-- The member that an allowed value declares; `default` is the acronym of the default. -/
def Member.ofJson (location : String) (default : Option String) (value : Json) :
    Except CompileError Member := do
  let record ← (MemberRecord.ofJson value).mapError (.invalidMember location)
  return {
    identifier := record.identifier
    name := record.name
    acronym := record.acronym
    description := record.description
    option := record.option
    isDefault := default.map (record.acronym == ·) }

def membersFrom (location : String) (default : Option String) :
    Nat → List Json → Except CompileError (List Member)
  | _, [] => .ok []
  | position, value :: rest => do
      let place := location ++ ".allowedValues[" ++ toString position ++ "]"
      let member ← Member.ofJson place default value
      let members ← membersFrom location default (position + 1) rest
      return member :: members

def membersOf (location : String) (default : Option String) (values : List Json) :
    Except CompileError (List Member) :=
  membersFrom location default 0 values

def EnumerationRecord.compile (location : String) (record : EnumerationRecord) :
    Except CompileError Enumeration := do
  match record.identifier with
  | none => .error (.missingField (location ++ ".identifier"))
  | some identifier =>
      let members ← membersOf location none record.allowedValues
      return .ofMembers ⟨record.acronym, record.description, identifier, record.name⟩ members

def Document.termEnumeration (document : Document) (key : String) :
    Except CompileError Enumeration := do
  match document.terms.get? key with
  | none => .error (.missingField ("terms." ++ key))
  | some record =>
      let description := record.description.getD record.name
      let members ← membersOf ("terms." ++ key) none record.allowedValues
      return .ofMembers ⟨record.acronym, description, record.identifier, record.name⟩ members

def typeAt (location declaration : String) : Except CompileError DeclaredType :=
  (DeclaredType.ofText declaration).mapError (.invalidValue (location ++ ".type"))

def finiteReal? (text : String) : Option Binary64 :=
  (Binary64.ofText? text).filter Binary64.isFinite

def TermDefault.ofText (scalar : ScalarType) (text : String) : TermDefault :=
  match scalar with
  | .enumeration => .acronym (Text.upper text)
  | .real => .real ((finiteReal? text).getD .zero)
  | _ => .text text

/-- The warning about a numeric default that is no finite number. -/
def realWarning? (termId : String) (scalar : ScalarType) (default : Option String) :
    Option Warning :=
  match scalar, default with
  | .real, some text =>
      if (finiteReal? text).isNone then some (.unreadableReal termId text) else none
  | _, _ => none

def defaultAcronym : Option TermDefault → String
  | some (.acronym token) => token
  | _ => ""

def allowedValuesOf (location : String) (scalar : ScalarType) (default : Option String)
    (values : List Json) : Except CompileError (List AllowedValue) :=
  match scalar with
  | .enumeration => (membersOf location default values).map (·.map .member)
  | _ => .ok (values.map .scalar)

def dropLineFeeds (text : String) : String :=
  String.ofList (text.toList.filter (· ≠ '\n'))

def TermRecord.compile (key : String) (record : TermRecord) : Except CompileError Term := do
  let location := "terms." ++ key
  let type ← typeAt location record.type
  let default := record.default.map (TermDefault.ofText type.scalar)
  let allowedValues ←
    allowedValuesOf location type.scalar (some (defaultAcronym default)) record.allowedValues
  return {
    acronym := record.acronym
    description := dropLineFeeds (record.description.getD record.name)
    identifier := record.identifier
    name := record.name
    allowedValues
    default
    group := record.group
    type }

def TermRecord.warning? (record : TermRecord) : Option Warning :=
  match DeclaredType.ofText record.type with
  | .ok type => realWarning? record.identifier type.scalar record.default
  | .error _ => none

def StateRecord.compile (key : String) (record : StateRecord) : Except CompileError State := do
  let location := "states." ++ key
  let type ← typeAt location record.type
  let allowedValues ← allowedValuesOf location type.scalar none record.allowedValues
  return {
    acronym := record.acronym
    description := record.description
    identifier := record.identifier
    name := record.name
    allowedValues
    type }

def statusAt (location : String) (status : Option String) :
    Except CompileError PublicationStatus :=
  match status with
  | none => .ok .unknown
  | some name =>
      (PublicationStatus.ofName name).mapError (.invalidValue (location ++ ".status"))

def ContractTypeRecord.compile (key : String) (record : ContractTypeRecord) :
    Except CompileError ContractType := do
  let status ← statusAt ("taxonomy." ++ key) record.status
  return {
    acronym := record.acronym
    description := record.description
    identifier := record.identifier
    name := record.name
    classification := record.classification
    coverage := record.coverage
    family := record.family
    status }

def reservedTermId : String := "contract"

def Document.applicabilityRows (document : Document) : List ApplicabilityRow :=
  document.applicability.entries.flatMap fun (contractTypeId, terms) =>
    (terms.entries.filter (·.1 ≠ reservedTermId)).map fun (termId, instruction) =>
      ⟨contractTypeId, termId, instruction⟩

def ApplicabilityRow.term (row : ApplicabilityRow) (terms : TermSet) : Except CompileError Term :=
  match terms.get? row.termId with
  | some term => .ok term
  | none => .error (.unknownTerm row.contractTypeId row.termId)

def ContractType.contract (type : ContractType) (applicability : Applicability)
    (terms : TermSet) : Except CompileError Contract := do
  let applicable ← (applicability.rowsOf type.identifier).mapM (·.term terms)
  return { type, terms := .ofList applicable }

def contractsOf (applicability : Applicability) (taxonomy : Taxonomy) (terms : TermSet) :
    Except CompileError ContractSet := do
  match applicability.contractTypeIds.find? (fun id => (taxonomy.get? id).isNone) with
  | some identifier => .error (.unknownContractType identifier)
  | none =>
      let types := taxonomy.toList.filter (!·.isExperimental)
      let contracts ← types.mapM (·.contract applicability terms)
      return .ofList contracts

def versionDateOf (text : String) : Except CompileError DateTime :=
  match DateTime.ofText? text with
  | some date => .ok date
  | none => .error (.invalidDate text)

def compileSection {α β : Type} (compile : String → α → Except CompileError β)
    (keyed : Keyed α) : Except CompileError (List β) :=
  keyed.entries.mapM fun entry => compile entry.1 entry.2

def Document.build (document : Document) : Except CompileError Dictionary := do
  let eventType ← document.eventType.compile "event.eventType"
  let contractPerformance ← document.termEnumeration "contractPerformance"
  let contractRole ← document.termEnumeration "contractRole"
  let referenceRole ← document.referenceRole.compile "contractReference.role"
  let referenceType ← document.referenceType.compile "contractReference.type"
  let contractType ← document.termEnumeration contractTypeTerm
  let applicability := Applicability.ofRows document.applicabilityRows
  let terms := EntitySet.ofList (← compileSection TermRecord.compile document.terms)
  let states := EntitySet.ofList (← compileSection StateRecord.compile document.states)
  let taxonomy := Taxonomy.ofList (← compileSection ContractTypeRecord.compile document.taxonomy)
  let contracts ← contractsOf applicability taxonomy terms
  let versionDate ← versionDateOf document.version.date
  return {
    version := document.version.number
    versionDate
    applicability
    eventType
    contractPerformance
    contractRole
    referenceRole
    referenceType
    contractType
    contracts
    states
    taxonomy
    terms }

/-- The warnings that a document in normal form gives rise to, in the order of its terms. -/
def Document.warnings (document : Document) : List Warning :=
  document.terms.values.filterMap TermRecord.warning?

def Document.compile (document : Document) : Except CompileError Compilation := do
  let normal ← document.normalize
  let dictionary ← normal.build
  return { dictionary, warnings := normal.warnings }

def compileText (text : String) : Except CompileError Compilation := do
  let document ← (Document.ofText text).mapError .undecodable
  document.compile

end ContractDictionary
