import ContractDictionary.Document.Reader
import ContractDictionary.Text.Basic

/-!
# Reading a dictionary document

The sections and records of a dictionary document as they are written, before any of their
values are interpreted, and how they are read from a text.
-/

namespace ContractDictionary

structure VersionRecord where
  number : String
  date : String

structure TermRecord where
  identifier : String
  name : String
  acronym : String
  /-- The declared type. -/
  type : String
  allowedValues : List Json
  default : Option String
  group : String
  description : Option String

structure StateRecord where
  identifier : String
  name : String
  acronym : String
  /-- The declared type. -/
  type : String
  allowedValues : List Json
  description : String

structure ContractTypeRecord where
  acronym : String
  classification : String
  coverage : Option String
  description : String
  family : String
  identifier : String
  name : String
  status : Option String

structure EnumerationRecord where
  identifier : Option String
  name : String
  acronym : String
  description : String
  allowedValues : List Json

structure MemberRecord where
  option : Int
  identifier : String
  name : String
  acronym : String
  description : String
  deriving DecidableEq, Repr

structure Document where
  version : VersionRecord
  terms : Keyed TermRecord
  states : Keyed StateRecord
  taxonomy : Keyed ContractTypeRecord
  /-- The directives by contract type and term. -/
  applicability : Keyed (Keyed String)
  eventType : EnumerationRecord
  referenceRole : EnumerationRecord
  referenceType : EnumerationRecord

/-! ## Readers -/

open Json (Tree)

def textField (name : String) : Field String :=
  ⟨name, readText, none⟩

def textFieldWithDefault (name default : String) : Field String :=
  ⟨name, readText, some default⟩

def optionalTextField (name : String) : Field (Option String) :=
  ⟨name, readOptionalText, some none⟩

def allowedValuesField : Field (List Json) :=
  ⟨"allowedValues", readValues, some []⟩

def identifierField : Field String := textField "identifier"
def nameField : Field String := textField "name"
def acronymField : Field String := textField "acronym"
def descriptionField : Field String := textFieldWithDefault "description" ""

def VersionRecord.read : Reader VersionRecord := fun room tree => do
  let number := textField "Version"
  let date := textField "Date"
  let fields ← readFields [number.shape, date.shape] room tree
  return { number := ← number.get fields, date := ← date.get fields }

def TermRecord.read : Reader TermRecord := fun room tree => do
  let type := textField "type"
  let default := optionalTextField "default"
  let group := textFieldWithDefault "group" ""
  let description := optionalTextField "description"
  let fields ← readFields
    [identifierField.shape, nameField.shape, acronymField.shape, type.shape,
      allowedValuesField.shape, default.shape, group.shape, description.shape] room tree
  return {
    identifier := ← identifierField.get fields
    name := ← nameField.get fields
    acronym := ← acronymField.get fields
    type := ← type.get fields
    allowedValues := ← allowedValuesField.get fields
    default := ← default.get fields
    group := ← group.get fields
    description := ← description.get fields }

def StateRecord.read : Reader StateRecord := fun room tree => do
  let type := textFieldWithDefault "type" "Unknown"
  let fields ← readFields
    [identifierField.shape, nameField.shape, acronymField.shape, type.shape,
      allowedValuesField.shape, descriptionField.shape] room tree
  return {
    identifier := ← identifierField.get fields
    name := ← nameField.get fields
    acronym := ← acronymField.get fields
    type := ← type.get fields
    allowedValues := ← allowedValuesField.get fields
    description := ← descriptionField.get fields }

def ContractTypeRecord.read : Reader ContractTypeRecord := fun room tree => do
  let classification := textField "class"
  let coverage := optionalTextField "coverage"
  let family := textField "family"
  let status := optionalTextField "status"
  let fields ← readFields
    [acronymField.shape, classification.shape, coverage.shape, descriptionField.shape, family.shape,
      identifierField.shape, nameField.shape, status.shape] room tree
  return {
    acronym := ← acronymField.get fields
    classification := ← classification.get fields
    coverage := ← coverage.get fields
    description := ← descriptionField.get fields
    family := ← family.get fields
    identifier := ← identifierField.get fields
    name := ← nameField.get fields
    status := ← status.get fields }

def EnumerationRecord.read : Reader EnumerationRecord := fun room tree => do
  let identifier := optionalTextField "identifier"
  let name := textFieldWithDefault "name" ""
  let acronym := textFieldWithDefault "acronym" ""
  let fields ← readFields
    [identifier.shape, name.shape, acronym.shape, descriptionField.shape,
      allowedValuesField.shape] room tree
  return {
    identifier := ← identifier.get fields
    name := ← name.get fields
    acronym := ← acronym.get fields
    description := ← descriptionField.get fields
    allowedValues := ← allowedValuesField.get fields }

def readEvent : Reader EnumerationRecord := fun room tree => do
  let eventType : Field EnumerationRecord := ⟨"eventType", EnumerationRecord.read, none⟩
  let fields ← readFields [eventType.shape] room tree
  eventType.get fields

def readReference : Reader (EnumerationRecord × EnumerationRecord) := fun room tree => do
  let role : Field EnumerationRecord := ⟨"role", EnumerationRecord.read, none⟩
  let type : Field EnumerationRecord := ⟨"type", EnumerationRecord.read, none⟩
  let fields ← readFields [role.shape, type.shape] room tree
  return (← role.get fields, ← type.get fields)

def Document.read : Reader Document := fun room tree => do
  let version : Field VersionRecord := ⟨"version", VersionRecord.read, none⟩
  let terms : Field (Keyed TermRecord) := ⟨"terms", readSection TermRecord.read, none⟩
  let states : Field (Keyed StateRecord) := ⟨"states", readSection StateRecord.read, none⟩
  let taxonomy : Field (Keyed ContractTypeRecord) :=
    ⟨"taxonomy", readSection ContractTypeRecord.read, none⟩
  let applicability : Field (Keyed (Keyed String)) :=
    ⟨"applicability", readSection (readSection readText), none⟩
  let event : Field EnumerationRecord := ⟨"event", readEvent, none⟩
  let reference : Field (EnumerationRecord × EnumerationRecord) :=
    ⟨"contractReference", readReference, none⟩
  let fields ← readFields
    [version.shape, terms.shape, states.shape, taxonomy.shape, applicability.shape,
      event.shape, reference.shape] room tree
  let (referenceRole, referenceType) ← reference.get fields
  return {
    version := ← version.get fields
    terms := ← terms.get fields
    states := ← states.get fields
    taxonomy := ← taxonomy.get fields
    applicability := ← applicability.get fields
    eventType := ← event.get fields
    referenceRole
    referenceType }

/-- The document that a text writes; nothing but white space may follow it. -/
def Document.ofText (text : String) : Except ReadFault Document := do
  let parsed := Tree.ofText text
  let document ← Document.read Json.greatestDepth parsed.root
  if parsed.hasMore then malformed else return document

/-- The integer lies in the range of signed 64-bit words. -/
def isOrdinal (n : Int) : Bool :=
  -9223372036854775808 ≤ n && n ≤ 9223372036854775807

/-- The ordinal that a text denotes, white space at its ends aside. -/
def ordinal? (text : String) : Option Int :=
  (integer? (Text.trimChars text.toList)).filter isOrdinal

def readOrdinal : Reader Int
  | _, .leaf (some (.integer n)) =>
      if isOrdinal n then .ok n else .error (.shape .mismatch)
  | _, .text (some text) =>
      match ordinal? text with
      | some n => .ok n
      | none => .error (.shape (.invalidOrdinal text))
  | _, tree => mismatch tree

def optionField : Field Int :=
  ⟨"option", readOrdinal, none⟩

def memberShapes : List FieldShape :=
  [optionField.shape, identifierField.shape, nameField.shape, acronymField.shape,
    descriptionField.shape]

def MemberRecord.read : Reader MemberRecord := fun room tree => do
  let fields ← readFields memberShapes room tree
  return {
    option := ← optionField.get fields
    identifier := ← identifierField.get fields
    name := ← nameField.get fields
    acronym := ← acronymField.get fields
    description := ← descriptionField.get fields }

def MemberRecord.ofJson (value : Json) : Except ReadFault MemberRecord :=
  MemberRecord.read Json.greatestDepth value.toTree

def MemberRecord.toJson (member : MemberRecord) : Json :=
  .object [("option", .integer member.option), ("identifier", .text member.identifier),
    ("name", .text member.name), ("acronym", .text member.acronym),
    ("description", .text member.description)]

end ContractDictionary
