import ContractDictionary.Document.Reading
import ContractDictionary.Model.Dictionary

/-!
# Normal form of a document

Before a document is compiled its known gaps are closed: the enumerations of contract
references get identifiers, contract types that the enumeration of contract types lacks are
added to it, defaults lose the white space around them, and the acronyms of scaling effects,
which may be written with zeros, get letters.
-/

namespace ContractDictionary

/-- Why a document has no dictionary. -/
inductive CompileError where
  /-- The file with the document cannot be read as text. -/
  | unreadable (path : String)
  /-- The text is not that of a document. -/
  | undecodable (fault : ReadFault)
  /-- An allowed value is not a member. -/
  | invalidMember (location : String) (fault : ReadFault)
  | missingField (name : String)
  | invalidValue (location : String) (cause : UnknownName)
  | invalidDate (text : String)
  | unknownTerm (contractTypeId termId : String)
  | unknownContractType (identifier : String)
  deriving DecidableEq, Repr

/-- The text of an error that consists of names in the document alone. -/
def CompileError.message? : CompileError → Option String
  | .unreadable _ | .undecodable _ | .invalidMember .. => none
  | .missingField name => some ("Missing required field: " ++ name)
  | .invalidValue location cause =>
      some ("Invalid value at " ++ location ++ ": " ++ cause.message)
  | .invalidDate text => some ("Invalid version date: " ++ text)
  | .unknownTerm contractTypeId termId =>
      some ("Contract type '" ++ contractTypeId ++ "' references unknown term '" ++ termId ++ "'")
  | .unknownContractType identifier =>
      some ("Applicability declared for unknown contract type '" ++ identifier ++ "'")

def referenceRoleId : String := "referenceRole"

def referenceTypeId : String := "referenceType"

def contractTypeTerm : String := "contractType"

/-- The term whose acronyms may be written with zeros. -/
def scalingEffectTerm : String := "scalingEffect"

def declaredAcronyms (values : List Json) : List String :=
  values.filterMap fun value => (value.field? "acronym").bind Json.asText?

/-- The contract types without a declared member, in the order of their acronyms. -/
def missingTypes (declared : List String) (types : List ContractTypeRecord) :
    List ContractTypeRecord :=
  sortOn (·.acronym)
    (types.filter fun type =>
      type.acronym != experimentalAcronym && !declared.contains type.acronym)

/--
The member that stands for the missing contract type at a position.  Options are signed 64-bit
words; those of such members are negative, to stand before all others.
-/
def syntheticMember (position : Nat) (type : ContractTypeRecord) : MemberRecord where
  option := (-(Int64.ofNat position) - 1).toInt
  identifier := type.identifier
  name := type.name
  acronym := Text.upper type.acronym
  description := type.description

/-- The members for the contract types that some allowed values lack. -/
def syntheticMembers (values : List Json) (taxonomy : Keyed ContractTypeRecord) :
    List MemberRecord :=
  (missingTypes (declaredAcronyms values) taxonomy.values).mapIdx syntheticMember

/-- The allowed values with a member for each contract type. -/
def completeTypes (values : List Json) (taxonomy : Keyed ContractTypeRecord) : List Json :=
  values ++ (syntheticMembers values taxonomy).map MemberRecord.toJson

/-- A default without white space around it; absent if nothing remains. -/
def trimDefault (default : Option String) : Option String :=
  (default.map Text.trim).filter (· ≠ "")

def scalingAcronyms : List (String × String) :=
  [("000", "OOO"), ("I00", "IOO"), ("0N0", "ONO"), ("IN0", "INO")]

def repairAcronym (acronym : String) : String :=
  (scalingAcronyms.lookup acronym).getD acronym

def repairField : String × Json → String × Json
  | ("acronym", .text acronym) => ("acronym", .text (repairAcronym acronym))
  | field => field

def repairValue : Json → Json
  | .record fields => .record (fields.map repairField)
  | value => value

def repairScaling (term : TermRecord) : TermRecord :=
  { term with
    allowedValues := term.allowedValues.map repairValue
    default := term.default.map repairAcronym }

def TermRecord.normalize (taxonomy : Keyed ContractTypeRecord) (key : String)
    (term : TermRecord) : TermRecord :=
  let completed :=
    if key = contractTypeTerm then
      { term with allowedValues := completeTypes term.allowedValues taxonomy }
    else
      term
  let trimmed := { completed with default := trimDefault completed.default }
  if key = scalingEffectTerm then repairScaling trimmed else trimmed

def Document.normalize (document : Document) : Except CompileError Document :=
  match document.terms.get? contractTypeTerm with
  | none => .error (.missingField ("terms." ++ contractTypeTerm))
  | some _ =>
      .ok { document with
        referenceRole := { document.referenceRole with identifier := some referenceRoleId }
        referenceType := { document.referenceType with identifier := some referenceTypeId }
        terms := document.terms.map (TermRecord.normalize document.taxonomy) }

end ContractDictionary
