import ContractDictionary.Target.Literal

/-!
# Data for templates

An entity as the template of a target language sees it: names, types and literals are worked
out here, so that a template has texts to lay out and nothing to decide.  A context holds the
version of the dictionary and views of what a file is about.
-/

namespace ContractDictionary

structure MemberView where
  name : String
  acronym : String
  identifier : String
  option : Int
  description : String

def MemberView.toJson (view : MemberView) : Json :=
  .object [
    ("name", .text view.name),
    ("acronym", .text view.acronym),
    ("identifier", .text view.identifier),
    ("option", .integer view.option),
    ("description", .text view.description)]

def Member.view (member : Member) : MemberView where
  name := memberName member.acronym
  acronym := member.acronym
  identifier := member.identifier
  option := member.option
  description := member.description

structure EnumerationView where
  identifier : String
  name : String
  description : String
  typeName : String
  moduleName : String
  members : List MemberView

def EnumerationView.fields (view : EnumerationView) : List (String × Json) :=
  [("identifier", .text view.identifier),
    ("name", .text view.name),
    ("description", .text view.description),
    ("type_name", .text view.typeName),
    ("module", .text view.moduleName),
    ("members", .list (view.members.map MemberView.toJson))]

def Enumeration.view (enumeration : Enumeration) (language : Language) : EnumerationView where
  identifier := enumeration.identifier
  name := enumeration.name
  description := enumeration.description
  typeName := typeName enumeration.identifier
  moduleName := language.enumerationModule enumeration.identifier
  members := enumeration.members.map Member.view

structure ContractView where
  acronym : String
  identifier : String
  name : String
  description : String
  family : String
  classification : String
  status : String
  typeName : String
  moduleName : String

def ContractView.toJson (view : ContractView) : Json :=
  .object [
    ("acronym", .text view.acronym),
    ("identifier", .text view.identifier),
    ("name", .text view.name),
    ("description", .text view.description),
    ("family", .text view.family),
    ("classification", .text view.classification),
    ("status", .text view.status),
    ("type_name", .text view.typeName),
    ("module", .text view.moduleName)]

def Contract.view (contract : Contract) : ContractView where
  acronym := contract.acronym
  identifier := contract.identifier
  name := contract.type.name
  description := contract.type.description
  family := contract.type.family
  classification := contract.type.classification
  status := contract.type.status.name
  typeName := typeName contract.identifier
  moduleName := contractModule contract.acronym

def Language.optionalType (language : Language) (type : String) : String :=
  match language with
  | .rust => "Option<" ++ type ++ ">"
  | .python => "typing.Optional[" ++ type ++ "]"
  | .typeScript => type

/-- A field with its declared type and the expression that it starts with. -/
structure FieldView where
  type : String
  initializer : String
  deriving DecidableEq, Repr

def Literal.field (literal : Literal) (language : Language) (isArray : Bool)
    (type : String) : FieldView :=
  match language with
  | .rust =>
      if isArray then ⟨type, literal.text⟩
      else if literal.isAbsent language then ⟨language.optionalType type, literal.text⟩
      else ⟨language.optionalType type, "Some(" ++ literal.text ++ ")"⟩
  | .python =>
      if literal.isAbsent language then ⟨language.optionalType type, literal.text⟩
      else ⟨type, literal.text⟩
  | .typeScript => ⟨type, literal.text⟩

structure TermView where
  identifier : String
  name : String
  acronym : String
  description : String
  scalarType : String
  isArray : Bool
  fieldName : String
  field : FieldView
  optionalMark : String
  /-- Why the field does not start with the declared default. -/
  warning : Option Warning

def TermView.toJson (view : TermView) : Json :=
  .object [
    ("identifier", .text view.identifier),
    ("name", .text view.name),
    ("acronym", .text view.acronym),
    ("description", .text view.description),
    ("scalar_type", .text view.scalarType),
    ("is_array", .bool view.isArray),
    ("field", .text view.fieldName),
    ("field_type", .text view.field.type),
    ("initializer", .text view.field.initializer),
    ("optional_flag", .text view.optionalMark)]

def Term.view (term : Term) (language : Language) : Except GenerationError TermView := do
  let typeReference ← language.typeReference term.identifier term.type
  let literal ← term.literal language
  return {
    identifier := term.identifier
    name := term.name
    acronym := term.acronym
    description := term.description
    scalarType := term.scalarType.name
    isArray := term.isArray
    fieldName := language.fieldName term.identifier
    field := literal.field language term.isArray typeReference
    optionalMark := term.optionalMark
    warning := literal.warning }

structure StateView where
  identifier : String
  name : String
  description : String
  fieldName : String
  fieldType : String

def StateView.toJson (view : StateView) : Json :=
  .object [
    ("identifier", .text view.identifier),
    ("name", .text view.name),
    ("description", .text view.description),
    ("field", .text view.fieldName),
    ("field_type", .text view.fieldType)]

def State.view (state : State) (language : Language) : Except GenerationError StateView := do
  let typeReference ← language.typeReference state.identifier state.type
  return {
    identifier := state.identifier
    name := state.name
    description := state.shortDescription
    fieldName := language.fieldName state.identifier
    fieldType :=
      if state.type.isArray then typeReference else language.optionalType typeReference }

structure FunctionView where
  functionType : String
  eventType : String
  suffix : String
  moduleName : String

def FunctionView.toJson (view : FunctionView) : Json :=
  .object [
    ("function_type", .text view.functionType),
    ("event_type", .text view.eventType),
    ("suffix", .text view.suffix),
    ("module", .text view.moduleName)]

def FunctionStub.view (stub : FunctionStub) (language : Language) : FunctionView where
  functionType := stub.functionType.token
  eventType := stub.eventType
  suffix := stub.suffix
  moduleName := language.stubModule stub

/-! ## Contexts -/

/-- What a file shows besides the version of the dictionary. -/
inductive ContextBody where
  | enumeration (view : EnumerationView)
  | index (language : Language) (enumerations : List EnumerationView)
      (contracts : List ContractView)
  | states (views : List StateView)
  | terms (contract : ContractView) (views : List TermView)
  | algorithms (language : Language) (contract : ContractView) (functions : List FunctionView)
  | function (contract : ContractView) (view : FunctionView)

def Language.algorithmFields (language : Language) : List (String × Json) :=
  [("execute_step_module", .text language.executeStepModule),
    ("schedule_module", .text language.scheduleModule)]

def ContextBody.fields : ContextBody → List (String × Json)
  | .enumeration view => view.fields
  | .index language enumerations contracts =>
      [("enums", .list (enumerations.map fun view => .object view.fields)),
        ("contracts", .list (contracts.map ContractView.toJson))] ++ language.algorithmFields
  | .states views => [("states", .list (views.map StateView.toJson))]
  | .terms contract views =>
      [("contract", contract.toJson), ("terms", .list (views.map TermView.toJson))]
  | .algorithms language contract functions =>
      [("contract", contract.toJson),
        ("functions", .list (functions.map FunctionView.toJson))] ++ language.algorithmFields
  | .function contract view => [("contract", contract.toJson), ("function", view.toJson)]

structure Context where
  version : String
  versionDate : String
  body : ContextBody

def Context.toJson (context : Context) : Json :=
  .object ([("version", .text context.version), ("version_date", .text context.versionDate)] ++
    context.body.fields)

def Context.warnings (context : Context) : List Warning :=
  match context.body with
  | .terms _ views => views.filterMap (·.warning)
  | _ => []

def StateSet.views (states : StateSet) (language : Language) :
    Except GenerationError (List StateView) :=
  EntitySet.toList states |>.mapM fun state : State => state.view language

def TermSet.views (terms : TermSet) (language : Language) :
    Except GenerationError (List TermView) :=
  EntitySet.toList terms |>.mapM fun term : Term => term.view language

/-- What the file of a kind shows about a subject; `functions` are those of a contract. -/
def ContextBody.of (language : Language) (artifact : Artifact) (dictionary : Dictionary)
    (subject : Subject) (functions : List FunctionStub) : Except GenerationError ContextBody :=
  match artifact, subject with
  | .enumeration, .enumeration e => .ok (.enumeration (e.view language))
  | .enumerationIndex, .dictionary | .functionIndex, .dictionary | .termSetIndex, .dictionary =>
      .ok (.index language (dictionary.enumerations.map (·.view language))
        (dictionary.contracts.toList.map Contract.view))
  | .stateSpace, .dictionary =>
      (dictionary.states.views language).map .states
  | .termSet, .contract c => (c.terms.views language).map (.terms c.view)
  | .algorithmIndex, .contract c | .scheduleStub, .contract c | .executeStepStub, .contract c =>
      .ok (.algorithms language c.view (functions.map (·.view language)))
  | .payoffStub, .function stub | .stateTransitionStub, .function stub =>
      .ok (.function stub.contract.view (stub.view language))
  | artifact, subject => .error (.misplacedSubject artifact subject.describe)

/-- The data for the file of a kind about a subject. -/
def Context.of (language : Language) (artifact : Artifact) (dictionary : Dictionary)
    (subject : Subject) (functions : List FunctionStub) : Except GenerationError Context := do
  let body ← ContextBody.of language artifact dictionary subject functions
  return {
    version := dictionary.version
    versionDate := dictionary.versionDate.date.text
    body }

end ContractDictionary
