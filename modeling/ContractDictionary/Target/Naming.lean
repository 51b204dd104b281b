import ContractDictionary.Files.Tree
import ContractDictionary.Target.Artifact
import ContractDictionary.Text.Words

/-!
# Names and locations in target languages

The names of modules, types, members and fields that stand for the entities of a dictionary, and
where files are generated: types apart from algorithms, with a directory for each contract, all of
them below the output directory.
-/

namespace ContractDictionary

inductive Language where
  | python
  | rust
  | typeScript
  deriving DecidableEq, Repr

namespace Language

def all : List Language :=
  [.python, .rust, .typeScript]

def name : Language → String
  | .python => "python"
  | .rust => "rust"
  | .typeScript => "typescript"

def ofName? (name : String) : Option Language :=
  all.find? (·.name == name)

/-- The extension of source files, which also names the folder of the language's templates. -/
def extension : Language → String
  | .python => "py"
  | .rust => "rs"
  | .typeScript => "ts"

def indexFile : Language → String
  | .python => "__init__.py"
  | .rust => "mod.rs"
  | .typeScript => "index.ts"

@[simp] theorem ofName?_name (language : Language) : ofName? language.name = some language := by
  cases language <;> decide

end Language

inductive GenerationError where
  | unsupportedType (language : Language) (termId : String) (scalar : ScalarType)
  | emptyEnumeration (identifier : String)
  | misplacedSubject (artifact : Artifact) (subject : String)
  | missingTemplate (language : Language) (name : String)
  | invalidTemplate (name : String)
  | unrenderable (name : String)
  | precondition (condition : String)
  /-- A file or directory cannot be read or written. -/
  | inaccessible (path : String)
  deriving DecidableEq, Repr

def GenerationError.message? : GenerationError → Option String
  | .unsupportedType language termId scalar =>
      some ("No " ++ language.name ++ " mapping for " ++ scalar.name ++
        " (term '" ++ termId ++ "')")
  | .emptyEnumeration identifier => some ("Enum '" ++ identifier ++ "' declares no members")
  | .misplacedSubject artifact subject =>
      some (artifact.name ++ " generator cannot place " ++ subject)
  | .missingTemplate language name =>
      some ("Missing " ++ language.name ++ " template '" ++ name ++ "'")
  | .precondition condition => some ("Precondition failed: " ++ condition)
  | .invalidTemplate _ | .unrenderable _ | .inaccessible _ => none

def typeName (identifier : String) : String :=
  Text.pascal "_" identifier

/-- The name of a member: its acronym in upper case, with an underscore before a digit. -/
def memberName (acronym : String) : String :=
  let name := Text.upper acronym
  match name.toList with
  | c :: _ => if c.isDigit then "_" ++ name else name
  | [] => name

def contractModule (acronym : String) : String :=
  Text.lower acronym

namespace Language

def enumerationModule (language : Language) (identifier : String) : String :=
  match language with
  | .python | .rust => Text.snake identifier
  | .typeScript => Text.camel "_" identifier

def algorithmModule (language : Language) (name : String) : String :=
  match language with
  | .python | .rust => name
  | .typeScript => Text.camel "_" name

def executeStepModule (language : Language) : String :=
  language.algorithmModule "do_execute_step"

def scheduleModule (language : Language) : String :=
  language.algorithmModule "do_get_schedule"

def stubModule (language : Language) (stub : FunctionStub) : String :=
  let stem := Text.lower stub.functionType.token ++ "_" ++ stub.eventType
  let name := if stub.suffix = "" then stem else stem ++ "_" ++ stub.suffix
  match language with
  | .python | .rust => Text.lower name
  | .typeScript => name

def fieldName (language : Language) (identifier : String) : String :=
  match language with
  | .python | .rust => Text.snake identifier
  | .typeScript => identifier

end Language

/-! ## Locations -/

def typesDirectory : String := "types"

def algorithmsDirectory : String := "algos"

namespace Language

def sourceFile (language : Language) (stem : String) : String :=
  stem ++ "." ++ language.extension

def functionIndexFile : Language → String
  | .python => "executor.py"
  | .rust => Language.rust.indexFile
  | .typeScript => Language.typeScript.indexFile

def typesFile (folder file : String) : String :=
  Path.joinAll typesDirectory [folder, file]

def contractFile (contract : Contract) (file : String) : String :=
  Path.joinAll algorithmsDirectory [contractModule contract.acronym, file]

/-- The location of the file of a kind about a subject, if the kind has files about it. -/
def location? (language : Language) (artifact : Artifact) (subject : Subject) : Option String :=
  match artifact, subject with
  | .enumeration, .enumeration e =>
      some (typesFile "enums" (language.sourceFile (language.enumerationModule e.identifier)))
  | .enumerationIndex, .dictionary => some (typesFile "enums" language.indexFile)
  | .functionIndex, .dictionary =>
      some (Path.join algorithmsDirectory language.functionIndexFile)
  | .stateSpace, .dictionary => some (typesFile "core" (language.sourceFile "states"))
  | .termSetIndex, .dictionary => some (typesFile "terms" language.indexFile)
  | .termSet, .contract c =>
      some (typesFile "terms" (language.sourceFile (contractModule c.acronym)))
  | .algorithmIndex, .contract c => some (contractFile c language.indexFile)
  | .scheduleStub, .contract c =>
      some (contractFile c (language.sourceFile language.scheduleModule))
  | .executeStepStub, .contract c =>
      some (contractFile c (language.sourceFile language.executeStepModule))
  | .payoffStub, .function stub | .stateTransitionStub, .function stub =>
      if artifact.scope = .functions stub.functionType then
        some (contractFile stub.contract (language.sourceFile (language.stubModule stub)))
      else
        none
  | _, _ => none

/-- The location of a file, or the error that the subject does not suit the kind. -/
def location (language : Language) (artifact : Artifact) (subject : Subject) :
    Except GenerationError String :=
  match language.location? artifact subject with
  | some path => .ok path
  | none => .error (.misplacedSubject artifact subject.describe)

end Language

end ContractDictionary
