import ContractDictionary.Model.Dictionary

/-!
# What is generated

The kinds of files, what a single file is about, and the functions of a reference implementation.
The latter has a directory for each contract type, named by the acronym in lower case, and in it
one file for each function.  A file's name begins with the token of the function's type and the
event for which the function is; digits at its end tell functions for one event apart.
-/

namespace ContractDictionary

inductive FunctionType where
  /-- The payoff of an event. -/
  | payoff
  /-- The states after an event. -/
  | stateTransition
  deriving DecidableEq, Repr

namespace FunctionType

def all : List FunctionType :=
  [.payoff, .stateTransition]

def token : FunctionType → String
  | .payoff => "POF"
  | .stateTransition => "STF"

def ofToken? (token : String) : Option FunctionType :=
  all.find? (·.token == token)

def ofToken (token : String) : Except UnknownName FunctionType :=
  match ofToken? token with
  | some type => .ok type
  | none => .error (.functionType token)

end FunctionType

structure FunctionStub where
  contract : Contract
  functionType : FunctionType
  /-- The event as the file name gives it. -/
  eventType : String
  /-- The digits that tell the function from others for the event, or nothing. -/
  suffix : String

namespace FunctionStub

def sortKey (stub : FunctionStub) : List String :=
  [stub.contract.acronym, stub.eventType, stub.suffix]

def describe (stub : FunctionStub) : String :=
  stub.functionType.token ++ " " ++ stub.eventType ++ stub.suffix ++ " of " ++
    stub.contract.acronym

end FunctionStub

/-- The name of a file up to its last point, a point in front not counted. -/
def fileStem (name : String) : String :=
  let cs := name.toList
  let beforeLast := (cs.reverse.dropWhile (· ≠ '.')).tail.reverse
  if beforeLast.isEmpty then name else String.ofList beforeLast

def trailingDigits (cs : List Char) : List Char :=
  (cs.reverse.takeWhile Char.isDigit).reverse

/-- The parts of a stem: its function type, its event and its digits. -/
structure StemParts where
  functionType : FunctionType
  eventType : List Char
  suffix : List Char

/-- The parts of a stem: a token and an event, with underscores behind them. -/
def stemParts? (stem : List Char) : Option StemParts := do
  let isInner := fun c : Char => c ≠ '_'
  let functionType ← FunctionType.ofToken? (String.ofList (stem.takeWhile isInner))
  let afterToken := (stem.dropWhile isInner).tail
  let eventType := afterToken.takeWhile isInner
  let rest := (afterToken.dropWhile isInner).tail
  if eventType.isEmpty then none
  else return ⟨functionType, eventType, trailingDigits rest⟩

/--
The files of a reference implementation that matter: for directories named as given, the
names of the regular files in them.  A name that is no directory is left out.
-/
structure Reference where
  directories : List (String × List String)

/-- The names of the files in a directory, none if there is no such directory. -/
def Reference.files (reference : Reference) (directory : String) : List String :=
  (reference.directories.lookup directory).getD []

def Contract.directory (contract : Contract) : String :=
  Text.lower contract.acronym

def Contract.stub? (contract : Contract) (functionType : FunctionType) (file : String) :
    Option FunctionStub := do
  let parts ← stemParts? (fileStem file).toList
  if parts.functionType = functionType then
    return {
      contract
      functionType
      eventType := String.ofList parts.eventType
      suffix := String.ofList parts.suffix }
  else
    none

def FunctionStub.arrange (stubs : List FunctionStub) : List FunctionStub :=
  dropRepeats (fun a b => a.sortKey == b.sortKey)
    (sortBy (fun a b => inTextOrder a.sortKey b.sortKey) stubs)

def Reference.discover (reference : Reference) (contracts : ContractSet)
    (functionType : FunctionType) : List FunctionStub :=
  FunctionStub.arrange <| contracts.toList.flatMap fun contract =>
    (reference.files contract.directory).filterMap (contract.stub? functionType)

/-- A kind of generated files. -/
inductive Artifact where
  | enumeration
  | enumerationIndex
  | functionIndex
  | payoffStub
  | stateTransitionStub
  | algorithmIndex
  | scheduleStub
  | executeStepStub
  | stateSpace
  | termSet
  | termSetIndex
  deriving DecidableEq, Repr

/-- What the files of one kind are about. -/
inductive Scope where
  /-- One file for the dictionary. -/
  | dictionary
  /-- One file for each enumeration. -/
  | enumerations
  /-- One file for each contract. -/
  | contracts
  /-- One file for each function of the reference implementation. -/
  | functions (type : FunctionType)
  deriving DecidableEq, Repr

namespace Artifact

def all : List Artifact :=
  [.enumeration, .enumerationIndex, .functionIndex, .payoffStub, .stateTransitionStub,
    .algorithmIndex, .scheduleStub, .executeStepStub, .stateSpace, .termSet, .termSetIndex]

def name : Artifact → String
  | .enumeration => "enum"
  | .enumerationIndex => "enum_index"
  | .functionIndex => "func_index"
  | .payoffStub => "payoff_stub"
  | .stateTransitionStub => "state_transition_stub"
  | .algorithmIndex => "algorithm_stub_index"
  | .scheduleStub => "schedule_stub"
  | .executeStepStub => "execute_step_stub"
  | .stateSpace => "state_space"
  | .termSet => "term_set"
  | .termSetIndex => "term_set_index"

def ofName? (name : String) : Option Artifact :=
  all.find? (·.name == name)

def scope : Artifact → Scope
  | .enumerationIndex | .functionIndex | .stateSpace | .termSetIndex => .dictionary
  | .enumeration => .enumerations
  | .termSet | .algorithmIndex | .scheduleStub | .executeStepStub => .contracts
  | .payoffStub => .functions .payoff
  | .stateTransitionStub => .functions .stateTransition

def listsFunctions : Artifact → Bool
  | .algorithmIndex | .scheduleStub | .executeStepStub => true
  | _ => false

@[simp] theorem ofName?_name (artifact : Artifact) : ofName? artifact.name = some artifact := by
  cases artifact <;> decide

theorem mem_all (artifact : Artifact) : artifact ∈ all := by
  cases artifact <;> decide

end Artifact

/-- What a single file is about. -/
inductive Subject where
  | dictionary
  | enumeration (enumeration : Enumeration)
  | contract (contract : Contract)
  | function (stub : FunctionStub)

def Subject.describe : Subject → String
  | .dictionary => "dictionary"
  | .enumeration e => "enum " ++ e.identifier
  | .contract c => "contract " ++ c.acronym
  | .function stub => stub.describe

end ContractDictionary
