import ContractDictionary.Generation.Context
import ContractDictionary.Template.Collection

/-!
# Generated files

Files are generated and written kind by kind.  A file that cannot be generated is a failure of its
own and keeps no other file from being generated; the first one that cannot be written ends the
run, as does a reference implementation that cannot be read.
-/

namespace ContractDictionary

structure Generator where
  language : Language
  dictionary : Dictionary
  templates : TemplateCollection

structure GeneratedFile where
  subject : Subject
  /-- The location below the output directory. -/
  path : String
  content : String
  warnings : List Warning

structure GenerationFailure where
  artifact : Artifact
  /-- The subject of the file as messages name it. -/
  subject : String
  error : GenerationError
  deriving DecidableEq, Repr

/-- The files of one kind, with those that could not be generated. -/
structure Batch where
  artifact : Artifact
  files : List GeneratedFile
  failures : List GenerationFailure

def Batch.warnings (batch : Batch) : List Warning :=
  batch.files.flatMap (·.warnings)

def Subject.owns (subject : Subject) (stub : FunctionStub) : Bool :=
  match subject with
  | .contract owner => sameEntity stub.contract owner
  | _ => false

namespace Generator

def subjects (generator : Generator) (reference : Reference) (artifact : Artifact) :
    List Subject :=
  match artifact.scope with
  | .dictionary => [.dictionary]
  | .enumerations => generator.dictionary.enumerations.map .enumeration
  | .contracts => generator.dictionary.contracts.toList.map .contract
  | .functions type => (reference.discover generator.dictionary.contracts type).map .function

/-- The functions that files of a kind may list, those of one type after those of another. -/
def functions (generator : Generator) (reference : Reference) (artifact : Artifact) :
    List FunctionStub :=
  if artifact.listsFunctions then
    FunctionType.all.flatMap (reference.discover generator.dictionary.contracts)
  else
    []

/-- The file of a kind about a subject, which lists those of the functions that belong to it. -/
def file (generator : Generator) (artifact : Artifact) (functions : List FunctionStub)
    (subject : Subject) : Except GenerationError GeneratedFile := do
  let path ← generator.language.location artifact subject
  let context ← Context.of generator.language artifact generator.dictionary subject
    (functions.filter subject.owns)
  let content ← generator.templates.render generator.language artifact context.toJson
  return { subject, path, content, warnings := context.warnings }

def filesAbout (generator : Generator) (artifact : Artifact) (functions : List FunctionStub) :
    List Subject → Batch
  | [] => ⟨artifact, [], []⟩
  | subject :: rest =>
      let batch := generator.filesAbout artifact functions rest
      match generator.file artifact functions subject with
      | .ok file => { batch with files := file :: batch.files }
      | .error error =>
          { batch with failures := ⟨artifact, subject.describe, error⟩ :: batch.failures }

def batch (generator : Generator) (reference : Reference) (artifact : Artifact) : Batch :=
  generator.filesAbout artifact (generator.functions reference artifact)
    (generator.subjects reference artifact)

def batches (generator : Generator) (reference : Reference) : List Batch :=
  Artifact.all.map (generator.batch reference)

end Generator

def Artifact.needsReference (artifact : Artifact) : Bool :=
  match artifact.scope with
  | .functions _ => true
  | _ => artifact.listsFunctions

/-- The files of a kind; for a kind that needs it, the reference implementation is read anew. -/
def Generator.dispatch {m : Type → Type} [Monad m] (generator : Generator)
    (readReference : m Reference) (artifact : Artifact) : m Batch := do
  if artifact.needsReference then
    return generator.batch (← readReference) artifact
  else
    return generator.batch ⟨[]⟩ artifact

/-- The files of a kind, or the error that they need a reference implementation. -/
def Generator.batch? (generator : Generator) (reference : Option Reference)
    (artifact : Artifact) : Except GenerationError Batch :=
  let readReference :=
    match reference with
    | some reference => .ok reference
    | none =>
        .error (.precondition
          (artifact.name ++ " generation requires a reference implementation path"))
  generator.dispatch readReference artifact

/-! ## Writing -/

/-- Where generated files go: a file is written by its path below the output directory. -/
structure Sink (m : Type → Type) where
  write : String → String → m (Except GenerationError Unit)

/-- Write the files in order, up to the first one that cannot be written. -/
def Sink.writeAll {m : Type → Type} [Monad m] (sink : Sink m) :
    List GeneratedFile → m (Except GenerationError Unit)
  | [] => return .ok ()
  | file :: rest => do
      match ← sink.write file.path file.content with
      | .ok () => sink.writeAll rest
      | .error error => return .error error

structure Report where
  /-- The paths of the files that were written, in order. -/
  written : List String
  failures : List GenerationFailure
  /-- The warnings in order, each once. -/
  warnings : List Warning

def Report.isSuccess (report : Report) : Bool :=
  report.failures.isEmpty

def plannedFiles (batches : List Batch) : List GeneratedFile :=
  batches.flatMap (·.files)

def Report.ofBatches (batches : List Batch) : Report where
  written := (plannedFiles batches).map (·.path)
  failures := batches.flatMap (·.failures)
  warnings := Warning.summary (batches.flatMap Batch.warnings)

namespace Generator

variable {m : Type → Type} [Monad m]

def generateKind (generator : Generator) (readReference : ExceptT GenerationError m Reference)
    (sink : Sink m) (artifact : Artifact) : ExceptT GenerationError m Batch := do
  let batch ← generator.dispatch readReference artifact
  ExceptT.mk (sink.writeAll batch.files)
  return batch

/-- Generate and write the files of all kinds, and read the reference implementation for each. -/
def runFrom (generator : Generator) (readReference : ExceptT GenerationError m Reference)
    (sink : Sink m) : ExceptT GenerationError m Report := do
  let batches ← Artifact.all.mapM (generator.generateKind readReference sink)
  return Report.ofBatches batches

/-- A run for a reference implementation that can always be read, and is the same for all kinds. -/
def run (generator : Generator) (reference : Reference) (sink : Sink m) :
    m (Except GenerationError Report) :=
  (generator.runFrom (pure reference) sink).run

end Generator

/-- Written files with their contents, each path once whatever its writing. -/
structure WrittenFiles where
  entries : List (String × String)

namespace WrittenFiles

def empty : WrittenFiles := ⟨[]⟩

/-- Put a file among others, in the place of one with its path. -/
def insertEntry (path content : String) : List (String × String) → List (String × String)
  | [] => [(path, content)]
  | entry :: rest =>
      if Path.parts entry.1 = Path.parts path then (entry.1, content) :: rest
      else entry :: insertEntry path content rest

def insert (files : WrittenFiles) (path content : String) : WrittenFiles :=
  ⟨insertEntry path content files.entries⟩

/-- The content of the file that was last written to a path. -/
def get? (files : WrittenFiles) (path : String) : Option String :=
  (files.entries.find? fun entry => Path.parts entry.1 = Path.parts path).map Prod.snd

def sink : Sink (StateM WrittenFiles) where
  write path content := do
    modify (·.insert path content)
    return .ok ()

end WrittenFiles

def templatePath (root : String) (language : Language) (artifact : Artifact) : String :=
  Path.joinAll root [language.extension, templateName language artifact ++ ".hbs"]

namespace FileReader

variable {m : Type → Type} [Monad m]

/-- The names of the files in a directory for functions, none if there is no such directory. -/
def functionFiles (reader : FileReader m) (path : String) :
    ExceptT GenerationError m (List String) := do
  if !(← reader.isDirectory path) then
    return []
  else
    match ← reader.fileNames path with
    | some names => return names
    | none => throw (.inaccessible path)

def reference (reader : FileReader m) (root : String) (contracts : ContractSet) :
    ExceptT GenerationError m Reference := do
  let directories ← contracts.toList.mapM fun contract => do
    let names ← reader.functionFiles (Path.join root contract.directory)
    return (contract.directory, names)
  return { directories }

/-- What is needed before files are generated: the output and the reference directory. -/
def checkDirectories (reader : FileReader m) (output reference : String) :
    m (Except GenerationError Unit) := do
  if !(← reader.isDirectory output) then
    return .error (.precondition
      ("output directory " ++ output ++ " does not exist or is not a directory"))
  else if !(← reader.isDirectory reference) then
    return .error (.precondition
      ("reference implementation " ++ reference ++ " does not exist or is not a directory"))
  else
    return .ok ()

/-- What is found where the written template of a kind is looked for. -/
def templateSource (reader : FileReader m) (root : String) (language : Language)
    (artifact : Artifact) : m TemplateSource := do
  if !(← reader.isFile (templatePath root language artifact)) then
    return .missing
  else
    match ← reader.readText (templatePath root language artifact) with
    | some text => return .written text
    | none => return .unreadable (templatePath root language artifact)

def templates (reader : FileReader m) (engine : TemplateEngine) (root : String)
    (languages : List Language) : m (Except GenerationError TemplateCollection) := do
  let sources ← (TemplateCollection.demanded languages).mapM fun key => do
    let source ← reader.templateSource root key.1 key.2
    return (key, source)
  return TemplateCollection.ofSources engine sources

end FileReader

namespace Disk

variable {m : Type → Type} [Monad m]

def save (disk : Disk m) (target content : String) : m (Except GenerationError Unit) := do
  match Path.parent? target with
  | none => write
  | some parent =>
      if ← disk.createDirectories parent then write else return .error (.inaccessible parent)
where
  /-- Write the file where its directory exists. -/
  write : m (Except GenerationError Unit) := do
    if ← disk.writeText target content then return .ok ()
    else return .error (.inaccessible target)

def sink (disk : Disk m) (root : String) : Sink m where
  write path content := disk.save (Path.join root path) content

def generate (disk : Disk m) (generator : Generator) (output referenceRoot : String) :
    m (Except GenerationError Report) := do
  match ← disk.checkDirectories output referenceRoot with
  | .error error => return .error error
  | .ok () =>
      let readReference := disk.reference referenceRoot generator.dictionary.contracts
      (generator.runFrom readReference (disk.sink output)).run

end Disk

end ContractDictionary
