import ContractDictionary.Compile.Compilation
import ContractDictionary.Generation.Output

/-!
# A run of the program

An option takes its value from the argument behind it or, after `=`, from its own.  The value
of an option is examined when the next option begins or the arguments end, so of two faults
the first one in the order of the arguments is stated; only an argument that nothing takes is
stated at once.

In a run, templates are loaded first, then the dictionary is compiled, and files are generated
last; nothing is written before the last of these steps.
-/

namespace ContractDictionary.CommandLine

inductive OptionName where
  /-- The target language. -/
  | language
  /-- The output directory. -/
  | output
  /-- The directory of the reference implementation. -/
  | reference
  /-- The file of the dictionary. -/
  | dictionary
  /-- The directory of written templates. -/
  | templates
  /-- What to log. -/
  | logLevel
  deriving DecidableEq, Repr

namespace OptionName

def all : List OptionName :=
  [.language, .output, .reference, .dictionary, .templates, .logLevel]

def word : OptionName → String
  | .language => "lang"
  | .output => "dest"
  | .reference => "core"
  | .dictionary => "dictionary"
  | .templates => "templates"
  | .logLevel => "log-level"

def ofWord? (word : String) : Option OptionName :=
  all.find? (·.word == word)

def accepts (name : OptionName) (value : String) : Bool :=
  match name with
  | .language => (Language.ofName? value).isSome
  | .output | .reference | .dictionary | .templates => value ≠ ""
  | .logLevel => true

end OptionName

/-- Why arguments are not those of a run. -/
inductive UsageFault where
  /-- A value is missing or not one that its option may have. -/
  | invalidValue
  | missingOption
  | unknownArgument
  /-- An option is given twice. -/
  | repeatedOption
  /-- A value is given to what takes none. -/
  | unexpectedValue
  | helpRequested
  | versionRequested
  deriving DecidableEq, Repr

/-- The values that options have in a run. -/
structure Arguments where
  language : Language
  output : String
  reference : String
  dictionary : String
  templates : Option String
  logLevel : Option String
  deriving DecidableEq, Repr

structure Environment where
  /-- The file of the dictionary if no option gives it. -/
  dictionary : Option String
  /-- What to log if no option says so. -/
  logFilter : Option String

inductive Word where
  /-- Two hyphens, behind which no options stand. -/
  | separator
  /-- A word after two hyphens, with the value behind `=`. -/
  | long (name : String) (value : Option String)
  /-- Letters after one hyphen. -/
  | short (letters : List Char)
  | plain (value : String)

def splitLong (cs : List Char) : Word :=
  let name := String.ofList (cs.takeWhile (· ≠ '='))
  match cs.dropWhile (· ≠ '=') with
  | [] => .long name none
  | _ :: value => .long name (some (String.ofList value))

def Word.ofArgument (argument : String) : Word :=
  match argument.toList with
  | ['-', '-'] => .separator
  | '-' :: '-' :: cs => splitLong cs
  | '-' :: c :: cs => .short (c :: cs)
  | _ => .plain argument

/-- What a word after two hyphens asks for instead of a run. -/
def wordRequest? (word : String) : Option UsageFault :=
  if word = "help" then some .helpRequested
  else if word = "version" then some .versionRequested
  else none

/-- What a letter after one hyphen asks for instead of a run. -/
def letterRequest? (letter : Char) : Option UsageFault :=
  match letter with
  | 'h' => some .helpRequested
  | 'V' => some .versionRequested
  | _ => none

/-- Values that were given, and an option whose value was not examined yet. -/
structure Progress where
  given : List (OptionName × String)
  pending : Option (OptionName × Option String)

namespace Progress

def start : Progress := ⟨[], none⟩

def give (progress : Progress) (name : OptionName) (value : String) :
    Except UsageFault Progress :=
  if (progress.given.lookup name).isSome then .error .repeatedOption
  else if !name.accepts value then .error .invalidValue
  else .ok { progress with given := (name, value) :: progress.given }

def settle (progress : Progress) : Except UsageFault Progress :=
  match progress.pending with
  | none => .ok progress
  | some (_, none) => .error .invalidValue
  | some (name, some value) => { progress with pending := none }.give name value

def takeLong (progress : Progress) (word : String) (value : Option String) :
    Except UsageFault Progress :=
  match OptionName.ofWord? word with
  | some name => do
      let settled ← progress.settle
      match value with
      | some value => settled.give name value
      | none => return { settled with pending := some (name, none) }
  | none =>
      match wordRequest? word, value with
      | none, _ => .error .unknownArgument
      | some _, some _ => .error .unexpectedValue
      | some fault, none => progress.settle.bind fun _ => .error fault

/-- The progress after letters behind one hyphen, none of which names an option. -/
def takeShort (progress : Progress) (letters : List Char) : Except UsageFault Progress :=
  match letters.head?.bind letterRequest? with
  | none => .error .unknownArgument
  | some fault => progress.settle.bind fun _ => .error fault

/-- The progress after an argument that is the value of the pending option. -/
def takePlain (progress : Progress) (value : String) : Except UsageFault Progress :=
  match progress.pending with
  | some (name, none) => .ok { progress with pending := some (name, some value) }
  | _ => .error .unknownArgument

def read (progress : Progress) : List String → Except UsageFault Progress
  | [] => progress.settle
  | argument :: rest =>
      match Word.ofArgument argument with
      | .separator => if rest.isEmpty then progress.settle else .error .unknownArgument
      | .long word value => do
          let next ← progress.takeLong word value
          next.read rest
      | .short letters => progress.takeShort letters
      | .plain value => do
          let next ← progress.takePlain value
          next.read rest

def require (progress : Progress) (name : OptionName) : Except UsageFault String :=
  match progress.given.lookup name with
  | some value => .ok value
  | none => .error .missingOption

def useEnvironment (progress : Progress) (environment : Environment) :
    Except UsageFault Progress :=
  match progress.given.lookup .dictionary, environment.dictionary with
  | none, some path => progress.give .dictionary path
  | _, _ => .ok progress

end Progress

def Arguments.ofList (arguments : List String) (environment : Environment) :
    Except UsageFault Arguments := do
  let progress ← Progress.start.read arguments
  let progress ← progress.useEnvironment environment
  let languageName ← progress.require .language
  let output ← progress.require .output
  let reference ← progress.require .reference
  let dictionary ← progress.require .dictionary
  match Language.ofName? languageName with
  | none => .error .invalidValue
  | some language => return {
      language
      output
      reference
      dictionary
      templates := progress.given.lookup .templates
      logLevel := progress.given.lookup .logLevel }

def defaultLogFilter : String := "info"

def Arguments.logFilter (arguments : Arguments) (environment : Environment) : String :=
  (arguments.logLevel.or environment.logFilter).getD defaultLogFilter

/-! ## Runs -/

inductive RunError where
  | templates (error : GenerationError)
  | dictionary (path : String) (error : CompileError)
  | generation (error : GenerationError)
  deriving DecidableEq, Repr

def RunError.context? : RunError → Option String
  | .templates _ => some "Failed to load templates"
  | .dictionary path _ => some ("Failed to compile " ++ path)
  | .generation _ => none

end ContractDictionary.CommandLine

namespace ContractDictionary

open CommandLine

variable {m : Type → Type} [Monad m]

def FileReader.templatesFor (reader : FileReader m) (engine : TemplateEngine)
    (arguments : Arguments) : m (Except GenerationError TemplateCollection) :=
  match arguments.templates with
  | some root => reader.templates engine root [arguments.language]
  | none => return .ok (TemplateCollection.builtin [arguments.language])

def FileReader.compile (reader : FileReader m) (path : String) :
    m (Except CompileError Compilation) := do
  match ← reader.readText path with
  | none => return .error (.unreadable path)
  | some text => return compileText text

def Disk.execute (disk : Disk m) (engine : TemplateEngine) (arguments : Arguments) :
    m (Except RunError Report) := do
  match ← disk.templatesFor engine arguments with
  | .error error => return .error (.templates error)
  | .ok templates =>
      match ← disk.compile arguments.dictionary with
      | .error error => return .error (.dictionary arguments.dictionary error)
      | .ok compilation =>
          let generator := ⟨arguments.language, compilation.dictionary, templates⟩
          let result ← disk.generate generator arguments.output arguments.reference
          return result.mapError .generation

end ContractDictionary

namespace ContractDictionary.CommandLine

def versionText : String := "actus-mp 0.1.0"

def usageText : String :=
  "Usage: actus-mp --lang <python|rust|typescript> --dest <DIRECTORY> --core <DIRECTORY> " ++
    "--dictionary <FILE> [--templates <DIRECTORY>] [--log-level <FILTER>]"

def UsageFault.message : UsageFault → String
  | .invalidValue => "error: a value is missing or not allowed"
  | .missingOption => "error: a required option is not given"
  | .unknownArgument => "error: an argument is not known"
  | .repeatedOption => "error: an option is given more than once"
  | .unexpectedValue => "error: a value is given to an option that takes none"
  | .helpRequested => usageText
  | .versionRequested => versionText

def UsageFault.isRequest : UsageFault → Bool
  | .helpRequested | .versionRequested => true
  | _ => false

def generationText (error : GenerationError) : String :=
  match error with
  | .invalidTemplate name => "Template '" ++ name ++ "' failed to compile"
  | .unrenderable name => "Failed to render '" ++ name ++ "'"
  | .inaccessible path => "I/O error on " ++ path
  | _ => error.message?.getD ""

def compilationText (error : CompileError) : String :=
  match error with
  | .unreadable path => "I/O error on " ++ path
  | .undecodable _ => "Failed to decode the dictionary document"
  | .invalidMember location _ => "Schema violation at " ++ location
  | _ => error.message?.getD ""

def RunError.message (error : RunError) : String :=
  let cause :=
    match error with
    | .templates error | .generation error => generationText error
    | .dictionary _ error => compilationText error
  match error.context? with
  | some context => context ++ ": " ++ cause
  | none => cause

def failureText (failure : GenerationFailure) : String :=
  failure.artifact.name ++ " of " ++ failure.subject ++ ": " ++ generationText failure.error

def reportTexts (report : Report) : List String :=
  report.warnings.map (fun warning => "warning: " ++ warning.message) ++
    report.failures.map (fun failure => "error: " ++ failureText failure)

end ContractDictionary.CommandLine
