import ContractDictionary.Template.Builtin
import ContractDictionary.Template.Reading
import ContractDictionary.Template.Render

/-!
# Collections of templates

A collection has the templates of some languages, with one for each kind of files.  It is either
built in or made of written templates, the first fault of which is stated.  What written templates
are and what they give for data is left to an engine.
-/

namespace ContractDictionary

def templateName (language : Language) (artifact : Artifact) : String :=
  language.extension ++ "_" ++ artifact.name

/--
What the templates of a language give for data: the text of the one of a kind, if it can be filled
with them.  A template may include others, so all of them together say what each one gives.
-/
abbrev TemplateRegistry := Artifact → Json → Option String

structure TemplateCollection where
  registered : Language → Option TemplateRegistry

namespace TemplateCollection

def languages (collection : TemplateCollection) : List Language :=
  Language.all.filter fun language => (collection.registered language).isSome

def render (collection : TemplateCollection) (language : Language) (artifact : Artifact)
    (data : Json) : Except GenerationError String :=
  match collection.registered language with
  | none => .error (.missingTemplate language (templateName language artifact))
  | some registry =>
      match registry artifact data with
      | some text => .ok text
      | none => .error (.unrenderable (templateName language artifact))

end TemplateCollection

def Template.builtin (language : Language) : Artifact → Template
  | .enumeration => Builtin.enumeration language
  | .enumerationIndex => Builtin.enumerationIndex language
  | .functionIndex => Builtin.functionIndex language
  | .payoffStub => Builtin.payoffStub language
  | .stateTransitionStub => Builtin.stateTransitionStub language
  | .algorithmIndex => Builtin.algorithmIndex language
  | .scheduleStub => Builtin.scheduleStub language
  | .executeStepStub => Builtin.executeStepStub language
  | .stateSpace => Builtin.stateSpace language
  | .termSet => Builtin.termSet language
  | .termSetIndex => Builtin.termSetIndex language

def TemplateCollection.builtin (languages : List Language) : TemplateCollection where
  registered language :=
    if language ∈ languages then
      some fun artifact data => ((Template.builtin language artifact).render data).toOption
    else none

/-- An engine for written templates, which compiles them and fills them with data. -/
structure TemplateEngine where
  Compiled : Type
  /-- The template that a text writes, if the text can be compiled. -/
  compile : String → Option Compiled
  /-- The text for data of the template of a name, which may include the others by their names. -/
  render : (String → Option Compiled) → String → Json → Option String

def TemplateEngine.plain : TemplateEngine where
  Compiled := Template
  compile := Template.ofText?
  render templates name data := do
    let template ← templates name
    (template.render data).toOption

def TemplateEngine.registry (engine : TemplateEngine) (language : Language)
    (template? : Artifact → Option engine.Compiled) : TemplateRegistry :=
  fun artifact data =>
    engine.render
      (fun name => (Artifact.all.find? (templateName language · == name)).bind template?)
      (templateName language artifact) data

def TemplateEngine.collection (engine : TemplateEngine)
    (entries : List ((Language × Artifact) × engine.Compiled)) : TemplateCollection where
  registered language :=
    if entries.any (·.1.1 = language) then
      some (engine.registry language fun artifact => entries.lookup (language, artifact))
    else none

/-- What is found where a written template is looked for. -/
inductive TemplateSource where
  | missing
  /-- The file at the path cannot be read as text. -/
  | unreadable (path : String)
  | written (text : String)

def TemplateSource.compile (engine : TemplateEngine) (language : Language) (artifact : Artifact) :
    TemplateSource → Except GenerationError engine.Compiled
  | .missing => .error (.missingTemplate language (templateName language artifact))
  | .unreadable path => .error (.inaccessible path)
  | .written text =>
      match engine.compile text with
      | some template => .ok template
      | none => .error (.invalidTemplate (templateName language artifact))

namespace TemplateCollection

def demanded (languages : List Language) : List (Language × Artifact) :=
  languages.flatMap fun language => Artifact.all.map fun artifact => (language, artifact)

def ofSources (engine : TemplateEngine)
    (sources : List ((Language × Artifact) × TemplateSource)) :
    Except GenerationError TemplateCollection := do
  let entries ← sources.mapM fun (key, source) => do
    let template ← source.compile engine key.1 key.2
    return (key, template)
  return engine.collection entries

end TemplateCollection

end ContractDictionary
