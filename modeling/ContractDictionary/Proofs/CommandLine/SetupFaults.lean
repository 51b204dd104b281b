import ContractDictionary.CommandLine.Run
import ContractDictionary.Proofs.Compile.Recompiling
import ContractDictionary.Proofs.Generation.Runs
import ContractDictionary.Proofs.Generation.Sights

/-!
# Faults of the setup

A run looks at its templates, then at its dictionary and then at its directories.  If one of them
has a fault the run ends with the first one, and the disk stays as it is; otherwise it generates
files, and the only error with which it can still end is that one of them cannot be written.
-/

namespace ContractDictionary

open CommandLine

variable {σ : Type} {state : σ} {reader : FileReader (StateM σ)} {disk : Disk (StateM σ)}
  {sights : Sights}

/-- Why a text is not that of a dictionary: it is not decoded, not completed or not built. -/
def compileFault? (text : String) : Option CompileError :=
  match Document.ofText text with
  | .error fault => some (.undecodable fault)
  | .ok document =>
      match document.normalize with
      | .error fault => some fault
      | .ok normal => faultOf normal.build

namespace Sights

/--
Why there is no written template of a kind: there is no file, the file is not read, or its text
cannot be compiled.
-/
def templateFault? (sights : Sights) (engine : TemplateEngine) (root : String)
    (language : Language) (artifact : Artifact) : Option GenerationError :=
  if sights.isFile (templatePath root language artifact) = false then
    some (.missingTemplate language (templateName language artifact))
  else
    match sights.text? (templatePath root language artifact) with
    | none => some (.inaccessible (templatePath root language artifact))
    | some text =>
        if (engine.compile text).isNone then
          some (.invalidTemplate (templateName language artifact))
        else none

/-- What is wrong with the first template, in the order of the kinds, with which anything is. -/
def templatesFault? (sights : Sights) (engine : TemplateEngine) (arguments : Arguments) :
    Option GenerationError :=
  match arguments.templates with
  | some root => Artifact.all.findSome? (sights.templateFault? engine root arguments.language)
  | none => none

def dictionaryFault? (sights : Sights) (path : String) : Option CompileError :=
  match sights.text? path with
  | none => some (.unreadable path)
  | some text => compileFault? text

/-- What is wrong first: with the templates, with the dictionary or with the directories. -/
def setupFault? (sights : Sights) (engine : TemplateEngine) (arguments : Arguments) :
    Option RunError :=
  match sights.templatesFault? engine arguments with
  | some fault => some (.templates fault)
  | none =>
      match sights.dictionaryFault? arguments.dictionary with
      | some fault => some (.dictionary arguments.dictionary fault)
      | none => (sights.directoryFault? arguments.output arguments.reference).map .generation

end Sights

/-- The error is that something is wrong with the templates, the dictionary or the directories. -/
def CommandLine.RunError.IsOfSetup : RunError → Prop
  | .templates _ | .dictionary .. | .generation (.precondition _) => True
  | .generation _ => False

theorem isOfSetup_of_setupFault? {engine : TemplateEngine} {arguments : Arguments}
    {error : RunError} (fault : sights.setupFault? engine arguments = some error) :
    error.IsOfSetup := by
  unfold Sights.setupFault? at fault
  split at fault
  · cases fault
    trivial
  · split at fault
    · cases fault
      trivial
    · obtain ⟨own, found, rfl⟩ := Option.map_eq_some_iff.1 fault
      obtain ⟨-, -, none⟩ | ⟨-, condition, some⟩ :=
        sights.directoryFault?_cases arguments.output arguments.reference
      · cases none.symm.trans found
      · cases some.symm.trans found
        trivial

namespace Sights

def templatesFor (sights : Sights) (engine : TemplateEngine) (arguments : Arguments) :
    Except GenerationError TemplateCollection :=
  (sights.reader.templatesFor engine arguments).run

def compile (sights : Sights) (path : String) : Except CompileError Compilation :=
  (sights.reader.compile path).run

end Sights

theorem run_templatesFor (shown : reader.Shows state sights) (engine : TemplateEngine)
    (arguments : Arguments) :
    (reader.templatesFor engine arguments).run state =
      pure (sights.templatesFor engine arguments, state) := by
  unfold Sights.templatesFor FileReader.templatesFor
  cases arguments.templates with
  | none => rfl
  | some root => exact shown.run_templates engine root [arguments.language]

theorem run_compile (shown : reader.Shows state sights) (path : String) :
    (reader.compile path).run state = pure (sights.compile path, state) := by
  unfold Sights.compile FileReader.compile Sights.reader
  dsimp only
  rw [StateT.run_bind, shown.readText, pure_bind, pure_bind]
  cases sights.text? path <;> rfl

theorem faultOf_compileText (text : String) :
    faultOf (compileText text) = compileFault? text := by
  unfold compileText compileFault?
  cases Document.ofText text with
  | error fault => rfl
  | ok document =>
      show faultOf document.compile = _
      unfold Document.compile
      dsimp only
      cases document.normalize with
      | error fault => rfl
      | ok normal =>
          show faultOf (do
            let dictionary ← normal.build
            return Compilation.mk dictionary normal.warnings) = faultOf normal.build
          cases normal.build <;> rfl

/-- The fault of some templates is that of the first one that has any. -/
theorem faultOf_ofSources (engine : TemplateEngine)
    (sources : List ((Language × Artifact) × TemplateSource)) :
    faultOf (TemplateCollection.ofSources engine sources) =
      sources.findSome? fun source =>
        faultOf (source.2.compile engine source.1.1 source.1.2) := by
  unfold TemplateCollection.ofSources
  have each (source : (Language × Artifact) × TemplateSource) : faultOf (do
      let template ← source.2.compile engine source.1.1 source.1.2
      return (source.1, template)) =
        faultOf (source.2.compile engine source.1.1 source.1.2) := by
    cases source.2.compile engine source.1.1 source.1.2 <;> rfl
  rw [← faultOf_mapM fun source _ => each source]
  cases sources.mapM fun source : (Language × Artifact) × TemplateSource => do
    let template ← source.2.compile engine source.1.1 source.1.2
    return (source.1, template)
  · rfl
  · rfl

theorem faultOf_templateSource (sights : Sights) (engine : TemplateEngine) (root : String)
    (language : Language) (artifact : Artifact) :
    faultOf ((sights.templateSource root language artifact).compile engine language artifact) =
      sights.templateFault? engine root language artifact := by
  unfold Sights.templateFault?
  cases present : sights.isFile (templatePath root language artifact) with
  | false =>
      rw [Sights.templateSource_eq_missing present]
      rfl
  | true =>
      rw [Sights.templateSource_of_isFile present, if_neg Bool.true_eq_false.mp]
      cases sights.text? (templatePath root language artifact) with
      | none => rfl
      | some text =>
          dsimp only [Option.map, Option.getD, TemplateSource.compile]
          cases engine.compile text <;> rfl

theorem faultOf_templatesFor (sights : Sights) (engine : TemplateEngine) (arguments : Arguments) :
    faultOf (sights.templatesFor engine arguments) = sights.templatesFault? engine arguments := by
  unfold Sights.templatesFor FileReader.templatesFor Sights.templatesFault?
  cases arguments.templates with
  | none => rfl
  | some root =>
      rw [sights.templates_eq, faultOf_ofSources, TemplateCollection.demanded,
        List.flatMap_singleton, List.findSome?_map, List.findSome?_map]
      simp only [Function.comp_def, faultOf_templateSource]

theorem faultOf_compile (sights : Sights) (path : String) :
    faultOf (sights.compile path) = sights.dictionaryFault? path := by
  unfold Sights.compile FileReader.compile Sights.reader Sights.dictionaryFault?
  simp only [pure_bind]
  cases sights.text? path with
  | none => rfl
  | some text => exact faultOf_compileText text

/-- The error names a file or directory that cannot be read or written. -/
def GenerationError.IsInaccessible (error : GenerationError) : Prop :=
  ∃ path, error = .inaccessible path

theorem isInaccessible_of_write {target content : String} {error : GenerationError}
    (failed : ((Disk.save.write disk target content).run state).1 = .error error) :
    error.IsInaccessible := by
  rw [Disk.save.write, StateT.run_bind] at failed
  cases ran : (disk.writeText target content).run state with
  | mk written after =>
      rw [ran] at failed
      cases written with
      | true => cases failed
      | false =>
          cases failed
          exact ⟨target, rfl⟩

/-- The error with which a file is not written names the file or the directory in which it is. -/
theorem isInaccessible_of_save {target content : String} {error : GenerationError}
    (failed : ((disk.save target content).run state).1 = .error error) :
    error.IsInaccessible := by
  unfold Disk.save at failed
  split at failed
  · exact isInaccessible_of_write failed
  · next parent leads =>
      rw [StateT.run_bind] at failed
      cases ran : (disk.createDirectories parent).run state with
      | mk created after =>
          rw [ran] at failed
          cases created with
          | true => exact isInaccessible_of_write failed
          | false =>
              cases failed
              exact ⟨parent, rfl⟩

/-- Reading a reference implementation fails only with a directory that cannot be listed. -/
theorem keeps_reference_any (reader : FileReader (StateM σ)) (root : String)
    (contracts : ContractSet) :
    Keeps (fun _ => True) GenerationError.IsInaccessible (fun _ => True)
      (reader.reference root contracts) := by
  have anything {α : Type} (step : StateM σ α) :
      Keeps (fun _ => True) GenerationError.IsInaccessible (fun _ => True) (liftM step) :=
    .lift fun _ _ => ⟨trivial, trivial⟩
  have files (path : String) : Keeps (fun _ => True) GenerationError.IsInaccessible
      (fun _ => True) (reader.functionFiles path) := by
    refine (anything (reader.isDirectory path)).bind fun directory _ => ?_
    cases directory with
    | false => exact .pure trivial
    | true =>
        refine (anything (reader.fileNames path)).bind fun names _ => ?_
        cases names with
        | none => exact .throw ⟨path, rfl⟩
        | some names => exact .pure trivial
  have named (contract : Contract) : Keeps (fun _ => True) GenerationError.IsInaccessible
      (fun _ => True) (do
        let names ← reader.functionFiles (Path.join root contract.directory)
        return (contract.directory, names)) :=
    (files _).bind fun _ _ => .pure trivial
  exact (Keeps.mapM fun contract _ => named contract).bind fun _ _ => .pure trivial

/-- A run fails only with a file or directory that cannot be read or written. -/
theorem isInaccessible_of_runFrom {generator : Generator} {root output : String}
    {contracts : ContractSet} {error : GenerationError}
    (failed : ((generator.runFrom (disk.reference root contracts)
      (disk.sink output)).run.run state).1 = .error error) : error.IsInaccessible := by
  have kept : Keeps (fun _ => True) GenerationError.IsInaccessible (fun _ => True)
      (generator.runFrom (disk.reference root contracts) (disk.sink output)) :=
    keeps_runFrom (keeps_reference_any disk.toFileReader root contracts) ⟨⟨[]⟩, trivial⟩
      fun _ _ _ file _ _ _ => ⟨trivial, fun _ _ => trivial, fun _ => isInaccessible_of_save⟩
  exact (kept state trivial).2.2 error failed

def Disk.generateFor (disk : Disk (StateM σ)) (arguments : Arguments)
    (compilation : Compilation) (templates : TemplateCollection) :
    StateM σ (Except GenerationError Report) :=
  let generator : Generator := ⟨arguments.language, compilation.dictionary, templates⟩
  (generator.runFrom (disk.reference arguments.reference compilation.dictionary.contracts)
    (disk.sink arguments.output)).run

/-- A run ends with the fault of its setup, or generates files and ends as the generation does. -/
theorem run_execute (shown : disk.Shows state sights) (engine : TemplateEngine)
    (arguments : Arguments) :
    match sights.setupFault? engine arguments with
    | some error => (disk.execute engine arguments).run state = (.error error, state)
    | none => ∃ templates compilation, sights.templatesFor engine arguments = .ok templates ∧
        sights.compile arguments.dictionary = .ok compilation ∧
        let generated := (disk.generateFor arguments compilation templates).run state
        (disk.execute engine arguments).run state =
          (generated.1.mapError .generation, generated.2) := by
  unfold Disk.execute Sights.setupFault?
  rw [StateT.run_bind, run_templatesFor shown, pure_bind, ← faultOf_templatesFor,
    ← faultOf_compile]
  cases sights.templatesFor engine arguments with
  | error fault => rfl
  | ok templates =>
      dsimp only [faultOf]
      rw [StateT.run_bind, run_compile shown, pure_bind]
      cases sights.compile arguments.dictionary with
      | error fault => rfl
      | ok compilation =>
          dsimp only
          rw [StateT.run_bind, run_generate shown]
          cases sights.directoryFault? arguments.output arguments.reference with
          | some fault => rfl
          | none => exact ⟨_, _, rfl, rfl, rfl⟩

/-- A run without a fault of its setup generates files, and ends as the generation does. -/
theorem exists_run_execute (shown : disk.Shows state sights) {engine : TemplateEngine}
    {arguments : Arguments} (faultless : sights.setupFault? engine arguments = none) :
    ∃ templates compilation, sights.templatesFor engine arguments = .ok templates ∧
      sights.compile arguments.dictionary = .ok compilation ∧
      let generated := (disk.generateFor arguments compilation templates).run state
      (disk.execute engine arguments).run state =
        (generated.1.mapError .generation, generated.2) := by
  have ran := run_execute shown engine arguments
  rwa [faultless] at ran

/-- With the built-in templates, a run generates files from every dictionary that compiles. -/
theorem run_execute_builtin (shown : disk.Shows state sights) (engine : TemplateEngine)
    (arguments : Arguments) {text : String} {compilation : Compilation}
    (builtin : arguments.templates = none)
    (read : sights.text? arguments.dictionary = some text)
    (compiled : compileText text = .ok compilation)
    (directories : sights.directoryFault? arguments.output arguments.reference = none) :
    let generated :=
      (disk.generateFor arguments compilation (.builtin [arguments.language])).run state
    (disk.execute engine arguments).run state =
      (generated.1.mapError .generation, generated.2) := by
  have loaded : sights.templatesFor engine arguments = .ok (.builtin [arguments.language]) := by
    rw [Sights.templatesFor, FileReader.templatesFor, builtin]
    rfl
  have known : sights.compile arguments.dictionary = .ok compilation := by
    unfold Sights.compile FileReader.compile Sights.reader
    simp only [pure_bind, read]
    exact compiled
  have setup : sights.setupFault? engine arguments = none := by
    rw [Sights.setupFault?, ← faultOf_templatesFor, ← faultOf_compile, loaded, known, directories]
    rfl
  obtain ⟨templates, compilation', loaded', known', ended⟩ := exists_run_execute shown setup
  cases loaded.symm.trans loaded'
  cases known.symm.trans known'
  exact ended

/--
If something is wrong with the templates, the dictionary or the directories, a run ends with what
is wrong first and leaves the disk as it is.  Any other error is that a file or directory cannot be
read or written while files are generated, so only a run that ends with such an error may leave
files behind.
-/
theorem execute_keeps_disk (shown : disk.Shows state sights) (engine : TemplateEngine)
    (arguments : Arguments) :
    (∀ fault, sights.templatesFault? engine arguments = some fault →
      (disk.execute engine arguments).run state = (.error (.templates fault), state)) ∧
    (sights.templatesFault? engine arguments = none →
      ∀ fault, sights.dictionaryFault? arguments.dictionary = some fault →
        (disk.execute engine arguments).run state =
          (.error (.dictionary arguments.dictionary fault), state)) ∧
    (sights.templatesFault? engine arguments = none →
      sights.dictionaryFault? arguments.dictionary = none →
      ∀ fault, sights.directoryFault? arguments.output arguments.reference = some fault →
        (disk.execute engine arguments).run state = (.error (.generation fault), state)) ∧
    ∀ error after, (disk.execute engine arguments).run state = (.error error, after) →
      (error.IsOfSetup → sights.setupFault? engine arguments = some error ∧ after = state) ∧
      (¬ error.IsOfSetup → sights.setupFault? engine arguments = none ∧
        ∃ path, error = .generation (.inaccessible path)) := by
  have ran := run_execute shown engine arguments
  refine ⟨fun fault found => ?_, fun loaded fault found => ?_,
    fun loaded compiled fault found => ?_, fun error after failed => ?_⟩
  · rwa [Sights.setupFault?, found] at ran
  · rwa [Sights.setupFault?, loaded, found] at ran
  · rwa [Sights.setupFault?, loaded, compiled, found] at ran
  · cases setup : sights.setupFault? engine arguments with
    | some fault =>
        rw [setup] at ran
        cases ran.symm.trans failed
        exact ⟨fun _ => ⟨rfl, rfl⟩, fun other => absurd (isOfSetup_of_setupFault? setup) other⟩
    | none =>
        obtain ⟨templates, compilation, -, -, generated⟩ := exists_run_execute shown setup
        obtain ⟨own, unwritten, rfl⟩ :=
          mapError_eq_error.1 (congrArg Prod.fst (generated.symm.trans failed))
        obtain ⟨path, rfl⟩ := isInaccessible_of_runFrom unwritten
        exact ⟨False.elim, fun _ => ⟨rfl, path, rfl⟩⟩

/-- A text is read from the bytes that it is written with. -/
theorem fromUTF8?_toUTF8 (text : String) : String.fromUTF8? text.toUTF8 = some text :=
  dif_pos text.isValidUTF8

def treeArguments (templates : Option String) : Arguments where
  language := .rust
  output := "out"
  reference := "core"
  dictionary := "dictionary.json"
  templates := templates
  logLevel := none

def treeOfDictionary (text : String) (others : List (List String × FileEntry)) : FileTree :=
  ⟨(["dictionary.json"], .file text.toUTF8) :: others⟩

theorem text?_treeOfDictionary (text : String) (others : List (List String × FileEntry)) :
    (treeOfDictionary text others).sights.text? "dictionary.json" = some text :=
  fromUTF8?_toUTF8 text

/-- The directories of a run, with a further one in the place of the second file. -/
def obstructedDirectories : List (List String × FileEntry) :=
  [["core"], ["out"], ["out", "types"], ["out", "types", "enums"],
    ["out", "types", "enums", "contract_role.rs"]].map (·, .directory)

/-- If the second file cannot be written, the first one is left behind. -/
theorem exists_run_obstructed : ∃ path after,
    (FileTree.disk.execute .plain (treeArguments none)).run
        (treeOfDictionary sampleDocument.write obstructedDirectories) =
      (.error (.generation (.inaccessible path)), after) ∧
    after.isFile "out/types/enums/contract_performance.rs" = true := by
  have evaluated : (compileText sampleDocument.write).toOption.any (fun compilation =>
      let generated := (FileTree.disk.generateFor (treeArguments none) compilation
        (.builtin [.rust])).run (treeOfDictionary sampleDocument.write obstructedDirectories)
      decide ((faultOf generated.1).isSome = true ∧
        generated.2.isFile "out/types/enums/contract_performance.rs" = true)) = true := by
    rw [compileText, Document.ofText, ofText_sampleDocument]
    decide +kernel
  obtain ⟨compilation, compiled, held⟩ := exists_ok_of_any evaluated
  obtain ⟨failed, left⟩ := of_decide_eq_true held
  have ended := run_execute_builtin (FileTree.shows _) .plain (treeArguments none) rfl
    (text?_treeOfDictionary _ obstructedDirectories) compiled rfl
  obtain ⟨error, fault⟩ := Option.isSome_iff_exists.1 failed
  obtain ⟨path, rfl⟩ := isInaccessible_of_runFrom (faultOf_eq_some.1 fault)
  refine ⟨path, _, ended.trans (Prod.ext ?_ rfl), left⟩
  exact mapError_eq_error.2 ⟨_, faultOf_eq_some.1 fault, rfl⟩

/--
A tree without anything lacks a template first of all, and then the dictionary; a tree with a
dictionary alone lacks the output directory.
-/
theorem execute_keeps_disk_of_faultyTrees :
    (FileTree.disk.execute .plain (treeArguments (some "templates"))).run .empty =
      (.error (.templates (.missingTemplate .rust "rs_enum")), .empty) ∧
    (FileTree.disk.execute .plain (treeArguments none)).run .empty =
      (.error (.dictionary "dictionary.json" (.unreadable "dictionary.json")), .empty) ∧
    (FileTree.disk.execute .plain (treeArguments none)).run
        (treeOfDictionary sampleDocument.write []) =
      (.error (.generation (.precondition
          "output directory out does not exist or is not a directory")),
        treeOfDictionary sampleDocument.write []) ∧
    ∃ path after, (FileTree.disk.execute .plain (treeArguments none)).run
        (treeOfDictionary sampleDocument.write obstructedDirectories) =
          (.error (.generation (.inaccessible path)), after) ∧
      after.isFile "out/types/enums/contract_performance.rs" = true := by
  have compiles : compileFault? sampleDocument.write = none := by
    rw [compileFault?, Document.ofText, ofText_sampleDocument]
    decide +kernel
  have faultless :
      (treeOfDictionary sampleDocument.write []).sights.dictionaryFault? "dictionary.json" =
        none := by
    rw [Sights.dictionaryFault?, text?_treeOfDictionary]
    exact compiles
  refine ⟨?_, ?_, ?_, exists_run_obstructed⟩
  · exact (execute_keeps_disk FileTree.empty.shows .plain
      (treeArguments (some "templates"))).1 _ rfl
  · exact (execute_keeps_disk FileTree.empty.shows .plain (treeArguments none)).2.1 rfl _ rfl
  · exact (execute_keeps_disk (treeOfDictionary sampleDocument.write []).shows .plain
      (treeArguments none)).2.2.1 rfl faultless _ rfl

end ContractDictionary
