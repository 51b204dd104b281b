import ContractDictionary.Proofs.Generation.Faults

/-!
# Indexes list what is generated

The names in an index and the names of the files are worked out apart from each other.  In a run
without failures they agree: an index lists the modules of the files that it joins, all of them
and in their order, and the algorithms of a contract list the functions for which there are
files.
-/

namespace ContractDictionary

/-- The batch of the kind has a file about the subject that shows the given body. -/
def Generator.Shows (generator : Generator) (reference : Reference) (artifact : Artifact)
    (subject : Subject) (body : ContextBody) : Prop :=
  ∃ file ∈ (generator.batch reference artifact).files, file.subject = subject ∧
    ∃ context, generator.context reference artifact subject = .ok context ∧
      context.body = body ∧
      generator.templates.render generator.language artifact context.toJson = .ok file.content

theorem shows_of_complete {generator : Generator} {reference : Reference} {artifact : Artifact}
    {subject : Subject} {body : ContextBody}
    (complete : (generator.batch reference artifact).failures = [])
    (member : subject ∈ generator.subjects reference artifact)
    (built : ContextBody.of generator.language artifact generator.dictionary subject
      ((generator.functions reference artifact).filter subject.owns) = .ok body) :
    generator.Shows reference artifact subject body := by
  obtain ⟨file, hfile⟩ := exists_fileAbout_of_complete complete member
  obtain ⟨path, context, content, -, hcontext, hcontent, rfl⟩ := fileAbout_eq_ok.1 hfile
  refine ⟨_, mem_files_batch.2 ⟨subject, member, hfile⟩, rfl, context, hcontext, ?_, hcontent⟩
  obtain ⟨other, hother, heq⟩ := bind_eq_ok.1 hcontext
  rw [built] at hother
  cases hother
  rw [pure_eq_ok.1 heq]

/-- The files of a complete batch are where the entities of their kind place them. -/
theorem files_of_complete {α : Type} {generator : Generator} {reference : Reference}
    {artifact : Artifact} (complete : (generator.batch reference artifact).failures = [])
    {entities : List α} {subject : α → Subject} {path : α → String}
    (listed : generator.subjects reference artifact = entities.map subject)
    (located : ∀ entity ∈ entities,
      generator.language.location? artifact (subject entity) = some (path entity)) :
    (generator.batch reference artifact).files.map (fun file => (file.subject, file.path)) =
      entities.map fun entity => (subject entity, path entity) := by
  rw [map_files_of_complete complete _ fun subject =>
    (subject, (generator.language.location? artifact subject).getD "")]
  · rw [listed, List.map_map]
    refine List.map_congr_left fun entity member => ?_
    rw [Function.comp_apply, located entity member, Option.getD_some]
  · intro subject _ file hfile
    rw [subject_of_fileAbout hfile, location?_of_fileAbout hfile, Option.getD_some]

theorem paths_of_complete {α : Type} {generator : Generator} {reference : Reference}
    {artifact : Artifact} (complete : (generator.batch reference artifact).failures = [])
    {entities : List α} {subject : α → Subject} {path : α → String}
    (listed : generator.subjects reference artifact = entities.map subject)
    (located : ∀ entity ∈ entities,
      generator.language.location? artifact (subject entity) = some (path entity)) :
    (generator.batch reference artifact).files.map (·.path) = entities.map path := by
  have pairs := congrArg (List.map Prod.snd) (files_of_complete complete listed located)
  rw [List.map_map, List.map_map] at pairs
  exact pairs

def Subject.isFunctionOf (contract : Contract) : Subject → Bool
  | .function stub => sameEntity stub.contract contract
  | _ => false

/-- The files about functions of a contract, payoffs before state transitions. -/
def Generator.functionFiles (generator : Generator) (reference : Reference)
    (contract : Contract) : List GeneratedFile :=
  ((generator.batch reference .payoffStub).files ++
    (generator.batch reference .stateTransitionStub).files).filter
      (·.subject.isFunctionOf contract)

def Generator.functionsOf (generator : Generator) (reference : Reference)
    (contract : Contract) : List FunctionStub :=
  (FunctionType.all.flatMap (reference.discover generator.dictionary.contracts)).filter
    fun stub => sameEntity stub.contract contract

/-- The file of a function as its contract's directory and its own module place it. -/
def FunctionStub.path (stub : FunctionStub) (language : Language) : String :=
  Path.joinAll "algos" [contractModule stub.contract.acronym,
    language.sourceFile (language.stubModule stub)]

theorem functionFiles_of_complete {generator : Generator} {reference : Reference}
    {artifact : Artifact} {type : FunctionType} (scope : artifact.scope = .functions type)
    (complete : (generator.batch reference artifact).failures = []) (contract : Contract) :
    ((generator.batch reference artifact).files.filter (·.subject.isFunctionOf contract)).map
        (fun file => (file.subject, file.path)) =
      ((reference.discover generator.dictionary.contracts type).filter
        fun stub => sameEntity stub.contract contract).map
          fun stub => (.function stub, stub.path generator.language) := by
  have pairs : (generator.batch reference artifact).files.map
        (fun file => (file.subject, file.path)) =
      (reference.discover generator.dictionary.contracts type).map
        fun stub => (Subject.function stub, stub.path generator.language) := by
    refine files_of_complete complete (by rw [Generator.subjects, scope]) fun stub found => ?_
    obtain ⟨-, htype, -⟩ := exists_of_mem_discover found
    cases artifact with
    | payoffStub | stateTransitionStub =>
        rw [Language.location?, if_pos (by rw [scope, htype])]
        rfl
    | _ => cases scope
  have kept := congrArg (List.filter fun pair => pair.1.isFunctionOf contract) pairs
  rw [List.filter_map, List.filter_map] at kept
  exact kept

theorem acronym_of_sameEntity {left right : Contract} (same : sameEntity left right = true) :
    left.acronym = right.acronym :=
  congrArg Prod.snd (beq_iff_eq.1 same)

theorem functionFiles_eq {generator : Generator} {reference : Reference}
    (complete : ∀ artifact, (generator.batch reference artifact).failures = [])
    (contract : Contract) :
    (generator.functionFiles reference contract).map (fun file => (file.subject, file.path)) =
      (generator.functionsOf reference contract).map fun stub =>
        (.function stub, Path.joinAll "algos" [contractModule contract.acronym,
          generator.language.sourceFile (generator.language.stubModule stub)]) := by
  have own : (generator.functionsOf reference contract).map (fun stub =>
      (Subject.function stub, stub.path generator.language)) =
      (generator.functionsOf reference contract).map fun stub =>
        (.function stub, Path.joinAll "algos" [contractModule contract.acronym,
          generator.language.sourceFile (generator.language.stubModule stub)]) := by
    refine List.map_congr_left fun stub member => ?_
    rw [FunctionStub.path, acronym_of_sameEntity (List.mem_filter.1 member).2]
  rw [← own, Generator.functionFiles, Generator.functionsOf, List.filter_append, List.map_append,
    functionFiles_of_complete rfl (complete .payoffStub),
    functionFiles_of_complete rfl (complete .stateTransitionStub), ← List.map_append,
    ← List.filter_append]
  simp [FunctionType.all]

theorem moduleName_view (contract : Contract) :
    contract.view.moduleName = contractModule contract.acronym := by
  rw [Contract.view]

/--
What is listed is what was generated: the modules in an index are those of the files that it
joins, and the functions in the algorithms of a contract are those of its function files.
-/
structure Generator.IndexesAgree (generator : Generator) (reference : Reference) : Prop where
  enumerations : ∃ enumerations contracts,
    generator.Shows reference .enumerationIndex .dictionary
      (.index generator.language enumerations contracts) ∧
    (generator.batch reference .enumeration).files.map (·.path) = enumerations.map fun view =>
      Path.joinAll "types" ["enums", generator.language.sourceFile view.moduleName]
  terms : ∃ enumerations contracts,
    generator.Shows reference .termSetIndex .dictionary
      (.index generator.language enumerations contracts) ∧
    (generator.batch reference .termSet).files.map (·.path) = contracts.map fun view =>
      Path.joinAll "types" ["terms", generator.language.sourceFile view.moduleName]
  algorithms : ∃ enumerations contracts,
    generator.Shows reference .functionIndex .dictionary
      (.index generator.language enumerations contracts) ∧
    (generator.batch reference .algorithmIndex).files.map (·.path) = contracts.map fun view =>
      Path.joinAll "algos" [view.moduleName, generator.language.indexFile]
  functions : ∀ contract ∈ generator.dictionary.contracts.toList, ∀ artifact : Artifact,
    artifact.listsFunctions = true → ∃ stubs : List FunctionStub,
      generator.Shows reference artifact (.contract contract)
        (.algorithms generator.language contract.view
          (stubs.map fun stub => stub.view generator.language)) ∧
      (generator.functionFiles reference contract).map (·.subject) = stubs.map .function ∧
      (generator.functionFiles reference contract).map (·.path) = stubs.map fun stub =>
        Path.joinAll "algos" [contract.view.moduleName,
          generator.language.sourceFile (stub.view generator.language).moduleName]

/-- In a run without failures the indexes list what was generated. -/
theorem indexesAgree_of_isSuccess {generator : Generator} {reference : Reference}
    (succeeded : (Report.ofBatches (generator.batches reference)).isSuccess = true) :
    generator.IndexesAgree reference := by
  have complete := complete_of_isSuccess succeeded
  constructor
  · refine ⟨_, _, shows_of_complete (complete .enumerationIndex) List.mem_cons_self rfl, ?_⟩
    rw [paths_of_complete (complete .enumeration) rfl fun _ _ => rfl, List.map_map]
    rfl
  · refine ⟨_, _, shows_of_complete (complete .termSetIndex) List.mem_cons_self rfl, ?_⟩
    rw [paths_of_complete (complete .termSet) rfl fun _ _ => rfl, List.map_map]
    refine List.map_congr_left fun contract _ => ?_
    rw [Function.comp_apply, moduleName_view, Language.typesFile, typesDirectory]
  · refine ⟨_, _, shows_of_complete (complete .functionIndex) List.mem_cons_self rfl, ?_⟩
    rw [paths_of_complete (complete .algorithmIndex) rfl fun _ _ => rfl, List.map_map]
    refine List.map_congr_left fun contract _ => ?_
    rw [Function.comp_apply, moduleName_view, Language.contractFile, algorithmsDirectory]
  · intro contract member artifact lists
    have own : (generator.functions reference artifact).filter (Subject.contract contract).owns =
        generator.functionsOf reference contract := by
      rw [Generator.functions, if_pos lists]
      rfl
    have shown : generator.Shows reference artifact (.contract contract)
        (.algorithms generator.language contract.view
          ((generator.functionsOf reference contract).map fun stub =>
            stub.view generator.language)) := by
      cases artifact with
      | algorithmIndex | scheduleStub | executeStepStub =>
          refine shows_of_complete (complete _) (List.mem_map_of_mem member) ?_
          rw [own]
          rfl
      | _ => cases lists
    have pairs := functionFiles_eq complete contract
    refine ⟨_, shown, ?_, ?_⟩
    · have subjects := congrArg (List.map Prod.fst) pairs
      rw [List.map_map, List.map_map] at subjects
      exact subjects
    · have paths := congrArg (List.map Prod.snd) pairs
      rw [List.map_map, List.map_map] at paths
      exact paths

def annuityAndBond : Document :=
  .plain [.plain "x" "Real" (some "1")] [.plain "ANN" "A", .plain "PAM" "B"] [("A", ["x"])]

/-- Functions for both types, one of them with a number of its own. -/
def annuityAndBondFunctions : Reference where
  directories := [("ann", ["STF_IP_1.java", "POF_IED.java", "notes.txt"]),
    ("pam", ["POF_IP.java"])]

theorem isSuccess_of_annuityAndBond :
    ∃ dictionary warnings, annuityAndBond.compile = .ok ⟨dictionary, warnings⟩ ∧
      (Report.ofBatches (Generator.batches ⟨.rust, dictionary, .builtin [.rust]⟩
        annuityAndBondFunctions)).isSuccess = true :=
  exists_isSuccess_of_faultless annuityAndBondFunctions (by decide +kernel)

theorem indexesAgree_of_annuityAndBond :
    ∃ dictionary warnings, annuityAndBond.compile = .ok ⟨dictionary, warnings⟩ ∧
      (FunctionType.all.flatMap fun type =>
        (annuityAndBondFunctions.discover dictionary.contracts type).map (·.describe)) =
          ["POF IED of ANN", "POF IP of PAM", "STF IP1 of ANN"] ∧
      Generator.IndexesAgree ⟨.rust, dictionary, .builtin [.rust]⟩ annuityAndBondFunctions := by
  obtain ⟨dictionary, warnings, compiled, succeeded⟩ := isSuccess_of_annuityAndBond
  have functions : annuityAndBond.compile.toOption.all (fun compilation => decide
      ((FunctionType.all.flatMap fun type =>
        (annuityAndBondFunctions.discover compilation.dictionary.contracts type).map
          (·.describe)) = ["POF IED of ANN", "POF IP of PAM", "STF IP1 of ANN"])) = true := by
    decide +kernel
  rw [compiled] at functions
  exact ⟨dictionary, warnings, compiled, of_decide_eq_true functions,
    indexesAgree_of_isSuccess succeeded⟩

end ContractDictionary
