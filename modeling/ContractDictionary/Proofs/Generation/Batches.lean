import ContractDictionary.Generation.Output
import ContractDictionary.Proofs.Outcome
import ContractDictionary.Proofs.Target.FunctionFiles

/-!
# What a batch consists of

Every subject of a kind has a file or a failure in the batch of the kind, both in the order of
the subjects, and what is true of a file follows from its subject.
-/

namespace ContractDictionary

/-- What the files of a kind are about, by the scope of the kind. -/
inductive Generator.IsAbout (generator : Generator) (reference : Reference) (artifact : Artifact) :
    Subject → Prop where
  | dictionary (scope : artifact.scope = .dictionary) :
      IsAbout generator reference artifact .dictionary
  | enumeration {enumeration : Enumeration} (scope : artifact.scope = .enumerations)
      (listed : enumeration ∈ generator.dictionary.enumerations) :
      IsAbout generator reference artifact (.enumeration enumeration)
  | contract {contract : Contract} (scope : artifact.scope = .contracts)
      (listed : contract ∈ generator.dictionary.contracts.toList) :
      IsAbout generator reference artifact (.contract contract)
  | function {type : FunctionType} {stub : FunctionStub} (scope : artifact.scope = .functions type)
      (found : stub ∈ reference.discover generator.dictionary.contracts type) :
      IsAbout generator reference artifact (.function stub)

theorem isAbout_of_mem {generator : Generator} {reference : Reference} {artifact : Artifact}
    {subject : Subject} (member : subject ∈ generator.subjects reference artifact) :
    generator.IsAbout reference artifact subject := by
  unfold Generator.subjects at member
  cases scope : artifact.scope with
  | dictionary =>
      rw [scope] at member
      rw [List.mem_singleton.1 member]
      exact .dictionary scope
  | enumerations =>
      rw [scope] at member
      obtain ⟨enumeration, listed, rfl⟩ := List.mem_map.1 member
      exact .enumeration scope listed
  | contracts =>
      rw [scope] at member
      obtain ⟨contract, listed, rfl⟩ := List.mem_map.1 member
      exact .contract scope listed
  | functions type =>
      rw [scope] at member
      obtain ⟨stub, found, rfl⟩ := List.mem_map.1 member
      exact .function scope found

theorem exists_location? {generator : Generator} {reference : Reference} {artifact : Artifact}
    {subject : Subject} (member : subject ∈ generator.subjects reference artifact) :
    ∃ path, generator.language.location? artifact subject = some path := by
  unfold Generator.subjects at member
  cases artifact with
  | enumeration =>
      obtain ⟨enumeration, -, rfl⟩ := List.mem_map.1 member
      exact ⟨_, rfl⟩
  | enumerationIndex | functionIndex | stateSpace | termSetIndex =>
      rw [List.mem_singleton.1 member]
      exact ⟨_, rfl⟩
  | algorithmIndex | scheduleStub | executeStepStub | termSet =>
      obtain ⟨contract, -, rfl⟩ := List.mem_map.1 member
      exact ⟨_, rfl⟩
  | payoffStub | stateTransitionStub =>
      obtain ⟨stub, found, rfl⟩ := List.mem_map.1 member
      obtain ⟨-, type, -⟩ := exists_of_mem_discover found
      rw [Language.location?, if_pos (by rw [type]; rfl)]
      exact ⟨_, rfl⟩

/-- The data for the file of a kind about a subject. -/
def Generator.context (generator : Generator) (reference : Reference) (artifact : Artifact)
    (subject : Subject) : Except GenerationError Context :=
  Context.of generator.language artifact generator.dictionary subject
    ((generator.functions reference artifact).filter subject.owns)

/-- The file of a kind about a subject, with the functions that files of the kind list. -/
def Generator.fileAbout (generator : Generator) (reference : Reference) (artifact : Artifact)
    (subject : Subject) : Except GenerationError GeneratedFile :=
  generator.file artifact (generator.functions reference artifact) subject

theorem fileAbout_eq_ok {generator : Generator} {reference : Reference} {artifact : Artifact}
    {subject : Subject} {file : GeneratedFile} :
    generator.fileAbout reference artifact subject = .ok file ↔
      ∃ path context content,
        generator.language.location? artifact subject = some path ∧
        generator.context reference artifact subject = .ok context ∧
        generator.templates.render generator.language artifact context.toJson = .ok content ∧
        file = ⟨subject, path, content, context.warnings⟩ := by
  have location {path : String} :
      generator.language.location artifact subject = .ok path ↔
        generator.language.location? artifact subject = some path := by
    unfold Language.location
    cases generator.language.location? artifact subject <;> simp
  simp only [Generator.fileAbout, Generator.file, bind_eq_ok, pure_eq_ok, location]
  constructor
  · rintro ⟨path, hpath, context, hcontext, content, hcontent, rfl⟩
    exact ⟨path, context, content, hpath, hcontext, hcontent, rfl⟩
  · rintro ⟨path, context, content, hpath, hcontext, hcontent, rfl⟩
    exact ⟨path, hpath, context, hcontext, content, hcontent, rfl⟩

theorem subject_of_fileAbout {generator : Generator} {reference : Reference}
    {artifact : Artifact} {subject : Subject} {file : GeneratedFile}
    (generated : generator.fileAbout reference artifact subject = .ok file) :
    file.subject = subject := by
  obtain ⟨path, context, content, -, -, -, rfl⟩ := fileAbout_eq_ok.1 generated
  rfl

/-- The location of a file depends on its kind and its subject alone. -/
theorem location?_of_fileAbout {generator : Generator} {reference : Reference}
    {artifact : Artifact} {subject : Subject} {file : GeneratedFile}
    (generated : generator.fileAbout reference artifact subject = .ok file) :
    generator.language.location? artifact subject = some file.path := by
  obtain ⟨path, context, content, hpath, -, -, rfl⟩ := fileAbout_eq_ok.1 generated
  exact hpath

/-- A file with a location has the fault of its data, if every such data can be shown. -/
theorem faultOf_fileAbout {generator : Generator} {reference : Reference} {artifact : Artifact}
    {subject : Subject} {path : String}
    (located : generator.language.location? artifact subject = some path)
    (shown : ∀ context, generator.context reference artifact subject = .ok context →
      ∃ text, generator.templates.render generator.language artifact context.toJson = .ok text) :
    faultOf (generator.fileAbout reference artifact subject) =
      faultOf (generator.context reference artifact subject) := by
  cases hcontext : generator.context reference artifact subject with
  | ok context =>
      obtain ⟨text, htext⟩ := shown context hcontext
      have generated := fileAbout_eq_ok.2 ⟨path, context, text, located, hcontext, htext, rfl⟩
      rw [generated]
      rfl
  | error error =>
      have context : Context.of generator.language artifact generator.dictionary subject
          ((generator.functions reference artifact).filter subject.owns) = .error error := hcontext
      rw [Generator.fileAbout, Generator.file, Language.location, located]
      simp only [bind, Except.bind, context]
      rfl

theorem batch_artifact (generator : Generator) (reference : Reference) (artifact : Artifact) :
    (generator.batch reference artifact).artifact = artifact := by
  have kept (functions : List FunctionStub) (subjects : List Subject) :
      (generator.filesAbout artifact functions subjects).artifact = artifact := by
    induction subjects with
    | nil => rfl
    | cons subject rest ih =>
        rw [Generator.filesAbout]
        cases generator.file artifact functions subject <;> exact ih
  exact kept _ _

/-- The files of a kind that needs no reference implementation are the same for all of them. -/
theorem batch_of_needsReference_eq_false (generator : Generator) (reference other : Reference)
    {artifact : Artifact} (free : artifact.needsReference = false) :
    generator.batch reference artifact = generator.batch other artifact := by
  cases artifact <;> first | rfl | cases free

theorem dispatch_pure {m : Type → Type} [Monad m] [LawfulMonad m] (generator : Generator)
    (reference : Reference) (artifact : Artifact) :
    generator.dispatch (pure reference : m Reference) artifact =
      pure (generator.batch reference artifact) := by
  unfold Generator.dispatch
  split
  · rw [pure_bind]
  · next free =>
      rw [batch_of_needsReference_eq_false generator ⟨[]⟩ reference (Bool.eq_false_iff.2 free)]

theorem batch?_eq_ok (generator : Generator) (reference : Reference) (artifact : Artifact) :
    generator.batch? (some reference) artifact = .ok (generator.batch reference artifact) :=
  dispatch_pure generator reference artifact

/-- The files about some subjects are those of the subjects for which there is one. -/
theorem files_filesAbout (generator : Generator) (artifact : Artifact)
    (functions : List FunctionStub) (subjects : List Subject) :
    (generator.filesAbout artifact functions subjects).files =
      subjects.filterMap fun subject => (generator.file artifact functions subject).toOption := by
  induction subjects with
  | nil => rfl
  | cons subject rest ih =>
      rw [Generator.filesAbout, List.filterMap_cons]
      cases generator.file artifact functions subject with
      | ok file => exact congrArg (file :: ·) ih
      | error error => exact ih

/-- The failures about some subjects are the faults of those that have no file. -/
theorem failures_filesAbout (generator : Generator) (artifact : Artifact)
    (functions : List FunctionStub) (subjects : List Subject) :
    (generator.filesAbout artifact functions subjects).failures =
      subjects.filterMap fun subject =>
        (faultOf (generator.file artifact functions subject)).map
          (⟨artifact, subject.describe, ·⟩) := by
  induction subjects with
  | nil => rfl
  | cons subject rest ih =>
      rw [Generator.filesAbout, List.filterMap_cons]
      cases generator.file artifact functions subject with
      | ok file => exact ih
      | error error => exact congrArg (⟨artifact, subject.describe, error⟩ :: ·) ih

/-- The files of a kind are those of its subjects for which there is one. -/
theorem files_batch (generator : Generator) (reference : Reference) (artifact : Artifact) :
    (generator.batch reference artifact).files =
      (generator.subjects reference artifact).filterMap fun subject =>
        (generator.fileAbout reference artifact subject).toOption :=
  files_filesAbout generator artifact _ _

/-- The failures of a kind are the faults of those of its subjects that have no file. -/
theorem failures_batch (generator : Generator) (reference : Reference) (artifact : Artifact) :
    (generator.batch reference artifact).failures =
      (generator.subjects reference artifact).filterMap fun subject =>
        (faultOf (generator.fileAbout reference artifact subject)).map
          (⟨artifact, subject.describe, ·⟩) :=
  failures_filesAbout generator artifact _ _

theorem mem_files_batch {generator : Generator} {reference : Reference} {artifact : Artifact}
    {file : GeneratedFile} :
    file ∈ (generator.batch reference artifact).files ↔
      ∃ subject ∈ generator.subjects reference artifact,
        generator.fileAbout reference artifact subject = .ok file := by
  rw [files_batch, List.mem_filterMap]
  simp only [toOption_eq_some]

/-- All batches of a run without failures are complete. -/
theorem complete_of_isSuccess {generator : Generator} {reference : Reference}
    (succeeded : (Report.ofBatches (generator.batches reference)).isSuccess = true)
    (artifact : Artifact) : (generator.batch reference artifact).failures = [] := by
  have none : (generator.batches reference).flatMap (·.failures) = [] :=
    List.isEmpty_iff.1 succeeded
  rw [List.flatMap_eq_nil_iff] at none
  exact none _ (List.mem_map_of_mem artifact.mem_all)

theorem exists_fileAbout_of_complete {generator : Generator} {reference : Reference}
    {artifact : Artifact} (complete : (generator.batch reference artifact).failures = [])
    {subject : Subject} (member : subject ∈ generator.subjects reference artifact) :
    ∃ file, generator.fileAbout reference artifact subject = .ok file := by
  rw [failures_batch, List.filterMap_eq_nil_iff] at complete
  exact faultOf_eq_none.1 (Option.map_eq_none_iff.1 (complete subject member))

/-- A complete batch has a file about every subject of its kind. -/
theorem exists_file_of_complete {generator : Generator} {reference : Reference}
    {artifact : Artifact} (complete : (generator.batch reference artifact).failures = [])
    {subject : Subject} (member : subject ∈ generator.subjects reference artifact) :
    ∃ file ∈ (generator.batch reference artifact).files, file.subject = subject := by
  obtain ⟨file, generated⟩ := exists_fileAbout_of_complete complete member
  exact ⟨file, mem_files_batch.2 ⟨subject, member, generated⟩, subject_of_fileAbout generated⟩

/-- What the files of a complete batch are like, if every file has it from its subject. -/
theorem map_files_of_complete {γ : Type} {generator : Generator} {reference : Reference}
    {artifact : Artifact} (complete : (generator.batch reference artifact).failures = [])
    (after : GeneratedFile → γ) (before : Subject → γ)
    (carried : ∀ subject ∈ generator.subjects reference artifact, ∀ file,
      generator.fileAbout reference artifact subject = .ok file → after file = before subject) :
    (generator.batch reference artifact).files.map after =
      (generator.subjects reference artifact).map before := by
  have generated : ∀ subject ∈ generator.subjects reference artifact,
      ((generator.fileAbout reference artifact subject).toOption).map after =
        some (before subject) := by
    intro subject member
    obtain ⟨file, hfile⟩ := exists_fileAbout_of_complete complete member
    rw [hfile]
    exact congrArg some (carried subject member file hfile)
  rw [files_batch, List.map_filterMap, List.filterMap_congr generated, List.filterMap_eq_map']

/--
The batch has a file for every subject without a fault and a failure for every other one, both
in the order of the subjects.
-/
structure Batch.Accounts (batch : Batch) (artifact : Artifact) (subjects : List Subject)
    (fault? : Subject → Option GenerationError) : Prop where
  kind : batch.artifact = artifact
  files : batch.files.map (·.subject) = subjects.filter fun subject => (fault? subject).isNone
  failures : batch.failures = subjects.filterMap fun subject =>
    (fault? subject).map (⟨artifact, subject.describe, ·⟩)

theorem map_subject_filterMap {generator : Generator} {reference : Reference}
    {artifact : Artifact} {fault? : Subject → Option GenerationError} {subjects : List Subject}
    (faults : ∀ subject ∈ subjects,
      faultOf (generator.fileAbout reference artifact subject) = fault? subject) :
    (subjects.filterMap fun subject =>
      (generator.fileAbout reference artifact subject).toOption).map (·.subject) =
      subjects.filter fun subject => (fault? subject).isNone := by
  induction subjects with
  | nil => rfl
  | cons subject rest ih =>
      have first := faults subject List.mem_cons_self
      have others := ih fun other later => faults other (List.mem_cons_of_mem _ later)
      rw [List.filterMap_cons, List.filter_cons, ← first]
      cases generated : generator.fileAbout reference artifact subject with
      | ok file =>
          rw [← subject_of_fileAbout generated]
          exact congrArg (file.subject :: ·) others
      | error error => exact others

/-- A batch accounts for the subjects of its kind, each with the fault of its file. -/
theorem accounts_batch {generator : Generator} {reference : Reference} {artifact : Artifact}
    {fault? : Subject → Option GenerationError}
    (faults : ∀ subject ∈ generator.subjects reference artifact,
      faultOf (generator.fileAbout reference artifact subject) = fault? subject) :
    (generator.batch reference artifact).Accounts artifact
      (generator.subjects reference artifact) fault? where
  kind := batch_artifact generator reference artifact
  files := by
    rw [files_batch]
    exact map_subject_filterMap faults
  failures := by
    rw [failures_batch]
    refine List.filterMap_congr fun subject member => ?_
    rw [faults subject member]

end ContractDictionary
