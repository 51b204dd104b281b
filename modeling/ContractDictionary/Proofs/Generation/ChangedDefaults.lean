import ContractDictionary.Proofs.Compile.DroppedDefaults
import ContractDictionary.Proofs.Generation.Batches

/-!
# Files that a default does not reach

The default of a term shows in the files about the terms of those contracts to which the term
applies, and in no other file: every other one is generated, or fails to be, as if the term had no
default.
-/

namespace ContractDictionary

variable {identifier : String}

theorem Enumeration.identifier_dropDefault (enumeration : Enumeration) :
    (enumeration.dropDefault identifier).identifier = enumeration.identifier := by
  unfold dropDefault
  split <;> rfl

/-- Templates see no marks. -/
theorem Enumeration.view_dropDefault (enumeration : Enumeration) (language : Language) :
    (enumeration.dropDefault identifier).view language = enumeration.view language := by
  unfold dropDefault
  split
  · simp only [view, List.map_map]
    rfl
  · rfl

/-- The enumerations of a dictionary, in their order, without the default. -/
theorem enumerations_dropDefault (dictionary : Dictionary) :
    (dictionary.dropDefault identifier).enumerations =
      dictionary.enumerations.map (Enumeration.dropDefault identifier) := by
  have terms : (dictionary.dropDefault identifier).terms.toList.filterMap Term.asEnumeration? =
      (dictionary.terms.toList.filterMap Term.asEnumeration?).map
        (Enumeration.dropDefault identifier) := by
    rw [List.map_filterMap]
    show (dictionary.terms.toList.map _).filterMap _ = _
    rw [List.filterMap_map]
    exact List.filterMap_congr fun term _ => term.asEnumeration?_dropDefault
  have sorted (items : List Enumeration) :
      sortOn (·.identifier) (items.map (Enumeration.dropDefault identifier)) =
        (sortOn (·.identifier) items).map (Enumeration.dropDefault identifier) := by
    refine sortOn_map (fun found => ?_) items
    exact found.identifier_dropDefault
  unfold Dictionary.enumerations
  rw [← sorted, List.map_append, terms]
  rfl

def FunctionStub.dropDefault (identifier : String) (stub : FunctionStub) : FunctionStub :=
  { stub with contract := stub.contract.dropDefault identifier }

theorem stub?_dropDefault (contract : Contract) (type : FunctionType) (file : String) :
    (contract.dropDefault identifier).stub? type file =
      (contract.stub? type file).map (FunctionStub.dropDefault identifier) := by
  unfold Contract.stub?
  cases stemParts? (fileStem file).toList with
  | none => rfl
  | some parts =>
      simp only [Option.bind_eq_bind, Option.bind_some]
      split <;> rfl

theorem discover_dropDefault (reference : Reference) (contracts : ContractSet)
    (type : FunctionType) :
    reference.discover (contracts.dropDefault identifier) type =
      (reference.discover contracts type).map (FunctionStub.dropDefault identifier) := by
  have found : ((contracts.dropDefault identifier).toList.flatMap fun contract =>
        (reference.files contract.directory).filterMap (contract.stub? type)) =
      (contracts.toList.flatMap fun contract =>
        (reference.files contract.directory).filterMap (contract.stub? type)).map
          (FunctionStub.dropDefault identifier) := by
    show (contracts.toList.map _).flatMap _ = _
    rw [List.flatMap_map, List.map_flatMap]
    refine List.flatMap_congr fun contract _ => ?_
    rw [List.map_filterMap]
    exact List.filterMap_congr fun file _ => stub?_dropDefault contract type file
  rw [Reference.discover, found, FunctionStub.arrange, sortBy_map fun _ _ => rfl,
    dropRepeats_map fun _ _ => rfl]
  rfl

def Subject.dropDefault (identifier : String) : Subject → Subject
  | .dictionary => .dictionary
  | .enumeration found => .enumeration (found.dropDefault identifier)
  | .contract found => .contract (found.dropDefault identifier)
  | .function stub => .function (stub.dropDefault identifier)

theorem Subject.describe_dropDefault (subject : Subject) :
    (subject.dropDefault identifier).describe = subject.describe := by
  cases subject with
  | enumeration found => exact congrArg ("enum " ++ ·) found.identifier_dropDefault
  | _ => rfl

theorem location?_dropDefault (language : Language) (artifact : Artifact) (subject : Subject) :
    language.location? artifact (subject.dropDefault identifier) =
      language.location? artifact subject := by
  cases subject with
  | enumeration found =>
      cases artifact with
      | enumeration =>
          simp only [Subject.dropDefault, Language.location?, found.identifier_dropDefault]
      | _ => rfl
  | _ => cases artifact <;> rfl

/-- A function belongs to the same subjects. -/
theorem filter_owns_dropDefault (subject : Subject) (functions : List FunctionStub) :
    (functions.map (FunctionStub.dropDefault identifier)).filter
        (subject.dropDefault identifier).owns =
      (functions.filter subject.owns).map (FunctionStub.dropDefault identifier) := by
  rw [List.filter_map]
  refine congrArg _ (List.filter_congr fun stub _ => ?_)
  cases subject <;> rfl

def Generator.dropDefault (identifier : String) (generator : Generator) : Generator :=
  { generator with dictionary := generator.dictionary.dropDefault identifier }

theorem subjects_dropDefault (generator : Generator) (reference : Reference)
    (artifact : Artifact) :
    (generator.dropDefault identifier).subjects reference artifact =
      (generator.subjects reference artifact).map (Subject.dropDefault identifier) := by
  unfold Generator.subjects
  cases artifact.scope with
  | dictionary => rfl
  | enumerations =>
      show (generator.dictionary.dropDefault identifier).enumerations.map _ = _
      rw [enumerations_dropDefault, List.map_map, List.map_map]
      rfl
  | contracts =>
      show (generator.dictionary.contracts.toList.map _).map _ = _
      rw [List.map_map, List.map_map]
      rfl
  | functions type =>
      show (reference.discover (generator.dictionary.contracts.dropDefault identifier) type).map _
        = _
      rw [discover_dropDefault, List.map_map, List.map_map]
      rfl

theorem functions_dropDefault (generator : Generator) (reference : Reference)
    (artifact : Artifact) :
    (generator.dropDefault identifier).functions reference artifact =
      (generator.functions reference artifact).map (FunctionStub.dropDefault identifier) := by
  unfold Generator.functions
  split
  · rw [List.map_flatMap]
    exact List.flatMap_congr fun type _ => discover_dropDefault reference _ type
  · rfl

def GeneratedFile.dropDefault (identifier : String) (file : GeneratedFile) : GeneratedFile :=
  { file with subject := file.subject.dropDefault identifier }

/-- The views of all enumerations and contracts are those without the default. -/
theorem indexBody_dropDefault (language : Language) (dictionary : Dictionary) :
    ContextBody.index language
        ((dictionary.dropDefault identifier).enumerations.map (·.view language))
        ((dictionary.dropDefault identifier).contracts.toList.map Contract.view) =
      .index language (dictionary.enumerations.map (·.view language))
        (dictionary.contracts.toList.map Contract.view) := by
  have enumerations : (dictionary.dropDefault identifier).enumerations.map (·.view language) =
      dictionary.enumerations.map (·.view language) := by
    rw [enumerations_dropDefault, List.map_map]
    exact List.map_congr_left fun found _ => found.view_dropDefault language
  have contracts : (dictionary.dropDefault identifier).contracts.toList.map Contract.view =
      dictionary.contracts.toList.map Contract.view := by
    show (dictionary.contracts.toList.map _).map _ = _
    rw [List.map_map]
    rfl
  rw [enumerations, contracts]

theorem algorithmsBody_dropDefault (language : Language) (contract : Contract)
    (functions : List FunctionStub) :
    ContextBody.algorithms language (contract.dropDefault identifier).view
        ((functions.map (FunctionStub.dropDefault identifier)).map (·.view language)) =
      .algorithms language contract.view (functions.map (·.view language)) := by
  rw [List.map_map]
  rfl

/-- The data for a file shows no default, except where it is about the terms of a contract. -/
theorem contextBody_dropDefault {artifact : Artifact} (other : artifact ≠ .termSet)
    (language : Language) (dictionary : Dictionary) (subject : Subject)
    (functions : List FunctionStub) :
    ContextBody.of language artifact (dictionary.dropDefault identifier)
        (subject.dropDefault identifier) (functions.map (FunctionStub.dropDefault identifier)) =
      ContextBody.of language artifact dictionary subject functions := by
  have misplaced : (Except.error (.misplacedSubject artifact
        (subject.dropDefault identifier).describe) : Except GenerationError ContextBody) =
      .error (.misplacedSubject artifact subject.describe) := by
    rw [subject.describe_dropDefault]
  cases artifact with
  | enumeration =>
      cases subject with
      | enumeration found =>
          exact congrArg (fun view => Except.ok (ContextBody.enumeration view))
            (found.view_dropDefault language)
      | _ => exact misplaced
  | enumerationIndex | functionIndex | termSetIndex =>
      cases subject with
      | dictionary => exact congrArg Except.ok (indexBody_dropDefault language dictionary)
      | _ => exact misplaced
  | stateSpace =>
      cases subject with
      | dictionary => rfl
      | _ => exact misplaced
  | termSet => exact absurd rfl other
  | algorithmIndex | scheduleStub | executeStepStub =>
      cases subject with
      | contract found =>
          exact congrArg Except.ok (algorithmsBody_dropDefault language found functions)
      | _ => exact misplaced
  | payoffStub | stateTransitionStub =>
      cases subject with
      | function stub => rfl
      | _ => exact misplaced

theorem file_dropDefault {artifact : Artifact} (other : artifact ≠ .termSet)
    (generator : Generator) (functions : List FunctionStub) (subject : Subject) :
    (generator.dropDefault identifier).file artifact
        (functions.map (FunctionStub.dropDefault identifier)) (subject.dropDefault identifier) =
      (generator.file artifact functions subject).map (GeneratedFile.dropDefault identifier) := by
  have located : generator.language.location artifact (subject.dropDefault identifier) =
      generator.language.location artifact subject := by
    rw [Language.location, Language.location, location?_dropDefault, subject.describe_dropDefault]
  have shown : Context.of generator.language artifact (generator.dictionary.dropDefault identifier)
        (subject.dropDefault identifier)
        ((functions.map (FunctionStub.dropDefault identifier)).filter
          (subject.dropDefault identifier).owns) =
      Context.of generator.language artifact generator.dictionary subject
        (functions.filter subject.owns) := by
    rw [filter_owns_dropDefault, Context.of, Context.of, contextBody_dropDefault other]
    rfl
  simp only [Generator.file, Generator.dropDefault, located, shown]
  cases generator.language.location artifact subject with
  | error error => rfl
  | ok path =>
      cases Context.of generator.language artifact generator.dictionary subject
          (functions.filter subject.owns) with
      | error error => rfl
      | ok context =>
          simp only [bind, Except.bind]
          cases generator.templates.render generator.language artifact context.toJson <;> rfl

def Batch.dropDefault (identifier : String) (batch : Batch) : Batch :=
  { batch with files := batch.files.map (GeneratedFile.dropDefault identifier) }

theorem batch_dropDefault {artifact : Artifact} (other : artifact ≠ .termSet)
    (generator : Generator) (reference : Reference) :
    (generator.dropDefault identifier).batch reference artifact =
      (generator.batch reference artifact).dropDefault identifier := by
  rw [Generator.batch, Generator.batch, subjects_dropDefault, functions_dropDefault]
  induction generator.subjects reference artifact with
  | nil => rfl
  | cons subject rest ih =>
      rw [List.map_cons, Generator.filesAbout, Generator.filesAbout, ih, file_dropDefault other]
      cases generator.file artifact (generator.functions reference artifact) subject with
      | ok file => rfl
      | error error =>
          simp only [Except.map, subject.describe_dropDefault]
          rfl

/-- The files are about one entity, with or without the default, and are otherwise the same. -/
structure GeneratedFile.AgreesBut (identifier : String) (file file' : GeneratedFile) : Prop where
  subject : file'.subject.dropDefault identifier = file.subject.dropDefault identifier
  path : file'.path = file.path
  content : file'.content = file.content
  warnings : file'.warnings = file.warnings

/-- The batches have files that agree, one for one, and the same failures and warnings. -/
structure Batch.AgreesBut (identifier : String) (batch batch' : Batch) : Prop where
  artifact : batch'.artifact = batch.artifact
  files : List.Forall₂ (GeneratedFile.AgreesBut identifier) batch.files batch'.files
  failures : batch'.failures = batch.failures
  warnings : batch'.warnings = batch.warnings

/-- Items with one list of changes have the same change one for one. -/
theorem forall₂_of_map_eq {α β : Type} {change : α → β} {items items' : List α}
    (same : items'.map change = items.map change) :
    List.Forall₂ (fun item item' => change item' = change item) items items' := by
  have changed : List.Forall₂ (fun result result' => result' = result) (items.map change)
      (items'.map change) := by
    rw [same]
    exact List.forall₂_same.2 fun _ _ => rfl
  rwa [List.forall₂_map_left_iff, List.forall₂_map_right_iff] at changed

theorem agreesBut_of_dropDefault {batch batch' : Batch}
    (same : batch'.dropDefault identifier = batch.dropDefault identifier) :
    batch.AgreesBut identifier batch' := by
  have files := forall₂_of_map_eq (congrArg Batch.files same)
  have agree : List.Forall₂ (GeneratedFile.AgreesBut identifier) batch.files batch'.files :=
    files.imp fun file file' changed => by
      obtain ⟨subject, path, content, warnings⟩ := GeneratedFile.mk.inj changed
      exact ⟨subject, path, content, warnings⟩
  obtain ⟨artifact, -, failures⟩ := Batch.mk.inj same
  refine ⟨artifact, agree, failures, ?_⟩
  have warnings := map_eq_of_related agree (·.warnings) (·.warnings) fun _ _ each => each.warnings
  rw [Batch.warnings, Batch.warnings, List.flatMap_def, List.flatMap_def, warnings]

/-- The file about the terms of a contract shows nothing else of the dictionary than its version. -/
theorem fileAbout_termSet {dictionary dictionary' : Dictionary}
    (version : dictionary'.version = dictionary.version)
    (date : dictionary'.versionDate = dictionary.versionDate) (language : Language)
    (templates : TemplateCollection) (reference : Reference) (contract : Contract) :
    Generator.fileAbout ⟨language, dictionary', templates⟩ reference .termSet
        (.contract contract) =
      Generator.fileAbout ⟨language, dictionary, templates⟩ reference .termSet
        (.contract contract) := by
  have shown (functions : List FunctionStub) :
      Context.of language .termSet dictionary' (.contract contract) functions =
        Context.of language .termSet dictionary (.contract contract) functions := by
    simp only [Context.of, version, date]
    rfl
  simp only [Generator.fileAbout, Generator.file, shown]
  rfl

/-- Contracts that are one without the default are one, if none of their terms has it. -/
theorem contract_eq_of_dropDefault {contract contract' : Contract}
    (same : contract'.dropDefault identifier = contract.dropDefault identifier)
    (others : ∀ term ∈ contract.terms.toList, term.identifier ≠ identifier) :
    contract' = contract := by
  rw [Contract.dropDefault_of_forall others] at same
  have others' : ∀ term ∈ contract'.terms.toList, term.identifier ≠ identifier := by
    intro term listed
    have kept : term.dropDefault identifier ∈ contract.terms.toList := by
      rw [← same]
      exact List.mem_map_of_mem listed
    have named := others _ kept
    rwa [term.toEntityInfo_dropDefault] at named
  rwa [Contract.dropDefault_of_forall others'] at same

theorem exists_row_of_mem_terms {document : Document} {dictionary : Dictionary}
    {warnings : List Warning} (compiled : document.compile = .ok ⟨dictionary, warnings⟩)
    {contract : Contract} (declared : contract ∈ dictionary.contracts.toList) {term : Term}
    (listed : term ∈ contract.terms.toList) :
    ∃ row ∈ dictionary.applicability.rowsOf contract.identifier,
      row.termId = term.identifier := by
  obtain ⟨_, -, built, -⟩ := compile_eq_ok_iff.1 compiled
  obtain ⟨type, -, own⟩ :=
    exists_of_mapM_eq_ok (toList_of_contractsOf_eq_ok built.contracts) declared
  obtain ⟨applicable, rows, rfl⟩ := contract_eq_ok.1 own
  obtain ⟨row, ofType, found⟩ := exists_of_mapM_eq_ok rows (EntitySet.mem_ofList.1 listed)
  exact ⟨row, ofType, (identifierOf_of_get? (ApplicabilityRow.term_eq_ok.1 found)).symm⟩

/--
A document that differs in the defaults of the terms with an identifier compiles too.  The batches
of all kinds but the term sets agree, with any templates and in any language, and so does the term
set of each contract to which no row of the applicability assigns a term with the identifier.
-/
theorem batches_of_differsInDefault {document document' : Document}
    (differ : document.DiffersInDefault identifier document') {dictionary : Dictionary}
    {warnings : List Warning} (compiled : document.compile = .ok ⟨dictionary, warnings⟩) :
    ∃ dictionary' warnings', document'.compile = .ok ⟨dictionary', warnings'⟩ ∧
      ∀ (language : Language) (templates : TemplateCollection) (reference : Reference),
        (∀ artifact, artifact ≠ .termSet →
          (Generator.batch ⟨language, dictionary, templates⟩ reference artifact).AgreesBut
            identifier
            (Generator.batch ⟨language, dictionary', templates⟩ reference artifact)) ∧
        List.Forall₂
          (fun contract contract' => contract'.type = contract.type ∧
            ((∀ row ∈ dictionary.applicability.rowsOf contract.identifier,
                row.termId ≠ identifier) →
              contract' = contract ∧
              Generator.fileAbout ⟨language, dictionary', templates⟩ reference .termSet
                  (.contract contract') =
                Generator.fileAbout ⟨language, dictionary, templates⟩ reference .termSet
                  (.contract contract)))
          dictionary.contracts.toList dictionary'.contracts.toList := by
  obtain ⟨dictionary', warnings', compiled', dropped⟩ :=
    compile_of_differsInDefault differ compiled
  refine ⟨dictionary', warnings', compiled', fun language templates reference => ⟨?_, ?_⟩⟩
  · intro artifact other
    refine agreesBut_of_dropDefault ?_
    rw [← batch_dropDefault other, ← batch_dropDefault other, Generator.dropDefault,
      Generator.dropDefault, dropped]
  · have version : dictionary'.version = dictionary.version :=
      (congrArg Dictionary.version dropped :)
    have date : dictionary'.versionDate = dictionary.versionDate :=
      (congrArg Dictionary.versionDate dropped :)
    have contracts : dictionary'.contracts.toList.map (Contract.dropDefault identifier) =
        dictionary.contracts.toList.map (Contract.dropDefault identifier) :=
      congrArg (fun dictionary : Dictionary => dictionary.contracts.toList) dropped
    have assigned : ∀ contract ∈ dictionary.contracts.toList, ∀ term ∈ contract.terms.toList,
        ∃ row ∈ dictionary.applicability.rowsOf contract.identifier,
          row.termId = term.identifier :=
      fun contract declared term listed => exists_row_of_mem_terms compiled declared listed
    refine ((List.forall₂_and_left _ _).2 ⟨assigned, forall₂_of_map_eq contracts⟩).imp ?_
    rintro contract contract' ⟨rows, same⟩
    refine ⟨(congrArg Contract.type same :), fun unassigned => ?_⟩
    have equal : contract' = contract := contract_eq_of_dropDefault same fun term listed => by
      obtain ⟨row, ofType, named⟩ := rows term listed
      exact named ▸ unassigned row ofType
    rw [equal]
    exact ⟨rfl, fileAbout_termSet version date language templates reference contract⟩

/-- A role that applies to one of two contract types, with a default. -/
def assignedRole (default : String) : Document :=
  .plain [.plain "note" "Varchar" (some "none"),
      .enumerated "role" default
        [⟨0, "borrower", "Borrower", "BOR", ""⟩, ⟨1, "lender", "Lender", "LEN", ""⟩]]
    [.plain "ANN" "ann", .plain "PAM" "pam"] [("ann", ["role"]), ("pam", ["note"])]

theorem differsInDefault_assignedRole (default default' : String) :
    (assignedRole default).DiffersInDefault "role" (assignedRole default') where
  others := rfl
  terms := Keyed.ofList_related <| .cons ⟨rfl, .inl rfl⟩ <| .cons ⟨rfl, .inl rfl⟩ <|
    .cons ⟨rfl, .inl rfl⟩ <| .cons ⟨rfl, .inl rfl⟩ <| .cons ⟨rfl, .inr ⟨rfl, rfl⟩⟩ .nil

theorem batches_of_assignedRole :
    (assignedRole "LEN").DiffersInDefault "role" (assignedRole "BOR") ∧
      ∃ dictionary warnings dictionary' warnings',
        (assignedRole "LEN").compile = .ok ⟨dictionary, warnings⟩ ∧
        (assignedRole "BOR").compile = .ok ⟨dictionary', warnings'⟩ ∧
        (Generator.batch ⟨.rust, dictionary, .builtin [.rust]⟩ ⟨[]⟩ .enumeration).AgreesBut "role"
          (Generator.batch ⟨.rust, dictionary', .builtin [.rust]⟩ ⟨[]⟩ .enumeration) ∧
        ∃ contract ∈ dictionary.contracts.toList, contract.identifier = "pam" ∧
          contract ∈ dictionary'.contracts.toList ∧
          Generator.fileAbout ⟨.rust, dictionary', .builtin [.rust]⟩ ⟨[]⟩ .termSet
              (.contract contract) =
            Generator.fileAbout ⟨.rust, dictionary, .builtin [.rust]⟩ ⟨[]⟩ .termSet
              (.contract contract) := by
  have differ := differsInDefault_assignedRole "LEN" "BOR"
  have evaluated : (assignedRole "LEN").compile.toOption.any (fun compilation => decide
      (∃ contract ∈ compilation.dictionary.contracts.toList, contract.identifier = "pam" ∧
        ∀ row ∈ compilation.dictionary.applicability.rowsOf contract.identifier,
          row.termId ≠ "role")) = true := by
    decide +kernel
  obtain ⟨⟨dictionary, warnings⟩, compiled, held⟩ := exists_ok_of_any evaluated
  obtain ⟨contract, declared, named, unassigned⟩ := of_decide_eq_true held
  obtain ⟨dictionary', warnings', compiled', agree⟩ := batches_of_differsInDefault differ compiled
  obtain ⟨batches, contracts⟩ := agree .rust (.builtin [.rust]) ⟨[]⟩
  obtain ⟨contract', declared', -, same⟩ := exists_of_mem_right contracts.flip declared
  obtain ⟨rfl, generated⟩ := same unassigned
  exact ⟨differ, dictionary, warnings, dictionary', warnings', compiled, compiled',
    batches .enumeration (by decide), contract', declared, named, declared', generated⟩

end ContractDictionary
