import ContractDictionary.Proofs.Generation.Indexes
import ContractDictionary.Proofs.Generation.Locations

/-!
# Files below the output directory

The location of a file takes at most one name from the document: that of the file of an
enumeration or of the terms of a contract, or that of the directory of a contract.  The file is
below the output directory exactly if this name is a path that stays below.  Acronyms and
identifiers are not checked for this, so some of them lead elsewhere.
-/

namespace ContractDictionary

open ContractDictionary.Path (IsBelow IsBeneath)

namespace Language

/-- The name that the location of a file of some kind takes from its subject. -/
def givenName? (language : Language) (artifact : Artifact) : Subject → Option String
  | .dictionary => none
  | .enumeration e => some (language.sourceFile (language.enumerationModule e.identifier))
  | .contract c =>
      if artifact = .termSet then some (language.sourceFile (contractModule c.acronym))
      else some (contractModule c.acronym)
  | .function stub => some (contractModule stub.contract.acronym)

theorem isBelow_sourceFile (language : Language) {stem : String} (noSlash : '/' ∉ stem.toList) :
    IsBelow (language.sourceFile stem) := by
  refine Path.isBelow_of_noSlash (language.isName_sourceFile noSlash).noSlash fun same => ?_
  have chars := congrArg (fun text => text.toList.length) same
  simp only [toList_sourceFile, List.length_append, List.length_cons] at chars
  cases language <;> simp [extension] at chars

theorem isBelow_typesFile {folder file : String} (fixed : IsBelow folder) :
    IsBelow (typesFile folder file) ↔ IsBelow file := by
  have types : IsBelow typesDirectory := by decide
  rw [typesFile, Path.isBelow_joinAll]
  simp [types, fixed]

theorem isBelow_contractFile {contract : Contract} {file : String} (fixed : IsBelow file) :
    IsBelow (contractFile contract file) ↔ IsBelow (contractModule contract.acronym) := by
  have algorithms : IsBelow algorithmsDirectory := by decide
  rw [contractFile, Path.isBelow_joinAll]
  simp [algorithms, fixed]

theorem isBelow_indexFile (language : Language) : IsBelow language.indexFile := by
  cases language <;> decide

/-- A location stays below exactly if the name that it takes from its subject does. -/
theorem isBelow_location_iff {language : Language} {artifact : Artifact} {subject : Subject}
    {path : String} (located : language.location? artifact subject = some path)
    (functions : ∀ stub, subject = .function stub → '/' ∉ (language.stubModule stub).toList) :
    IsBelow path ↔ ∀ name ∈ language.givenName? artifact subject, IsBelow name := by
  have index := language.isBelow_indexFile
  cases isLocated_of_location? located with
  | enumeration | termSet =>
      refine (isBelow_typesFile (by decide)).trans ?_
      simp [givenName?]
  | enumerationIndex | termSetIndex =>
      refine (isBelow_typesFile (by decide)).trans ?_
      simp [givenName?, index]
  | functionIndex =>
      have file : IsBelow language.functionIndexFile := by cases language <;> decide
      have algorithms : IsBelow algorithmsDirectory := by decide
      simp [givenName?, Path.isBelow_join, algorithms, file]
  | stateSpace =>
      have file := language.isBelow_sourceFile (show '/' ∉ "states".toList by decide)
      refine (isBelow_typesFile (by decide)).trans ?_
      simp [givenName?, file]
  | algorithmIndex => simp [givenName?, isBelow_contractFile index]
  | scheduleStub =>
      have file := language.isBelow_sourceFile language.slash_notMem_scheduleModule
      simp [givenName?, isBelow_contractFile file]
  | executeStepStub =>
      have file := language.isBelow_sourceFile language.slash_notMem_executeStepModule
      simp [givenName?, isBelow_contractFile file]
  | payoffStub stub | stateTransitionStub stub =>
      have file := language.isBelow_sourceFile (functions stub rfl)
      simp [givenName?, isBelow_contractFile file]

/-- Every location begins with the directory of the types or with that of the algorithms. -/
theorem exists_joinAll_of_location? {language : Language} {artifact : Artifact}
    {subject : Subject} {path : String}
    (located : language.location? artifact subject = some path) :
    ∃ base pieces, path = Path.joinAll base pieces ∧
      (base = typesDirectory ∨ base = algorithmsDirectory) := by
  cases isLocated_of_location? located with
  | enumeration | enumerationIndex | stateSpace | termSetIndex | termSet =>
      exact ⟨_, _, rfl, .inl rfl⟩
  | functionIndex => exact ⟨algorithmsDirectory, [language.functionIndexFile], rfl, .inr rfl⟩
  | algorithmIndex | scheduleStub | executeStepStub | payoffStub | stateTransitionStub =>
      exact ⟨_, _, rfl, .inr rfl⟩

theorem names_ne_nil_of_location? {language : Language} {artifact : Artifact}
    {subject : Subject} {path : String}
    (located : language.location? artifact subject = some path) (below : IsBelow path) :
    Path.names path ≠ [] := by
  obtain ⟨base, pieces, rfl, isBase⟩ := exists_joinAll_of_location? located
  have relative : ∀ piece ∈ pieces, Path.isAbsolute piece = false := fun piece member =>
    ((Path.isBelow_joinAll.1 below).2 piece member).relative
  rcases isBase with rfl | rfl
  · exact Path.names_ne_nil below.relative (show Path.isVoid "types".toList = false by decide)
      (Path.mem_rawParts_joinAll relative (by decide) (by decide))
  · exact Path.names_ne_nil below.relative (show Path.isVoid "algos".toList = false by decide)
      (Path.mem_rawParts_joinAll relative (by decide) (by decide))

end Language

/--
The path of a file is relative and without a step upwards exactly if the name that it takes from
the document is; joined to an output directory, it then leads to a place beneath that directory,
whatever there is on the disk.
-/
theorem isBelow_path_iff {generator : Generator} {reference : Reference}
    (listing : reference.IsListing) {artifact : Artifact} {file : GeneratedFile}
    (member : file ∈ (generator.batch reference artifact).files) :
    (IsBelow file.path ↔
      ∀ name ∈ generator.language.givenName? artifact file.subject, IsBelow name) ∧
    (IsBelow file.path → ∀ (tree : FileTree) (root : String) (top place : List String),
      tree.resolve? root = some top → tree.resolve? (Path.join root file.path) = some place →
        IsBeneath top place) := by
  obtain ⟨subject, listed, generated⟩ := mem_files_batch.1 member
  have located := location?_of_fileAbout generated
  constructor
  · rw [subject_of_fileAbout generated]
    refine Language.isBelow_location_iff located ?_
    rintro stub rfl
    cases isAbout_of_mem listed with
    | function _ found =>
        obtain ⟨event, suffix⟩ := noSlash_of_mem_discover listing found
        exact slash_notMem_stubModule generator.language event suffix
  · intro below tree root top place rooted resolved
    exact ⟨Path.names file.path, Language.names_ne_nil_of_location? located below,
      FileTree.resolve?_join below rooted resolved⟩

/-- Without faults there are files at the locations of all subjects, of which these are some. -/
theorem exists_files_of_faultless (document : Document) (language : Language)
    (reference : Reference) (located : List (Artifact × String))
    (evaluated : document.compile.toOption.any (fun compilation => decide
      (compilation.dictionary.IsFaultless language ∧
        ∀ entry ∈ located, ∃ subject ∈ Generator.subjects
            ⟨language, compilation.dictionary, .builtin [language]⟩ reference entry.1,
          language.location? entry.1 subject = some entry.2)) = true) :
    ∃ dictionary warnings, document.compile = .ok ⟨dictionary, warnings⟩ ∧
      ∀ entry ∈ located, ∃ file ∈
        (Generator.batch ⟨language, dictionary, .builtin [language]⟩ reference entry.1).files,
        file.path = entry.2 := by
  obtain ⟨⟨dictionary, warnings⟩, compiled, held⟩ := exists_ok_of_any evaluated
  obtain ⟨faultless, locations⟩ := of_decide_eq_true held
  obtain ⟨normal, -, built, -⟩ := compile_eq_ok_iff.1 compiled
  have succeeded := isSuccess_of_faultless (isResolved_of_buildsTo built)
    (List.mem_singleton.2 rfl) reference faultless
  refine ⟨dictionary, warnings, compiled, fun entry member => ?_⟩
  obtain ⟨subject, listed, location⟩ := locations entry member
  obtain ⟨file, generated⟩ :=
    exists_fileAbout_of_complete (complete_of_isSuccess succeeded entry.1) listed
  refine ⟨file, mem_files_batch.2 ⟨subject, listed, generated⟩, ?_⟩
  exact Option.some.inj ((location?_of_fileAbout generated).symm.trans location)

theorem isBelow_path_of_annuityAndBond :
    ∃ dictionary warnings, annuityAndBond.compile = .ok ⟨dictionary, warnings⟩ ∧
      annuityAndBondFunctions.IsListing ∧
      ∃ file ∈ (Generator.batch ⟨.rust, dictionary, .builtin [.rust]⟩ annuityAndBondFunctions
        .stateTransitionStub).files,
        file.path = "algos/ann/stf_ip_1.rs" ∧
        (∀ name ∈ Language.rust.givenName? .stateTransitionStub file.subject, IsBelow name) ∧
        ∀ (tree : FileTree) (root : String) (top place : List String),
          tree.resolve? root = some top → tree.resolve? (Path.join root file.path) = some place →
            IsBeneath top place := by
  obtain ⟨dictionary, warnings, compiled, files⟩ := exists_files_of_faultless
    annuityAndBond .rust annuityAndBondFunctions
    [(.stateTransitionStub, "algos/ann/stf_ip_1.rs")] (by decide +kernel)
  have listing : annuityAndBondFunctions.IsListing := by decide
  obtain ⟨file, member, path⟩ := files _ List.mem_cons_self
  obtain ⟨named, beneath⟩ := isBelow_path_iff listing member
  have below : IsBelow file.path := by
    rw [path]
    decide
  exact ⟨dictionary, warnings, compiled, listing, file, member, path, named.1 below, beneath below⟩

/-- An identifier and acronyms that are paths, one of them absolute. -/
def strayingNames : Document :=
  .plain [.plain "../x" "Enum" none] [.plain "/PAM" "A", .plain "../.." "B"] []

/-- A tree in which two of the files of these names come to lie beside the output directory. -/
def treeOfOutput : FileTree :=
  ⟨[(["out"], .directory), (["out", "algos"], .directory)]⟩

/-- Names that are paths may lead a file upwards, or to the root of the file system. -/
theorem leaves_outputDirectory :
    (∃ dictionary warnings, strayingNames.compile = .ok ⟨dictionary, warnings⟩ ∧
      ∀ entry ∈ [(Artifact.termSet, "/pam.rs"), (.algorithmIndex, "algos/../../mod.rs"),
          (.enumeration, "types/enums/../x.rs")],
        ∃ file ∈ (Generator.batch ⟨.rust, dictionary, .builtin [.rust]⟩ ⟨[]⟩ entry.1).files,
          file.path = entry.2 ∧ ¬ IsBelow file.path) ∧
    treeOfOutput.resolve? "out" = some ["out"] ∧
    treeOfOutput.resolve? (Path.join "out" "/pam.rs") = some ["/", "pam.rs"] ∧
    treeOfOutput.resolve? (Path.join "out" "algos/../../mod.rs") = some ["mod.rs"] := by
  refine ⟨?_, by decide +kernel, by decide +kernel, by decide +kernel⟩
  obtain ⟨dictionary, warnings, compiled, files⟩ := exists_files_of_faultless
    strayingNames .rust ⟨[]⟩
    [(.termSet, "/pam.rs"), (.algorithmIndex, "algos/../../mod.rs"),
      (.enumeration, "types/enums/../x.rs")] (by decide +kernel)
  have strays : ∀ entry ∈ [(Artifact.termSet, "/pam.rs"),
      (.algorithmIndex, "algos/../../mod.rs"), (.enumeration, "types/enums/../x.rs")],
      ¬ IsBelow entry.2 := by
    decide +kernel
  refine ⟨dictionary, warnings, compiled, fun entry member => ?_⟩
  obtain ⟨file, listed, path⟩ := files entry member
  refine ⟨file, listed, path, ?_⟩
  rw [path]
  exact strays entry member

end ContractDictionary
