import ContractDictionary.Proofs.Files.Paths
import ContractDictionary.Proofs.Generation.Batches
import ContractDictionary.Proofs.Target.Naming
import Mathlib.Data.List.Nodup

/-!
# Locations told apart

The kind of a file can be read off its location, and within a kind the location tells the
subject.  This holds as far as names do: the modules of enumerations, of contracts and of the
functions of a contract have to differ, to be single parts of a path, and not to be that of an
index.
-/

namespace ContractDictionary

open ContractDictionary.Path (IsName IsJoined)

/-- The files of a reference implementation are in its directories themselves. -/
def Reference.IsListing (reference : Reference) : Prop :=
  ∀ directory ∈ reference.directories, ∀ file ∈ directory.2, '/' ∉ file.toList

instance (reference : Reference) : Decidable reference.IsListing :=
  inferInstanceAs (Decidable (∀ directory ∈ reference.directories, ∀ file ∈ directory.2,
    '/' ∉ file.toList))

/-- The names that locations are made of are single parts of a path. -/
structure Generator.NamesProper (generator : Generator) (reference : Reference) : Prop where
  enumerations : ∀ enumeration ∈ generator.dictionary.enumerations,
    '/' ∉ (generator.language.enumerationModule enumeration.identifier).toList
  contracts : ∀ contract ∈ generator.dictionary.contracts.toList,
    IsName (contractModule contract.acronym)
  referenceFiles : reference.IsListing

/-- The names that locations are made of tell enumerations, contracts and functions apart. -/
structure Generator.NamesApart (generator : Generator) (reference : Reference) : Prop where
  enumerations : (generator.dictionary.enumerations.map fun enumeration =>
    generator.language.enumerationModule enumeration.identifier).Nodup
  enumerationFiles : ∀ enumeration ∈ generator.dictionary.enumerations,
    generator.language.sourceFile
      (generator.language.enumerationModule enumeration.identifier) ≠ generator.language.indexFile
  contracts : (generator.dictionary.contracts.toList.map fun contract =>
    contractModule contract.acronym).Nodup
  contractFiles : ∀ contract ∈ generator.dictionary.contracts.toList,
    generator.language.sourceFile (contractModule contract.acronym) ≠ generator.language.indexFile
  /-- Where modules do not keep capitals, no two functions differ in case alone. -/
  functions : generator.language ≠ .typeScript → ∀ type,
    (reference.discover generator.dictionary.contracts type).Pairwise fun a b =>
      a.contract.acronym = b.contract.acronym →
        generator.language.stubModule a ≠ generator.language.stubModule b

/-- The names of a subject that its locations are made of are single parts of a path. -/
def Subject.NamesProper (language : Language) : Subject → Prop
  | .dictionary => True
  | .enumeration e => '/' ∉ (language.enumerationModule e.identifier).toList
  | .contract c => IsName (contractModule c.acronym)
  | .function stub =>
      IsName (contractModule stub.contract.acronym) ∧ '/' ∉ (language.stubModule stub).toList

theorem FunctionType.mem_all (type : FunctionType) : type ∈ FunctionType.all := by
  cases type <;> decide

section Decidable

variable (generator : Generator) (reference : Reference)

instance : Decidable (generator.NamesProper reference) :=
  decidable_of_iff
    ((∀ enumeration ∈ generator.dictionary.enumerations,
        '/' ∉ (generator.language.enumerationModule enumeration.identifier).toList) ∧
      (∀ contract ∈ generator.dictionary.contracts.toList,
        IsName (contractModule contract.acronym)) ∧ reference.IsListing)
    ⟨fun h => ⟨h.1, h.2.1, h.2.2⟩, fun h => ⟨h.enumerations, h.contracts, h.referenceFiles⟩⟩

instance : Decidable (generator.NamesApart reference) :=
  decidable_of_iff
    ((generator.dictionary.enumerations.map fun enumeration =>
        generator.language.enumerationModule enumeration.identifier).Nodup ∧
      (∀ enumeration ∈ generator.dictionary.enumerations,
        generator.language.sourceFile
          (generator.language.enumerationModule enumeration.identifier) ≠
            generator.language.indexFile) ∧
      (generator.dictionary.contracts.toList.map fun contract =>
        contractModule contract.acronym).Nodup ∧
      (∀ contract ∈ generator.dictionary.contracts.toList,
        generator.language.sourceFile (contractModule contract.acronym) ≠
          generator.language.indexFile) ∧
      (generator.language ≠ .typeScript → ∀ type ∈ FunctionType.all,
        (reference.discover generator.dictionary.contracts type).Pairwise fun a b =>
          a.contract.acronym = b.contract.acronym →
            generator.language.stubModule a ≠ generator.language.stubModule b))
    (by
      constructor
      · rintro ⟨enumerations, enumerationFiles, contracts, contractFiles, functions⟩
        exact ⟨enumerations, enumerationFiles, contracts, contractFiles,
          fun keeps type => functions keeps type type.mem_all⟩
      · intro apart
        exact ⟨apart.enumerations, apart.enumerationFiles, apart.contracts, apart.contractFiles,
          fun keeps type _ => apart.functions keeps type⟩)

end Decidable

namespace Language

/-- The parts of the location of a file. -/
def place (language : Language) (artifact : Artifact) (subject : Subject) : List String :=
  match artifact, subject with
  | .enumeration, .enumeration e =>
      ["types", "enums", language.sourceFile (language.enumerationModule e.identifier)]
  | .enumerationIndex, _ => ["types", "enums", language.indexFile]
  | .functionIndex, _ => ["algos", language.functionIndexFile]
  | .stateSpace, _ => ["types", "core", language.sourceFile "states"]
  | .termSetIndex, _ => ["types", "terms", language.indexFile]
  | .termSet, .contract c => ["types", "terms", language.sourceFile (contractModule c.acronym)]
  | .algorithmIndex, .contract c => ["algos", contractModule c.acronym, language.indexFile]
  | .scheduleStub, .contract c =>
      ["algos", contractModule c.acronym, language.sourceFile language.scheduleModule]
  | .executeStepStub, .contract c =>
      ["algos", contractModule c.acronym, language.sourceFile language.executeStepModule]
  | .payoffStub, .function stub | .stateTransitionStub, .function stub =>
      ["algos", contractModule stub.contract.acronym,
        language.sourceFile (language.stubModule stub)]
  | _, _ => []

def artifactAt (language : Language) : List String → Option Artifact
  | [_, _] => some .functionIndex
  | [root, folder, file] =>
      if root = "types" then
        if folder = "core" then some .stateSpace
        else if folder = "enums" then
          if file = language.indexFile then some .enumerationIndex else some .enumeration
        else if file = language.indexFile then some .termSetIndex
        else some .termSet
      else
        match file.toList.head? with
        | some 'p' => some .payoffStub
        | some 's' => some .stateTransitionStub
        | some 'd' =>
            if file = language.sourceFile language.scheduleModule then some .scheduleStub
            else some .executeStepStub
        | _ => some .algorithmIndex
  | _ => none

theorem isName_indexFile (language : Language) : IsName language.indexFile := by
  cases language <;> decide

theorem isName_functionIndexFile (language : Language) : IsName language.functionIndexFile := by
  cases language <;> decide

theorem toList_sourceFile (language : Language) (stem : String) :
    (language.sourceFile stem).toList = stem.toList ++ '.' :: language.extension.toList := by
  rw [sourceFile, String.toList_append, String.toList_append, List.append_assoc]
  rfl

theorem isName_sourceFile (language : Language) {stem : String} (noSlash : '/' ∉ stem.toList) :
    IsName (language.sourceFile stem) := by
  have long : 1 < (language.sourceFile stem).toList.length := by
    rw [toList_sourceFile, List.length_append, List.length_cons]
    cases language <;> simp [extension]
  constructor
  · intro same
    rw [same] at long
    exact absurd long (by decide)
  · intro same
    rw [same] at long
    exact absurd long (by decide)
  · rw [toList_sourceFile, List.mem_append, List.mem_cons, not_or, not_or]
    exact ⟨noSlash, by decide, by cases language <;> decide⟩

theorem sourceFile_injective (language : Language) {left right : String}
    (same : language.sourceFile left = language.sourceFile right) : left = right := by
  have chars := congrArg String.toList same
  rw [toList_sourceFile, toList_sourceFile] at chars
  exact String.toList_inj.1 (List.append_cancel_right chars)

theorem isJoined_typesFile {folder file : String} (isFolder : IsName folder)
    (isFile : IsName file) : IsJoined (typesFile folder file) ["types", folder, file] := by
  refine (Path.isJoined_singleton (by decide)).joinAll fun name member => ?_
  rcases List.mem_cons.1 member with rfl | member
  · exact isFolder
  · rw [List.mem_singleton.1 member]
    exact isFile

theorem isJoined_contractFile {contract : Contract} {file : String}
    (isModule : IsName (contractModule contract.acronym)) (isFile : IsName file) :
    IsJoined (contractFile contract file) ["algos", contractModule contract.acronym, file] := by
  refine (Path.isJoined_singleton (by decide)).joinAll fun name member => ?_
  rcases List.mem_cons.1 member with rfl | member
  · exact isModule
  · rw [List.mem_singleton.1 member]
    exact isFile

theorem slash_notMem_scheduleModule (language : Language) :
    '/' ∉ language.scheduleModule.toList := by
  cases language <;> decide +kernel

theorem slash_notMem_executeStepModule (language : Language) :
    '/' ∉ language.executeStepModule.toList := by
  cases language <;> decide +kernel

/-- Where the files of a kind are, with the subject that they are about. -/
inductive IsLocated (language : Language) : Artifact → Subject → String → Prop where
  | enumeration (e : Enumeration) : IsLocated language .enumeration (.enumeration e)
      (typesFile "enums" (language.sourceFile (language.enumerationModule e.identifier)))
  | enumerationIndex :
      IsLocated language .enumerationIndex .dictionary (typesFile "enums" language.indexFile)
  | functionIndex : IsLocated language .functionIndex .dictionary
      (Path.join algorithmsDirectory language.functionIndexFile)
  | stateSpace :
      IsLocated language .stateSpace .dictionary (typesFile "core" (language.sourceFile "states"))
  | termSetIndex :
      IsLocated language .termSetIndex .dictionary (typesFile "terms" language.indexFile)
  | termSet (c : Contract) : IsLocated language .termSet (.contract c)
      (typesFile "terms" (language.sourceFile (contractModule c.acronym)))
  | algorithmIndex (c : Contract) :
      IsLocated language .algorithmIndex (.contract c) (contractFile c language.indexFile)
  | scheduleStub (c : Contract) : IsLocated language .scheduleStub (.contract c)
      (contractFile c (language.sourceFile language.scheduleModule))
  | executeStepStub (c : Contract) : IsLocated language .executeStepStub (.contract c)
      (contractFile c (language.sourceFile language.executeStepModule))
  | payoffStub (stub : FunctionStub) : IsLocated language .payoffStub (.function stub)
      (contractFile stub.contract (language.sourceFile (language.stubModule stub)))
  | stateTransitionStub (stub : FunctionStub) :
      IsLocated language .stateTransitionStub (.function stub)
        (contractFile stub.contract (language.sourceFile (language.stubModule stub)))

theorem isLocated_of_location? {language : Language} {artifact : Artifact} {subject : Subject}
    {path : String} (located : language.location? artifact subject = some path) :
    language.IsLocated artifact subject path := by
  unfold location? at located
  split at located
  · exact Option.some.inj located ▸ .enumeration _
  · exact Option.some.inj located ▸ .enumerationIndex
  · exact Option.some.inj located ▸ .functionIndex
  · exact Option.some.inj located ▸ .stateSpace
  · exact Option.some.inj located ▸ .termSetIndex
  · exact Option.some.inj located ▸ .termSet _
  · exact Option.some.inj located ▸ .algorithmIndex _
  · exact Option.some.inj located ▸ .scheduleStub _
  · exact Option.some.inj located ▸ .executeStepStub _
  · exact Option.some.inj (Option.ite_none_right_eq_some.1 located).2 ▸ .payoffStub _
  · exact Option.some.inj (Option.ite_none_right_eq_some.1 located).2 ▸ .stateTransitionStub _
  · cases located

/-- Where the names of the subject are proper, the parts of its location are those of its place. -/
theorem isJoined_location {language : Language} {artifact : Artifact} {subject : Subject}
    {path : String} (names : subject.NamesProper language)
    (located : language.location? artifact subject = some path) :
    IsJoined path (language.place artifact subject) := by
  have index := language.isName_indexFile
  cases isLocated_of_location? located with
  | enumeration => exact isJoined_typesFile (by decide) (language.isName_sourceFile names)
  | enumerationIndex | termSetIndex => exact isJoined_typesFile (by decide) index
  | functionIndex =>
      exact (Path.isJoined_singleton (by decide)).join language.isName_functionIndexFile
  | stateSpace =>
      exact isJoined_typesFile (by decide) (language.isName_sourceFile (by decide))
  | termSet => exact isJoined_typesFile (by decide) (language.isName_sourceFile names.noSlash)
  | algorithmIndex => exact isJoined_contractFile names index
  | scheduleStub =>
      exact isJoined_contractFile names
        (language.isName_sourceFile language.slash_notMem_scheduleModule)
  | executeStepStub =>
      exact isJoined_contractFile names
        (language.isName_sourceFile language.slash_notMem_executeStepModule)
  | payoffStub | stateTransitionStub =>
      exact isJoined_contractFile names.1 (language.isName_sourceFile names.2)

theorem artifactAt_algorithmIndex (language : Language) (folder : String) :
    language.artifactAt ["algos", folder, language.indexFile] = some .algorithmIndex := by
  cases language <;> rfl

theorem artifactAt_scheduleStub (language : Language) (folder : String) :
    language.artifactAt ["algos", folder, language.sourceFile language.scheduleModule] =
      some .scheduleStub := by
  cases language <;> rfl

theorem artifactAt_executeStepStub (language : Language) (folder : String) :
    language.artifactAt ["algos", folder, language.sourceFile language.executeStepModule] =
      some .executeStepStub := by
  cases language <;> rfl

theorem artifactAt_function (language : Language) (folder : String) (stub : FunctionStub) :
    language.artifactAt ["algos", folder, language.sourceFile (language.stubModule stub)] =
      some (match stub.functionType with
        | .payoff => .payoffStub
        | .stateTransition => .stateTransitionStub) := by
  obtain ⟨rest, chars⟩ := exists_toList_stubModule language stub
  have file := toList_sourceFile language (language.stubModule stub)
  rw [chars] at file
  rw [artifactAt, if_neg (by decide), file]
  cases stub.functionType <;> rfl

end Language

theorem mem_directories_of_mem_files {reference : Reference} {directory file : String}
    (listed : file ∈ reference.files directory) :
    ∃ files, (directory, files) ∈ reference.directories ∧ file ∈ files := by
  unfold Reference.files at listed
  cases entry : reference.directories.lookup directory with
  | none =>
      rw [entry] at listed
      cases listed
  | some files =>
      rw [entry] at listed
      obtain ⟨front, rest, directories, -⟩ := List.lookup_eq_some_iff.1 entry
      refine ⟨files, ?_, listed⟩
      rw [directories]
      exact List.mem_append_right _ List.mem_cons_self

theorem noSlash_of_mem_discover {reference : Reference} (listing : reference.IsListing)
    {contracts : ContractSet} {type : FunctionType} {stub : FunctionStub}
    (found : stub ∈ reference.discover contracts type) :
    '/' ∉ stub.eventType.toList ∧ '/' ∉ stub.suffix.toList := by
  obtain ⟨-, -, file, listed, named⟩ := exists_of_mem_discover found
  obtain ⟨files, among, member⟩ := mem_directories_of_mem_files listed
  exact slash_notMem_of_stub? named (listing _ among file member)

/-- The names of a listed subject are single parts of a path. -/
theorem namesProper_of_mem {generator : Generator} {reference : Reference}
    (proper : generator.NamesProper reference) {artifact : Artifact} {subject : Subject}
    (member : subject ∈ generator.subjects reference artifact) :
    subject.NamesProper generator.language := by
  cases isAbout_of_mem member with
  | dictionary => exact trivial
  | enumeration _ listed => exact proper.enumerations _ listed
  | contract _ listed => exact proper.contracts _ listed
  | function _ found =>
      obtain ⟨listed, -⟩ := exists_of_mem_discover found
      obtain ⟨event, suffix⟩ := noSlash_of_mem_discover proper.referenceFiles found
      exact ⟨proper.contracts _ listed,
        slash_notMem_stubModule generator.language event suffix⟩

/-- The parts of the location of a listed subject are those of its place. -/
theorem exists_joined_location {generator : Generator} {reference : Reference}
    (proper : generator.NamesProper reference) {artifact : Artifact} {subject : Subject}
    (member : subject ∈ generator.subjects reference artifact) :
    ∃ path, generator.language.location? artifact subject = some path ∧
      IsJoined path (generator.language.place artifact subject) := by
  obtain ⟨path, located⟩ := exists_location? member
  exact ⟨path, located, Language.isJoined_location (namesProper_of_mem proper member) located⟩

/-- The kind of a file can be read off its place. -/
theorem artifactAt_place {generator : Generator} {reference : Reference}
    (apart : generator.NamesApart reference) {artifact : Artifact} {subject : Subject}
    (member : subject ∈ generator.subjects reference artifact) :
    generator.language.artifactAt (generator.language.place artifact subject) =
      some artifact := by
  unfold Generator.subjects at member
  cases artifact with
  | enumeration =>
      obtain ⟨enumeration, listed, rfl⟩ := List.mem_map.1 member
      have notIndex := apart.enumerationFiles enumeration listed
      simp [Language.place, Language.artifactAt, notIndex]
  | enumerationIndex | functionIndex | stateSpace | termSetIndex =>
      simp [Language.place, Language.artifactAt]
  | termSet =>
      obtain ⟨contract, listed, rfl⟩ := List.mem_map.1 member
      have notIndex := apart.contractFiles contract listed
      simp [Language.place, Language.artifactAt, notIndex]
  | algorithmIndex =>
      obtain ⟨contract, -, rfl⟩ := List.mem_map.1 member
      exact generator.language.artifactAt_algorithmIndex _
  | scheduleStub =>
      obtain ⟨contract, -, rfl⟩ := List.mem_map.1 member
      exact generator.language.artifactAt_scheduleStub _
  | executeStepStub =>
      obtain ⟨contract, -, rfl⟩ := List.mem_map.1 member
      exact generator.language.artifactAt_executeStepStub _
  | payoffStub | stateTransitionStub =>
      obtain ⟨stub, found, rfl⟩ := List.mem_map.1 member
      obtain ⟨-, type, -⟩ := exists_of_mem_discover found
      refine (generator.language.artifactAt_function _ stub).trans ?_
      rw [type]

theorem acronym_eq_of_contractModule_eq {generator : Generator} {reference : Reference}
    (apart : generator.NamesApart reference) {left right : Contract}
    (leftListed : left ∈ generator.dictionary.contracts.toList)
    (rightListed : right ∈ generator.dictionary.contracts.toList)
    (same : contractModule left.acronym = contractModule right.acronym) :
    left.acronym = right.acronym :=
  congrArg Contract.acronym
    (List.inj_on_of_nodup_map apart.contracts leftListed rightListed same)

/-- Two functions of one type that are found have modules or contracts of their own. -/
theorem pairwise_functionPlaces {generator : Generator} {reference : Reference}
    (apart : generator.NamesApart reference) (type : FunctionType) :
    (reference.discover generator.dictionary.contracts type).Pairwise fun a b =>
      contractModule a.contract.acronym = contractModule b.contract.acronym →
        generator.language.stubModule a ≠ generator.language.stubModule b := by
  by_cases keepsCapitals : generator.language = .typeScript
  · refine (pairwise_discover reference _ type).imp_of_mem fun {a b} hleft hright differ => ?_
    intro sameModule sameName
    obtain ⟨leftListed, leftType, -⟩ := exists_of_mem_discover hleft
    obtain ⟨rightListed, rightType, -⟩ := exists_of_mem_discover hright
    have acronym := acronym_eq_of_contractModule_eq apart leftListed rightListed sameModule
    have leftEvent := underscore_notMem_of_mem_discover hleft
    have rightEvent := underscore_notMem_of_mem_discover hright
    rw [stubModule_eq, stubModule_eq, if_pos keepsCapitals, if_pos keepsCapitals] at sameName
    obtain ⟨event, suffix⟩ :=
      eq_of_moduleText_eq (leftType.trans rightType.symm) leftEvent rightEvent sameName
    refine differ ?_
    rw [FunctionStub.sortKey, FunctionStub.sortKey, acronym, event, suffix]
  · refine (apart.functions keepsCapitals type).imp_of_mem fun hleft hright differ => ?_
    intro sameModule
    obtain ⟨leftListed, -⟩ := exists_of_mem_discover hleft
    obtain ⟨rightListed, -⟩ := exists_of_mem_discover hright
    exact differ (acronym_eq_of_contractModule_eq apart leftListed rightListed sameModule)

/-- The subjects of one kind have places of their own. -/
theorem pairwise_places {generator : Generator} {reference : Reference}
    (apart : generator.NamesApart reference) (artifact : Artifact) :
    (generator.subjects reference artifact).Pairwise fun a b =>
      generator.language.place artifact a ≠ generator.language.place artifact b := by
  have contracts := List.pairwise_map.1 apart.contracts
  unfold Generator.subjects
  cases artifact with
  | enumerationIndex | functionIndex | stateSpace | termSetIndex =>
      exact List.pairwise_singleton _ _
  | enumeration =>
      refine List.pairwise_map.2 ((List.pairwise_map.1 apart.enumerations).imp ?_)
      intro a b differ same
      simp only [Language.place, List.cons.injEq, and_true, true_and] at same
      exact differ (generator.language.sourceFile_injective same)
  | termSet =>
      refine List.pairwise_map.2 (contracts.imp ?_)
      intro a b differ same
      simp only [Language.place, List.cons.injEq, and_true, true_and] at same
      exact differ (generator.language.sourceFile_injective same)
  | algorithmIndex | scheduleStub | executeStepStub =>
      refine List.pairwise_map.2 (contracts.imp ?_)
      intro a b differ same
      simp only [Language.place, List.cons.injEq, and_true, true_and] at same
      exact differ same
  | payoffStub | stateTransitionStub =>
      refine List.pairwise_map.2 ((pairwise_functionPlaces apart _).imp ?_)
      intro a b differ same
      simp only [Language.place, List.cons.injEq, and_true, true_and] at same
      exact differ same.1 (generator.language.sourceFile_injective same.2)

end ContractDictionary
