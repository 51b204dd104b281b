import ContractDictionary.Proofs.Generation.Indexes
import ContractDictionary.Proofs.Generation.Locations
import ContractDictionary.Proofs.Generation.Runs
import Mathlib.Data.List.Flatten

/-!
# No file takes the place of another

The files of a run have paths of their own if names tell enumerations, contracts and functions
apart, and in a run without failures only then.  Identifiers and acronyms that differ are not
enough: modules are made of them by changing their case, and indexes have names of their own.
-/

namespace ContractDictionary

def Generator.locationsOf (generator : Generator) (reference : Reference)
    (kinds : List Artifact) : List String :=
  kinds.flatMap fun artifact => (generator.subjects reference artifact).map fun subject =>
    (generator.language.location? artifact subject).getD ""

def Generator.locations (generator : Generator) (reference : Reference) : List String :=
  generator.locationsOf reference Artifact.all

def Generator.places (generator : Generator) (reference : Reference) : List (List String) :=
  Artifact.all.flatMap fun artifact =>
    (generator.subjects reference artifact).map (generator.language.place artifact)

theorem map_path_planned (generator : Generator) (reference : Reference) :
    (plannedFiles (generator.batches reference)).map (·.path) =
      Artifact.all.flatMap fun artifact =>
        (generator.batch reference artifact).files.map (·.path) := by
  rw [plannedFiles, Generator.batches, List.flatMap_map, List.map_flatMap]

/-- The files of a batch are at the locations of some of its subjects. -/
theorem sublist_paths_batch (generator : Generator) (reference : Reference)
    (artifact : Artifact) :
    ((generator.batch reference artifact).files.map (·.path)).Sublist
      ((generator.subjects reference artifact).map fun subject =>
        (generator.language.location? artifact subject).getD "") := by
  rw [files_batch]
  induction generator.subjects reference artifact with
  | nil => exact .slnil
  | cons subject rest ih =>
      rw [List.filterMap_cons, List.map_cons]
      cases generated : generator.fileAbout reference artifact subject with
      | ok file =>
          rw [location?_of_fileAbout generated]
          exact ih.cons_cons file.path
      | error error => exact ih.cons _

theorem sublist_paths (generator : Generator) (reference : Reference) :
    ((plannedFiles (generator.batches reference)).map (·.path)).Sublist
      (generator.locations reference) := by
  rw [map_path_planned]
  exact List.Sublist.flatMap_right _ fun artifact _ =>
    sublist_paths_batch generator reference artifact

/-- In a run without failures every subject has a file at its location. -/
theorem paths_eq_locations {generator : Generator} {reference : Reference}
    (complete : ∀ artifact, (generator.batch reference artifact).failures = []) :
    (plannedFiles (generator.batches reference)).map (·.path) = generator.locations reference := by
  rw [map_path_planned, Generator.locations, Generator.locationsOf]
  refine List.flatMap_congr fun artifact _ => ?_
  refine map_files_of_complete (complete artifact) _ _ fun subject _ file generated => ?_
  rw [location?_of_fileAbout generated, Option.getD_some]

theorem sublist_locations (generator : Generator) (reference : Reference) {kinds : List Artifact}
    (order : kinds.Sublist Artifact.all) :
    (generator.locationsOf reference kinds).Sublist (generator.locations reference) :=
  order.flatMap _

/-- Where names are proper, the parts of a location are those of its place. -/
theorem parts_locations {generator : Generator} {reference : Reference}
    (proper : generator.NamesProper reference) :
    (generator.locations reference).map Path.parts = generator.places reference := by
  rw [Generator.locations, Generator.locationsOf, Generator.places, List.map_flatMap]
  refine List.flatMap_congr fun artifact _ => ?_
  rw [List.map_map]
  refine List.map_congr_left fun subject member => ?_
  obtain ⟨path, located, joined⟩ := exists_joined_location proper member
  rw [Function.comp_apply, located, Option.getD_some, joined.parts]

theorem nodup_all : Artifact.all.Nodup := by
  decide

/-- Names that are apart give places that differ. -/
theorem nodup_places {generator : Generator} {reference : Reference}
    (apart : generator.NamesApart reference) : (generator.places reference).Nodup := by
  refine List.nodup_flatMap.2 ⟨fun artifact _ => ?_, nodup_all.imp fun {a b} differ => ?_⟩
  · exact List.pairwise_map.2 (pairwise_places apart artifact)
  · intro place hleft hright
    obtain ⟨left, leftMember, rfl⟩ := List.mem_map.1 hleft
    obtain ⟨right, rightMember, same⟩ := List.mem_map.1 hright
    have kind := artifactAt_place apart leftMember
    rw [← same, artifactAt_place apart rightMember] at kind
    exact differ (Option.some.inj kind).symm

/-- What the places of the entities of a kind are made of differs. -/
theorem nodup_keys_of_places {α κ : Type} {generator : Generator} {reference : Reference}
    (distinct : (generator.places reference).Nodup) (artifact : Artifact) {entities : List α}
    {subject : α → Subject} (listed : generator.subjects reference artifact = entities.map subject)
    {key : α → κ} (parts : κ → List String)
    (placed : ∀ entity, generator.language.place artifact (subject entity) = parts (key entity)) :
    (entities.map key).Nodup := by
  have places := (List.nodup_flatMap.1 distinct).1 artifact artifact.mem_all
  have same : generator.language.place artifact ∘ subject = parts ∘ key := funext placed
  rw [listed, List.map_map, same, ← List.map_map] at places
  exact List.Nodup.of_map parts places

/-- A subject does not have the place of a subject of a later kind. -/
theorem place_ne_of_nodup {generator : Generator} {reference : Reference}
    (distinct : (generator.places reference).Nodup) (first second : Artifact)
    (order : [first, second].Sublist Artifact.all) {left right : Subject}
    (leftMember : left ∈ generator.subjects reference first)
    (rightMember : right ∈ generator.subjects reference second) :
    generator.language.place first left ≠ generator.language.place second right := by
  intro same
  have apart := (List.nodup_flatMap.1 distinct).2.sublist order
  have disjoint := (List.pairwise_cons.1 apart).1 second List.mem_cons_self
  refine disjoint (List.mem_map_of_mem leftMember) ?_
  rw [same]
  exact List.mem_map_of_mem rightMember

theorem namesApart_of_nodup {generator : Generator} {reference : Reference}
    (distinct : (generator.places reference).Nodup) : generator.NamesApart reference where
  enumerations := by
    refine nodup_keys_of_places distinct .enumeration rfl
      (fun stem => ["types", "enums", generator.language.sourceFile stem]) fun _ => rfl
  enumerationFiles := by
    intro enumeration listed same
    refine place_ne_of_nodup distinct .enumeration .enumerationIndex (by decide)
      (List.mem_map_of_mem listed) List.mem_cons_self ?_
    rw [Language.place, Language.place, same]
  contracts := by
    refine nodup_keys_of_places distinct .termSet rfl
      (fun stem => ["types", "terms", generator.language.sourceFile stem]) fun _ => rfl
  contractFiles := by
    intro contract listed same
    refine place_ne_of_nodup distinct .termSet .termSetIndex (by decide)
      (List.mem_map_of_mem listed) List.mem_cons_self ?_
    rw [Language.place, Language.place, same]
  functions := by
    intro _ type
    let key : FunctionStub → String × String := fun stub =>
      (stub.contract.acronym, generator.language.stubModule stub)
    let parts : String × String → List String := fun names =>
      ["algos", contractModule names.1, generator.language.sourceFile names.2]
    have keys : ((reference.discover generator.dictionary.contracts type).map key).Nodup := by
      cases type with
      | payoff =>
          exact nodup_keys_of_places distinct .payoffStub rfl parts fun _ => rfl
      | stateTransition =>
          exact nodup_keys_of_places distinct .stateTransitionStub rfl parts
            fun _ => rfl
    refine (List.pairwise_map.1 keys).imp fun differ acronym same => differ ?_
    exact Prod.ext acronym same

/-- The files of a run without failures have paths of their own if the locations differ. -/
theorem pathsDiffer_iff_of_complete {generator : Generator} {reference : Reference}
    (complete : ∀ artifact, (generator.batch reference artifact).failures = []) :
    PathsDiffer (plannedFiles (generator.batches reference)) ↔
      ((generator.locations reference).map Path.parts).Nodup := by
  rw [← paths_eq_locations complete, List.map_map]
  rfl

theorem pathsDiffer_of_namesApart {generator : Generator} {reference : Reference}
    (proper : generator.NamesProper reference) (apart : generator.NamesApart reference) :
    PathsDiffer (plannedFiles (generator.batches reference)) := by
  have paths := (sublist_paths generator reference).map Path.parts
  rw [parts_locations proper, List.map_map] at paths
  exact (nodup_places apart).sublist paths

/--
Let all names be proper.  If they are apart, no two files of a run have one path and a run keeps
every file; in a run without failures no two files have one path only if names are apart.
-/
theorem run_keeps_files_of_namesApart {generator : Generator} {reference : Reference}
    (proper : generator.NamesProper reference) :
    (generator.NamesApart reference →
      PathsDiffer (plannedFiles (generator.batches reference)) ∧
      ∃ files, (generator.run reference WrittenFiles.sink).run .empty =
          (.ok (Report.ofBatches (generator.batches reference)), files) ∧
        ∀ file ∈ plannedFiles (generator.batches reference),
          files.get? file.path = some file.content) ∧
    ((Report.ofBatches (generator.batches reference)).isSuccess = true →
      PathsDiffer (plannedFiles (generator.batches reference)) →
        generator.NamesApart reference) := by
  constructor
  · intro apart
    have differ := pathsDiffer_of_namesApart proper apart
    exact ⟨differ, run_keeps_files differ⟩
  · intro succeeded differ
    rw [pathsDiffer_iff_of_complete (complete_of_isSuccess succeeded), parts_locations proper]
      at differ
    exact namesApart_of_nodup differ

theorem run_keeps_files_of_annuityAndBond :
    ∃ dictionary warnings, annuityAndBond.compile = .ok ⟨dictionary, warnings⟩ ∧
      Generator.NamesProper ⟨.rust, dictionary, .builtin [.rust]⟩ annuityAndBondFunctions ∧
      PathsDiffer (plannedFiles
        (Generator.batches ⟨.rust, dictionary, .builtin [.rust]⟩ annuityAndBondFunctions)) ∧
      Generator.NamesApart ⟨.rust, dictionary, .builtin [.rust]⟩ annuityAndBondFunctions := by
  obtain ⟨dictionary, warnings, compiled, succeeded⟩ := isSuccess_of_annuityAndBond
  have evaluated : annuityAndBond.compile.toOption.all (fun compilation => decide
      (Generator.NamesProper ⟨.rust, compilation.dictionary, .builtin [.rust]⟩
          annuityAndBondFunctions ∧
        Generator.NamesApart ⟨.rust, compilation.dictionary, .builtin [.rust]⟩
          annuityAndBondFunctions)) = true := by
    decide +kernel
  rw [compiled] at evaluated
  obtain ⟨proper, apart⟩ := of_decide_eq_true evaluated
  obtain ⟨kept, needed⟩ := run_keeps_files_of_namesApart proper
  exact ⟨dictionary, warnings, compiled, proper, (kept apart).1, needed succeeded (kept apart).1⟩

def DifferInAnyCase (texts : List String) : Prop :=
  (texts.map Text.lower).Nodup ∧ (texts.map Text.upper).Nodup

instance (texts : List String) : Decidable (DifferInAnyCase texts) :=
  inferInstanceAs (Decidable (_ ∧ _))

/-- Acronyms and identifiers of contract types and identifiers of terms differ in any case. -/
def Dictionary.KeysDiffer (dictionary : Dictionary) : Prop :=
  DifferInAnyCase (dictionary.taxonomy.toList.map (·.acronym)) ∧
    DifferInAnyCase (dictionary.taxonomy.toList.map (·.identifier)) ∧
    DifferInAnyCase (dictionary.terms.toList.map (·.identifier))

instance (dictionary : Dictionary) : Decidable dictionary.KeysDiffer :=
  inferInstanceAs (Decidable (_ ∧ _))

/-- The keys of the document differ in any case, but two files of a whole run have one path. -/
def Document.Overwrites (document : Document) (language : Language) (reference : Reference) :
    Prop :=
  ∃ dictionary warnings, document.compile = .ok ⟨dictionary, warnings⟩ ∧ dictionary.KeysDiffer ∧
    (Report.ofBatches
      (Generator.batches ⟨language, dictionary, .builtin [language]⟩ reference)).isSuccess = true ∧
    ¬ PathsDiffer
      (plannedFiles (Generator.batches ⟨language, dictionary, .builtin [language]⟩ reference))

/-- Two files of a few kinds that share a path are files of a run that do. -/
theorem overwrites_of_locationsOf {document : Document} {language : Language}
    {reference : Reference} {kinds : List Artifact} (order : kinds.Sublist Artifact.all)
    {first second : Nat} (later : first < second)
    (evaluated : document.compile.toOption.any (fun compilation =>
      let paths := Generator.locationsOf ⟨language, compilation.dictionary, .builtin [language]⟩
        reference kinds
      decide (compilation.dictionary.KeysDiffer ∧ compilation.dictionary.IsFaultless language ∧
        second < paths.length ∧
        paths[first]?.map Path.parts = paths[second]?.map Path.parts)) = true) :
    document.Overwrites language reference := by
  cases compiled : document.compile with
  | error error =>
      rw [compiled] at evaluated
      cases evaluated
  | ok compilation =>
      obtain ⟨dictionary, warnings⟩ := compilation
      obtain ⟨normal, -, built, -⟩ := compile_eq_ok_iff.1 compiled
      rw [compiled] at evaluated
      obtain ⟨keys, faultless, bound, same⟩ := of_decide_eq_true evaluated
      have succeeded := isSuccess_of_faultless (isResolved_of_buildsTo built)
        (List.mem_singleton.2 rfl) reference faultless
      refine ⟨dictionary, warnings, compiled, keys, succeeded, fun differ => ?_⟩
      rw [pathsDiffer_iff_of_complete (complete_of_isSuccess succeeded)] at differ
      have distinct := differ.sublist ((sublist_locations _ reference order).map Path.parts)
      refine List.nodup_iff_getElem?_ne_getElem?.1 distinct first second later ?_ ?_
      · rwa [List.length_map]
      · rwa [List.getElem?_map, List.getElem?_map]

/-- One contract type, which bears the acronym. -/
def documentOfAcronym (acronym : String) : Document :=
  .plain [] [.plain acronym "A"] []

/-- Functions for one type, the events of which differ in case. -/
def caseFunctions : Reference where
  directories := [("pam", ["POF_MD", "POF_md"])]

/--
Keys that differ in any case do not keep files apart: two functions, a term and the type of
events, a term or a contract and an index, and directories that are one may share a path.
-/
theorem overwrites_despite_keys :
    (documentOfAcronym "PAM").Overwrites .rust caseFunctions ∧
      (Document.plain [.plain "event_type" "Enum" none] [] []).Overwrites .rust ⟨[]⟩ ∧
      (Document.plain [.plain "mod" "Enum" none] [] []).Overwrites .rust ⟨[]⟩ ∧
      (Document.plain [.plain "a/b" "Enum" none, .plain "a//b" "Enum" none] [] []).Overwrites
        .rust ⟨[]⟩ ∧
      (documentOfAcronym "MOD").Overwrites .rust ⟨[]⟩ ∧
      (documentOfAcronym "").Overwrites .rust ⟨[]⟩ ∧
      (documentOfAcronym ".").Overwrites .rust ⟨[]⟩ ∧
      (Document.plain [] [.plain "A/B" "A", .plain "A//B" "B"] []).Overwrites .rust ⟨[]⟩ :=
  have functions : [Artifact.payoffStub].Sublist Artifact.all := by decide
  have enumerations : [Artifact.enumeration].Sublist Artifact.all := by decide
  have enumerationIndex : [Artifact.enumeration, .enumerationIndex].Sublist Artifact.all := by
    decide
  have contractIndex : [Artifact.termSet, .termSetIndex].Sublist Artifact.all := by decide
  have directories : [Artifact.functionIndex, .algorithmIndex].Sublist Artifact.all := by decide
  ⟨overwrites_of_locationsOf functions (show 0 < 1 by decide) (by decide +kernel),
    overwrites_of_locationsOf enumerations (show 3 < 4 by decide) (by decide +kernel),
    overwrites_of_locationsOf enumerationIndex (show 4 < 7 by decide) (by decide +kernel),
    overwrites_of_locationsOf enumerations (show 0 < 1 by decide) (by decide +kernel),
    overwrites_of_locationsOf contractIndex (show 0 < 1 by decide) (by decide +kernel),
    overwrites_of_locationsOf directories (show 0 < 1 by decide) (by decide +kernel),
    overwrites_of_locationsOf directories (show 0 < 1 by decide) (by decide +kernel),
    overwrites_of_locationsOf contractIndex (show 0 < 1 by decide) (by decide +kernel)⟩

end ContractDictionary
