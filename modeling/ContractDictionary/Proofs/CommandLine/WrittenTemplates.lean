import ContractDictionary.Proofs.CommandLine.SetupFaults
import Mathlib.Data.List.Basic

/-!
# Templates in a directory

The templates of some languages are looked for in a directory, language by language and kind by
kind.  They are loaded if a text is found in each place that the engine for templates compiles, and
otherwise what is wrong in the first place without one is stated.  What has been loaded are the
templates of these languages and no others, so a template is missing from it exactly for the other
languages.
-/

namespace ContractDictionary

/-- What is found where the template of a kind is looked for. -/
inductive FileTree.Finds (tree : FileTree) (engine : TemplateEngine) (root : String)
    (language : Language) (artifact : Artifact) :
    Except GenerationError engine.Compiled → Prop where
  | template {content : ByteArray} {text : String} {template : engine.Compiled}
      (file : tree.content? (templatePath root language artifact) = some content)
      (read : String.fromUTF8? content = some text)
      (compiled : engine.compile text = some template) :
      Finds tree engine root language artifact (.ok template)
  | missing (absent : tree.isFile (templatePath root language artifact) = false) :
      Finds tree engine root language artifact
        (.error (.missingTemplate language (templateName language artifact)))
  | unreadable {content : ByteArray}
      (file : tree.content? (templatePath root language artifact) = some content)
      (unread : String.fromUTF8? content = none) :
      Finds tree engine root language artifact
        (.error (.inaccessible (templatePath root language artifact)))
  | invalid {content : ByteArray} {text : String}
      (file : tree.content? (templatePath root language artifact) = some content)
      (read : String.fromUTF8? content = some text) (faulty : engine.compile text = none) :
      Finds tree engine root language artifact
        (.error (.invalidTemplate (templateName language artifact)))

namespace FileTree

variable {tree : FileTree} {engine : TemplateEngine} {root : String} {language : Language}
  {artifact : Artifact}

/-- What is found is what becomes of the source that the tree shows. -/
theorem finds_compile (tree : FileTree) (engine : TemplateEngine) (root : String)
    (language : Language) (artifact : Artifact) :
    tree.Finds engine root language artifact
      ((tree.sights.templateSource root language artifact).compile engine language artifact) := by
  cases file : tree.content? (templatePath root language artifact) with
  | none =>
      have absent : tree.isFile (templatePath root language artifact) = false := by
        rw [isFile, file]
        rfl
      rw [Sights.templateSource_eq_missing absent]
      exact .missing absent
  | some content =>
      have present : tree.isFile (templatePath root language artifact) = true := by
        rw [isFile, file]
        rfl
      have text : tree.sights.text? (templatePath root language artifact) =
          String.fromUTF8? content := by
        show (tree.content? _).bind String.fromUTF8? = _
        rw [file, Option.bind_some]
      rw [Sights.templateSource_of_isFile present, text]
      cases read : String.fromUTF8? content with
      | none => exact .unreadable file read
      | some text =>
          dsimp only [Option.map, Option.getD, TemplateSource.compile]
          cases compiled : engine.compile text with
          | none => exact .invalid file read compiled
          | some template => exact .template file read compiled

/-- One thing at most is found in a place. -/
theorem Finds.unique {outcome outcome' : Except GenerationError engine.Compiled}
    (found : tree.Finds engine root language artifact outcome)
    (found' : tree.Finds engine root language artifact outcome') : outcome = outcome' := by
  cases found <;> cases found' <;> simp_all [isFile]

theorem finds_iff {outcome : Except GenerationError engine.Compiled} :
    tree.Finds engine root language artifact outcome ↔
      (tree.sights.templateSource root language artifact).compile engine language artifact =
        outcome :=
  ⟨fun found => (finds_compile tree engine root language artifact).unique found, fun same =>
    same ▸ finds_compile tree engine root language artifact⟩

end FileTree

theorem mem_demanded_iff {languages : List Language} {language : Language} {artifact : Artifact} :
    (language, artifact) ∈ TemplateCollection.demanded languages ↔ language ∈ languages := by
  constructor
  · intro demanded
    obtain ⟨other, listed, named⟩ := List.mem_flatMap.1 demanded
    obtain ⟨_, _, same⟩ := List.mem_map.1 named
    cases same
    exact listed
  · intro listed
    exact List.mem_flatMap.2 ⟨language, listed, List.mem_map.2 ⟨artifact, artifact.mem_all, rfl⟩⟩

/-- A collection is made of what the sources under the same keys become. -/
theorem exists_entries_of_ofSources {engine : TemplateEngine}
    {sources : List ((Language × Artifact) × TemplateSource)} {collection : TemplateCollection}
    (made : TemplateCollection.ofSources engine sources = .ok collection) :
    ∃ entries, collection = engine.collection entries ∧
      entries.map Prod.fst = sources.map Prod.fst ∧ ∀ language artifact, Option.Rel
        (fun source template => source.compile engine language artifact = .ok template)
        (sources.lookup (language, artifact)) (entries.lookup (language, artifact)) := by
  obtain ⟨entries, each, same⟩ := bind_eq_ok.1 made
  have related : List.Forall₂ (fun source entry => entry.1 = source.1 ∧
      source.2.compile engine source.1.1 source.1.2 = .ok entry.2) sources entries := by
    refine (mapM_eq_ok.1 each).imp fun source entry compiled => ?_
    obtain ⟨template, own, whole⟩ := bind_eq_ok.1 compiled
    cases pure_eq_ok.1 whole
    exact ⟨rfl, own⟩
  refine ⟨entries, pure_eq_ok.1 same, map_eq_of_related related _ _ fun _ _ same => same.1,
    fun language artifact => ?_⟩
  exact rel_lookup (fun (key : Language × Artifact) (source : TemplateSource)
    (template : engine.Compiled) => source.compile engine key.1 key.2 = .ok template) related
    (language, artifact)

theorem registered_collection {engine : TemplateEngine}
    {entries : List ((Language × Artifact) × engine.Compiled)} {languages : List Language}
    (keys : entries.map Prod.fst = TemplateCollection.demanded languages) (language : Language) :
    (engine.collection entries).registered language =
      if language ∈ languages then
        some (engine.registry language fun artifact => entries.lookup (language, artifact))
      else none := by
  have any : entries.any (·.1.1 = language) = true ↔ language ∈ languages := by
    have listed : (∃ artifact, (language, artifact) ∈ entries.map Prod.fst) ↔
        language ∈ languages := by
      rw [keys]
      exact ⟨fun ⟨_, demanded⟩ => mem_demanded_iff.1 demanded, fun listed =>
        ⟨.enumeration, mem_demanded_iff.2 listed⟩⟩
    rw [List.any_eq_true, ← listed]
    constructor
    · rintro ⟨entry, stored, same⟩
      cases of_decide_eq_true same
      exact ⟨_, List.mem_map_of_mem stored⟩
    · rintro ⟨artifact, stored⟩
      obtain ⟨entry, stored, same⟩ := List.mem_map.1 stored
      exact ⟨entry, stored, decide_eq_true (congrArg Prod.fst same)⟩
  exact if_congr any rfl rfl

namespace FileTree

variable {tree : FileTree} {engine : TemplateEngine} {root : String} {languages : List Language}

/-- The fault of the templates in a directory is that of the first place with one. -/
theorem faultOf_templates (tree : FileTree) (engine : TemplateEngine) (root : String)
    (languages : List Language) :
    faultOf ((disk.templates engine root languages).run tree).1 =
      (TemplateCollection.demanded languages).findSome? fun pair => faultOf
        ((tree.sights.templateSource root pair.1 pair.2).compile engine pair.1 pair.2) := by
  rw [tree.shows.run_templates, Sights.templates_eq]
  exact (faultOf_ofSources engine _).trans List.findSome?_map

/-- The directory has a template where the template of a kind is looked for. -/
def HasTemplate (tree : FileTree) (engine : TemplateEngine) (root : String) (language : Language)
    (artifact : Artifact) : Prop :=
  ∃ template, tree.Finds engine root language artifact (.ok template)

theorem hasTemplate_iff {language : Language} {artifact : Artifact} :
    tree.HasTemplate engine root language artifact ↔
      faultOf ((tree.sights.templateSource root language artifact).compile engine language
        artifact) = none := by
  rw [faultOf_eq_none]
  exact exists_congr fun _ => finds_iff

/-- The error is what is wrong in the first place where there is no template. -/
inductive FirstFault (tree : FileTree) (engine : TemplateEngine) (root : String)
    (languages : List Language) : GenerationError → Prop where
  | after {front rest : List (Language × Artifact)} {language : Language} {artifact : Artifact}
      {error : GenerationError}
      (order : TemplateCollection.demanded languages = front ++ (language, artifact) :: rest)
      (before : ∀ pair ∈ front, tree.HasTemplate engine root pair.1 pair.2)
      (fault : tree.Finds engine root language artifact (.error error)) :
      FirstFault tree engine root languages error

theorem firstFault_iff {error : GenerationError} : tree.FirstFault engine root languages error ↔
    ((TemplateCollection.demanded languages).findSome? fun pair => faultOf
      ((tree.sights.templateSource root pair.1 pair.2).compile engine pair.1 pair.2)) =
        some error := by
  rw [List.findSome?_eq_some_iff]
  constructor
  · rintro ⟨order, before, fault⟩
    exact ⟨_, _, _, order, faultOf_eq_some.2 (finds_iff.1 fault), fun pair earlier =>
      hasTemplate_iff.1 (before pair earlier)⟩
  · rintro ⟨front, pair, rest, order, fault, before⟩
    exact .after order (fun pair earlier => hasTemplate_iff.2 (before pair earlier))
      (finds_iff.2 (faultOf_eq_some.1 fault))

theorem templates_eq_iff {outcome : Except GenerationError TemplateCollection} :
    (disk.templates engine root languages).run tree = (outcome, tree) ↔
      ((disk.templates engine root languages).run tree).1 = outcome := by
  rw [tree.shows.run_templates]
  constructor
  · intro same
    exact congrArg Prod.fst same
  · rintro rfl
    rfl

/-- Templates are loaded if there is one in each place. -/
theorem exists_templates_iff :
    (∃ collection, (disk.templates engine root languages).run tree = (.ok collection, tree)) ↔
      ∀ language ∈ languages, ∀ artifact, tree.HasTemplate engine root language artifact := by
  simp only [templates_eq_iff]
  rw [← faultOf_eq_none, faultOf_templates, List.findSome?_eq_none_iff]
  constructor
  · intro faultless language listed artifact
    exact hasTemplate_iff.2 (faultless (language, artifact) (mem_demanded_iff.2 listed))
  · intro each pair demanded
    exact hasTemplate_iff.1 (each pair.1 (mem_demanded_iff.1 demanded) pair.2)

theorem templates_eq_error_iff {error : GenerationError} :
    (disk.templates engine root languages).run tree = (.error error, tree) ↔
      tree.FirstFault engine root languages error := by
  rw [templates_eq_iff, ← faultOf_eq_some, faultOf_templates, firstFault_iff]

section

variable {collection : TemplateCollection}
  (loaded : (disk.templates engine root languages).run tree = (.ok collection, tree))

include loaded

/-- What is loaded is made from the sources in their places. -/
theorem exists_entries_of_loaded :
    ∃ entries : List ((Language × Artifact) × engine.Compiled),
      collection = engine.collection entries ∧
      entries.map Prod.fst = TemplateCollection.demanded languages ∧
      ∀ language ∈ languages, ∀ artifact, ∃ template,
        tree.Finds engine root language artifact (.ok template) ∧
          entries.lookup (language, artifact) = some template := by
  rw [templates_eq_iff, tree.shows.run_templates, Sights.templates_eq] at loaded
  obtain ⟨entries, rfl, keys, related⟩ := exists_entries_of_ofSources loaded
  refine ⟨entries, rfl, ?_, fun language listed artifact => ?_⟩
  · rw [keys, List.map_map]
    exact List.map_id _
  · have own := related language artifact
    rw [List.lookup_graph (fun key => tree.sights.templateSource root key.1 key.2)
      (mem_demanded_iff.2 listed)] at own
    generalize entries.lookup (language, artifact) = template? at own
    cases own with
    | some compiled => exact ⟨_, finds_iff.2 compiled, rfl⟩

/-- The templates of a language that have been loaded are those that have been found. -/
theorem registered_eq_some_of_loaded {language : Language} (listed : language ∈ languages) :
    ∃ template : Artifact → engine.Compiled,
      (∀ artifact, tree.Finds engine root language artifact (.ok (template artifact))) ∧
      collection.registered language =
        some (engine.registry language fun artifact => some (template artifact)) := by
  obtain ⟨entries, rfl, keys, found⟩ := exists_entries_of_loaded loaded
  obtain ⟨template, each⟩ := Classical.skolem.1 (found language listed)
  refine ⟨template, fun artifact => (each artifact).1, ?_⟩
  rw [registered_collection keys, if_pos listed, funext fun artifact => (each artifact).2]

theorem registered_eq_none_of_loaded {language : Language} (other : language ∉ languages) :
    collection.registered language = none := by
  obtain ⟨entries, rfl, keys, -⟩ := exists_entries_of_loaded loaded
  rw [registered_collection keys, if_neg other]

end

end FileTree

theorem render_ne_missingTemplate {collection : TemplateCollection} {language : Language}
    {registry : TemplateRegistry} (found : collection.registered language = some registry)
    (artifact : Artifact) (data : Json) (other : Language) (name : String) :
    collection.render language artifact data ≠ .error (.missingTemplate other name) := by
  rw [TemplateCollection.render, found]
  dsimp only
  cases registry artifact data <;> exact nofun

/--
The templates of some languages are loaded if each of them is a file of text that can be compiled,
and otherwise the error is that of the first one, by the order of the languages and then of the
kinds, that is not.  After loading, each of these languages has the templates that were found, so
that templates are missing from the other languages and from no listed one.
-/
theorem templates_of_tree (tree : FileTree) (engine : TemplateEngine) (root : String)
    (languages : List Language) :
    ((∃ collection,
        (FileTree.disk.templates engine root languages).run tree = (.ok collection, tree)) ↔
      ∀ language ∈ languages, ∀ artifact, tree.HasTemplate engine root language artifact) ∧
    (∀ error, (FileTree.disk.templates engine root languages).run tree = (.error error, tree) ↔
      tree.FirstFault engine root languages error) ∧
    ∀ collection,
      (FileTree.disk.templates engine root languages).run tree = (.ok collection, tree) →
      (∀ language ∈ languages, ∃ template : Artifact → engine.Compiled,
        (∀ artifact, tree.Finds engine root language artifact (.ok (template artifact))) ∧
        collection.registered language =
          some (engine.registry language fun artifact => some (template artifact))) ∧
      ∀ language artifact data,
        if language ∈ languages then
          ∀ other name,
            collection.render language artifact data ≠ .error (.missingTemplate other name)
        else
          collection.render language artifact data =
            .error (.missingTemplate language (templateName language artifact)) := by
  refine ⟨FileTree.exists_templates_iff, fun _ => FileTree.templates_eq_error_iff, ?_⟩
  intro collection loaded
  refine ⟨fun language listed => FileTree.registered_eq_some_of_loaded loaded listed, ?_⟩
  intro language artifact data
  split
  · next listed =>
      obtain ⟨template, -, found⟩ := FileTree.registered_eq_some_of_loaded loaded listed
      exact render_ne_missingTemplate found artifact data
  · next other =>
      rw [TemplateCollection.render, FileTree.registered_eq_none_of_loaded loaded other]

/-- Contents of template files, of which one is no text and one has an open block. -/
def mixedContent : Language → Artifact → ByteArray
  | .python, .payoffStub => ⟨#[0xff]⟩
  | .typeScript, .enumeration => "\x7b\x7b#each members\x7d\x7d".toUTF8
  | _, _ => "\x7b\x7bversion\x7d\x7d".toUTF8

/-- A directory with these files in the folders of their languages. -/
def mixedTree : FileTree where
  entries := (["templates"], .directory) :: Language.all.flatMap fun language =>
    (["templates", language.extension], .directory) :: Artifact.all.map fun artifact =>
      (["templates", language.extension, templateName language artifact ++ ".hbs"],
        .file (mixedContent language artifact))

/-- Of two faulty languages the first one counts, and in another directory there are no files. -/
theorem templates_of_mixedTree :
    (∃ collection, (FileTree.disk.templates .plain "templates" [.rust]).run mixedTree =
        (.ok collection, mixedTree) ∧
      (∀ artifact data other name,
        collection.render .rust artifact data ≠ .error (.missingTemplate other name)) ∧
      ∀ artifact data, collection.render .python artifact data =
        .error (.missingTemplate .python (templateName .python artifact))) ∧
    (FileTree.disk.templates .plain "templates" [.python, .typeScript]).run mixedTree =
      (.error (.inaccessible "templates/py/py_payoff_stub.hbs"), mixedTree) ∧
    (FileTree.disk.templates .plain "templates" [.typeScript, .python]).run mixedTree =
      (.error (.invalidTemplate "ts_enum"), mixedTree) ∧
    (FileTree.disk.templates .plain "" [.rust]).run mixedTree =
      (.error (.missingTemplate .rust "rs_enum"), mixedTree) := by
  have complete : ∀ language ∈ [Language.rust], ∀ artifact,
      mixedTree.HasTemplate .plain "templates" language artifact := by
    intro language listed artifact
    cases List.mem_singleton.1 listed
    rw [FileTree.hasTemplate_iff]
    cases artifact <;> decide +kernel
  have unread : mixedTree.FirstFault .plain "templates" [.python, .typeScript]
      (.inaccessible "templates/py/py_payoff_stub.hbs") :=
    FileTree.firstFault_iff.2 (by decide +kernel)
  have faulty : mixedTree.FirstFault .plain "templates" [.typeScript, .python]
      (.invalidTemplate "ts_enum") :=
    FileTree.firstFault_iff.2 (by decide +kernel)
  have absent : mixedTree.FirstFault .plain "" [.rust] (.missingTemplate .rust "rs_enum") :=
    FileTree.firstFault_iff.2 (by decide +kernel)
  obtain ⟨collection, loaded⟩ :=
    (templates_of_tree mixedTree .plain "templates" [.rust]).1.2 complete
  obtain ⟨-, rendered⟩ :=
    (templates_of_tree mixedTree .plain "templates" [.rust]).2.2 collection loaded
  refine ⟨⟨collection, loaded, fun artifact data => ?_, fun artifact data => ?_⟩, ?_, ?_, ?_⟩
  · have listed := rendered .rust artifact data
    rw [if_pos (by decide)] at listed
    exact listed
  · have other := rendered .python artifact data
    rwa [if_neg (by decide)] at other
  · exact ((templates_of_tree mixedTree .plain "templates" [.python, .typeScript]).2.1 _).2 unread
  · exact ((templates_of_tree mixedTree .plain "templates" [.typeScript, .python]).2.1 _).2 faulty
  · exact ((templates_of_tree mixedTree .plain "" [.rust]).2.1 _).2 absent

end ContractDictionary
