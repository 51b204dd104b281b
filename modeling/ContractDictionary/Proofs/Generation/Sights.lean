import ContractDictionary.Generation.Output
import ContractDictionary.Proofs.Outcome

/-!
# Looking at a disk

Before files are written a disk is only looked at: for templates, for a dictionary, for directories
and for the functions of a reference implementation.  What is found depends on what the disk shows,
and the disk stays as it is.
-/

namespace ContractDictionary

section

variable {σ : Type} {state : σ}

/-- Steps that leave the state as it is give their results one after the other. -/
theorem run_mapM {α β : Type} {step : α → StateM σ β} {result : α → β}
    (keeps : ∀ item, (step item).run state = pure (result item, state)) (items : List α) :
    (items.mapM step).run state = pure (items.map result, state) := by
  induction items with
  | nil => rfl
  | cons item rest ih =>
      simp only [List.mapM_cons, StateT.run_bind, StateT.run_pure, keeps, ih, pure_bind,
        List.map_cons]

/-- A step that leaves the state as it is, or changes it, goes before the rest of a computation. -/
theorem run_liftM_bind {α β ε : Type} {step : StateM σ α}
    {next : α → ExceptT ε (StateM σ) β} {before after : σ} {found : α}
    (ran : step.run before = pure (found, after)) :
    (liftM step >>= next : ExceptT ε (StateM σ) β).run.run before =
      (next found).run.run after := by
  have unlifted : (liftM step >>= next : ExceptT ε (StateM σ) β).run.run before =
      step.run before >>= fun result => (next result.1).run.run result.2 := rfl
  rw [unlifted, ran, pure_bind]

structure Sights where
  isDirectory : String → Bool
  isFile : String → Bool
  fileNames : String → Option (List String)
  text? : String → Option String

/-- Reading in the state gives the sights, and leaves the state as it is. -/
structure FileReader.Shows (reader : FileReader (StateM σ)) (state : σ) (sights : Sights) :
    Prop where
  isDirectory (path : String) :
    (reader.isDirectory path).run state = pure (sights.isDirectory path, state)
  isFile (path : String) : (reader.isFile path).run state = pure (sights.isFile path, state)
  fileNames (path : String) :
    (reader.fileNames path).run state = pure (sights.fileNames path, state)
  readText (path : String) : (reader.readText path).run state = pure (sights.text? path, state)

def FileTree.sights (tree : FileTree) : Sights :=
  ⟨tree.isDirectory, tree.isFile, tree.fileNames?, tree.text?⟩

theorem FileTree.shows (tree : FileTree) : disk.Shows tree tree.sights where
  isDirectory _ := rfl
  isFile _ := rfl
  fileNames _ := rfl
  readText _ := rfl

namespace Sights

def reader (sights : Sights) : FileReader Id where
  isDirectory path := pure (sights.isDirectory path)
  isFile path := pure (sights.isFile path)
  fileNames path := pure (sights.fileNames path)
  readText path := pure (sights.text? path)

/-- What is seen where the written template of a kind is looked for. -/
def templateSource (sights : Sights) (root : String) (language : Language) (artifact : Artifact) :
    TemplateSource :=
  (sights.reader.templateSource root language artifact).run

section

variable {sights : Sights} {root : String} {language : Language} {artifact : Artifact}

theorem templateSource_eq_missing
    (absent : sights.isFile (templatePath root language artifact) = false) :
    sights.templateSource root language artifact = .missing := by
  unfold templateSource FileReader.templateSource reader
  simp only [pure_bind, absent]
  rfl

theorem templateSource_of_isFile
    (present : sights.isFile (templatePath root language artifact) = true) :
    sights.templateSource root language artifact =
      ((sights.text? (templatePath root language artifact)).map .written).getD
        (.unreadable (templatePath root language artifact)) := by
  unfold templateSource FileReader.templateSource reader
  simp only [pure_bind, present, Bool.not_true, Bool.false_eq_true, if_false]
  cases sights.text? (templatePath root language artifact) <;> rfl

end

theorem templates_eq (sights : Sights) (engine : TemplateEngine) (root : String)
    (languages : List Language) :
    (sights.reader.templates engine root languages).run =
      TemplateCollection.ofSources engine ((TemplateCollection.demanded languages).map
        fun key => (key, sights.templateSource root key.1 key.2)) := by
  unfold FileReader.templates
  rw [Id.run_bind, List.idRun_mapM]
  rfl

/-- Why no files can be generated: the output or the reference directory is none. -/
def directoryFault? (sights : Sights) (output reference : String) : Option GenerationError :=
  faultOf (sights.reader.checkDirectories output reference).run

theorem directoryFault?_cases (sights : Sights) (output reference : String) :
    sights.isDirectory output = true ∧ sights.isDirectory reference = true ∧
        sights.directoryFault? output reference = none ∨
      (sights.isDirectory output = false ∨ sights.isDirectory reference = false) ∧
        ∃ condition, sights.directoryFault? output reference = some (.precondition condition) := by
  unfold directoryFault? FileReader.checkDirectories reader
  simp only [pure_bind]
  cases sights.isDirectory output with
  | false => exact .inr ⟨.inl rfl, _, rfl⟩
  | true =>
      cases sights.isDirectory reference with
      | false => exact .inr ⟨.inr rfl, _, rfl⟩
      | true => exact .inl ⟨rfl, rfl, rfl⟩

end Sights

namespace FileReader.Shows

variable {reader : FileReader (StateM σ)} {sights : Sights}

theorem run_checkDirectories (shown : reader.Shows state sights) (output reference : String) :
    (reader.checkDirectories output reference).run state =
      pure ((sights.reader.checkDirectories output reference).run, state) := by
  unfold FileReader.checkDirectories Sights.reader
  rw [StateT.run_bind, shown.isDirectory, pure_bind]
  dsimp only
  rw [pure_bind]
  cases sights.isDirectory output with
  | false => rfl
  | true =>
      simp only [Bool.not_true, Bool.false_eq_true, if_false, StateT.run_bind, shown.isDirectory,
        pure_bind]
      cases sights.isDirectory reference <;> rfl

theorem run_templateSource (shown : reader.Shows state sights) (root : String)
    (language : Language) (artifact : Artifact) :
    (reader.templateSource root language artifact).run state =
      pure (sights.templateSource root language artifact, state) := by
  rw [FileReader.templateSource, StateT.run_bind, shown.isFile, pure_bind]
  cases present : sights.isFile (templatePath root language artifact) with
  | false =>
      rw [Sights.templateSource_eq_missing present]
      rfl
  | true =>
      rw [Sights.templateSource_of_isFile present]
      simp only [Bool.not_true, Bool.false_eq_true, if_false, StateT.run_bind, shown.readText,
        pure_bind]
      cases sights.text? (templatePath root language artifact) <;> rfl

theorem run_templates (shown : reader.Shows state sights) (engine : TemplateEngine)
    (root : String) (languages : List Language) :
    (reader.templates engine root languages).run state =
      pure ((sights.reader.templates engine root languages).run, state) := by
  have found (key : Language × Artifact) : (do
      let source ← reader.templateSource root key.1 key.2
      return (key, source) : StateM σ _).run state =
        pure ((key, sights.templateSource root key.1 key.2), state) := by
    simp only [StateT.run_bind, shown.run_templateSource, pure_bind, StateT.run_pure]
  rw [sights.templates_eq, FileReader.templates, StateT.run_bind, run_mapM found]
  rfl

end FileReader.Shows

/-- Files are generated from the state that is seen, unless one of the directories is none. -/
theorem run_generate {disk : Disk (StateM σ)} {sights : Sights} (shown : disk.Shows state sights)
    (generator : Generator) (output reference : String) :
    (disk.generate generator output reference).run state =
      match sights.directoryFault? output reference with
      | some fault => pure (.error fault, state)
      | none =>
          (generator.runFrom (disk.reference reference generator.dictionary.contracts)
            (disk.sink output)).run.run state := by
  rw [Disk.generate, StateT.run_bind, shown.run_checkDirectories, pure_bind,
    Sights.directoryFault?]
  cases (sights.reader.checkDirectories output reference).run <;> rfl

end

/-! ## Reference implementations -/

namespace FileTree

/-- There is a file of the name in the directory to which a path leads. -/
def HasFile (tree : FileTree) (path name : String) : Prop :=
  ∃ place content, tree.resolve? path = some place ∧ tree.hasDirectory place = true ∧
    (place ++ [name], FileEntry.file content) ∈ tree.entries

theorem mem_fileNames_iff {tree : FileTree} {path name : String} :
    name ∈ tree.fileNames path ↔ tree.HasFile path name := by
  unfold fileNames HasFile
  cases tree.resolve? path with
  | none => simp
  | some place =>
      dsimp only
      split
      · next directory =>
          simp only [List.mem_filterMap, Option.some.injEq, exists_and_left, exists_eq_left',
            directory, true_and]
          constructor
          · rintro ⟨⟨other, entry⟩, listed, named⟩
            cases entry with
            | directory => cases named
            | file content =>
                dsimp only at named
                split at named
                · next last found =>
                    split at named
                    · next above =>
                        cases named
                        obtain ⟨front, rfl⟩ := List.getLast?_eq_some_iff.1 found
                        rw [List.dropLast_concat] at above
                        exact ⟨content, above ▸ listed⟩
                    · cases named
                · cases named
          · rintro ⟨content, listed⟩
            exact ⟨_, listed, by simp⟩
      · next other => simp [other]

theorem fileNames_eq_nil {tree : FileTree} {path : String} (other : tree.isDirectory path = false) :
    tree.fileNames path = [] := by
  unfold isDirectory at other
  unfold fileNames
  cases found : tree.resolve? path with
  | none => rfl
  | some place =>
      rw [found] at other
      exact if_neg (Bool.eq_false_iff.1 other)

/-- In a tree every directory for functions can be read, and there need not be one. -/
theorem run_functionFiles (tree : FileTree) (path : String) :
    (disk.functionFiles path).run.run tree = pure (.ok (tree.fileNames path), tree) := by
  unfold FileReader.functionFiles
  rw [run_liftM_bind (tree.shows.isDirectory path)]
  cases directory : tree.sights.isDirectory path with
  | false =>
      rw [fileNames_eq_nil directory]
      rfl
  | true =>
      have names : tree.sights.fileNames path = some (tree.fileNames path) := if_pos directory
      simp only [Bool.not_true, Bool.false_eq_true, if_false]
      rw [run_liftM_bind (tree.shows.fileNames path), names]
      rfl

/-- What is read from a tree of files about the functions of some contracts. -/
def reference (tree : FileTree) (root : String) (contracts : ContractSet) : Reference where
  directories := contracts.toList.map fun contract =>
    (contract.directory, tree.fileNames (Path.join root contract.directory))

/-- The reference implementation is read without a change to the tree. -/
theorem run_reference (tree : FileTree) (root : String) (contracts : ContractSet) :
    (disk.reference root contracts).run.run tree =
      pure (.ok (tree.reference root contracts), tree) := by
  have listed (list : List Contract) : (list.mapM fun contract => (do
      let names ← disk.functionFiles (Path.join root contract.directory)
      return (contract.directory, names) : ExceptT GenerationError (StateM FileTree) _)).run.run
        tree = pure (.ok (list.map fun contract =>
          (contract.directory, tree.fileNames (Path.join root contract.directory))), tree) := by
    induction list with
    | nil => rfl
    | cons contract rest ih =>
        simp only [List.mapM_cons, ExceptT.run_bind, StateT.run_bind, run_functionFiles, pure_bind,
          ExceptT.run_pure, ih, StateT.run_pure, List.map_cons]
  unfold FileReader.reference
  simp only [ExceptT.run_bind, StateT.run_bind, listed, pure_bind, ExceptT.run_pure,
    StateT.run_pure]
  rfl

theorem files_reference {tree : FileTree} {root : String} {contracts : ContractSet}
    {contract : Contract} (declared : contract ∈ contracts.toList) :
    (tree.reference root contracts).files contract.directory =
      tree.fileNames (Path.join root contract.directory) := by
  have listed (list : List Contract) (member : contract ∈ list) :
      (list.map fun contract => (contract.directory,
        tree.fileNames (Path.join root contract.directory))).lookup contract.directory =
        some (tree.fileNames (Path.join root contract.directory)) := by
    induction list with
    | nil => cases member
    | cons first rest ih =>
        rw [List.map_cons, List.lookup_cons]
        by_cases same : contract.directory = first.directory
        · rw [same, beq_self_eq_true]
        · rw [beq_false_of_ne same]
          refine ih ((List.mem_cons.1 member).resolve_left ?_)
          rintro rfl
          exact same rfl
  rw [Reference.files, reference, listed _ declared, Option.getD_some]

end FileTree

end ContractDictionary
