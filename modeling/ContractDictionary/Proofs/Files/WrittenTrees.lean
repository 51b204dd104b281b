import ContractDictionary.Proofs.Files.Paths
import ContractDictionary.Proofs.Generation.Runs
import ContractDictionary.Proofs.Generation.Sights

/-!
# Runs on a tree of files

Writing a file creates directories on the way to it.  If its path stays below the directory that
it is joined to, nothing else in the tree changes: not the files and directories beside this
directory, and no directory becomes a file.

A run on a tree first looks at directories, which leaves the tree as it is, and then writes file
after file, up to the first one that cannot be written, with the reference implementation read
anew for every kind.  However it ends, the tree has changed only below the output directory if the
paths of the files stay below.
-/

namespace ContractDictionary

section

open ContractDictionary.Path (IsBelow IsBeneath)

namespace FileTree

/-- The tree has the directories of another one, and all that it has elsewhere than below a top. -/
structure Extends (top : List String) (before after : FileTree) : Prop where
  directories : ∀ place, before.hasDirectory place = true → after.hasDirectory place = true
  elsewhere : ∀ place, ¬ IsBeneath top place → after.entry? place = before.entry? place

variable {top : List String} {before middle after tree : FileTree}

theorem Extends.refl (top : List String) (tree : FileTree) : Extends top tree tree :=
  ⟨fun _ => id, fun _ _ => rfl⟩

theorem Extends.trans (first : Extends top before middle) (second : Extends top middle after) :
    Extends top before after where
  directories place held := second.directories place (first.directories place held)
  elsewhere place apart := (second.elsewhere place apart).trans (first.elsewhere place apart)

theorem Extends.stepTo (extended : Extends top before after) {place next : List String}
    {part : String} (stepped : before.stepTo place part = some next) :
    after.stepTo place part = some next := by
  unfold FileTree.stepTo at stepped ⊢
  split at stepped
  · cases stepped
  · next held =>
      have directory := extended.directories place (by simpa using held)
      rwa [directory, if_neg (by decide)]

/-- A path leads in a tree where it leads in a smaller one. -/
theorem Extends.resolve? (extended : Extends top before after) {path : String}
    {place : List String} (resolved : before.resolve? path = some place) :
    after.resolve? path = some place := by
  have follow (steps : List String) {start final : List String}
      (followed : steps.foldlM before.stepTo start = some final) :
      steps.foldlM after.stepTo start = some final := by
    induction steps generalizing start with
    | nil => exact followed
    | cons step rest ih =>
        obtain ⟨next, stepped, later⟩ := Option.bind_eq_some_iff.1 followed
        exact Option.bind_eq_some_iff.2 ⟨next, extended.stepTo stepped, ih later⟩
  unfold FileTree.resolve? at resolved ⊢
  split at resolved
  · cases resolved
  · next path_ne =>
      rw [if_neg path_ne]
      exact follow _ resolved

theorem entry?_put_of_ne {place other : List String} (entry : FileEntry) (apart : other ≠ place) :
    FileTree.entry? (tree.put place entry) other = tree.entry? other := by
  have kept (entries : List (List String × FileEntry)) :
      (entries.filter (·.1 ≠ place)).lookup other = entries.lookup other := by
    induction entries with
    | nil => rfl
    | cons first rest ih =>
        obtain ⟨key, value⟩ := first
        by_cases same : key = place
        · subst same
          rw [List.filter_cons_of_neg (by simp), ih, List.lookup_cons, beq_false_of_ne apart]
        · rw [List.filter_cons_of_pos (by simpa using same), List.lookup_cons, List.lookup_cons, ih]
  unfold entry? put
  rw [List.lookup_cons, beq_false_of_ne apart, kept]

/-- An entry below the top may be put where there is no directory. -/
theorem extends_put {place : List String} (beneath : IsBeneath top place)
    (free : tree.hasDirectory place = false) (entry : FileEntry) :
    Extends top tree (tree.put place entry) := by
  have same {other : List String} (apart : other ≠ place) :
      FileTree.entry? (tree.put place entry) other = tree.entry? other :=
    entry?_put_of_ne entry apart
  constructor
  · intro other held
    have apart : other ≠ place := by
      rintro rfl
      rw [free] at held
      cases held
    rwa [hasDirectory, same apart]
  · intro other elsewhere
    exact same fun equal => elsewhere (equal ▸ beneath)

def createStep? (state : FileTree × List String) (part : String) :
    Option (FileTree × List String) := do
  let (tree, place) := state
  let next ← tree.stepTo place part
  match tree.entry? next with
  | some .directory => return (tree, next)
  | some (.file _) => none
  | none => return (tree.put next .directory, next)

theorem createDirectories?_eq (tree : FileTree) (path : String) :
    tree.createDirectories? path =
      ((Path.steps path).foldlM createStep? (tree, [])).map Prod.fst :=
  rfl

theorem createStep?_of_directory {place next : List String} {part : String}
    (stepped : tree.stepTo place part = some next) (held : tree.hasDirectory next = true) :
    createStep? (tree, place) part = some (tree, next) := by
  unfold hasDirectory at held
  split at held
  · next found => simp [createStep?, stepped, found]
  · cases held

theorem createStep?_eq_some {place next : List String} {part : String}
    (created : createStep? (tree, place) part = some (after, next)) :
    tree.stepTo place part = some next ∧
      (after = tree ∧ tree.hasDirectory next = true ∨
        after = tree.put next .directory ∧ tree.hasDirectory next = false) := by
  obtain ⟨reached, stepped, created⟩ := Option.bind_eq_some_iff.1 created
  split at created
  · next found =>
      cases created
      exact ⟨stepped, .inl ⟨rfl, by rw [hasDirectory, found]⟩⟩
  · cases created
  · next found =>
      cases created
      exact ⟨stepped, .inr ⟨rfl, by rw [hasDirectory, found]⟩⟩

theorem hasDirectory_of_stepTo {place next : List String} {part : String}
    (stepped : tree.stepTo place part = some next) : tree.hasDirectory place = true := by
  unfold stepTo at stepped
  split at stepped
  · cases stepped
  · next held => simpa using held

theorem hasDirectory_of_foldlM {steps place final : List String}
    (followed : steps.foldlM tree.stepTo place = some final)
    (held : tree.hasDirectory final = true) : tree.hasDirectory place = true := by
  cases steps with
  | nil =>
      cases followed
      exact held
  | cons step rest =>
      obtain ⟨next, stepped, -⟩ := Option.bind_eq_some_iff.1 followed
      exact hasDirectory_of_stepTo stepped

/-- Where there are directories all the way, none is created. -/
theorem foldlM_createStep?_of_directories {steps place final : List String}
    (followed : steps.foldlM tree.stepTo place = some final)
    (held : tree.hasDirectory final = true) :
    steps.foldlM createStep? (tree, place) = some (tree, final) := by
  induction steps generalizing place with
  | nil =>
      cases followed
      rfl
  | cons step rest ih =>
      obtain ⟨next, stepped, later⟩ := Option.bind_eq_some_iff.1 followed
      have created := createStep?_of_directory stepped (hasDirectory_of_foldlM later held)
      exact Option.bind_eq_some_iff.2 ⟨_, created, ih later⟩

/-- A step that does not lead upwards creates at most a directory below the top. -/
theorem extends_of_createStep? {place next : List String} {part : String} (other : part ≠ "..")
    (inside : top <+: place) (created : createStep? (before, place) part = some (after, next)) :
    Extends top before after ∧ top <+: next := by
  obtain ⟨stepped, change⟩ := createStep?_eq_some created
  have next_eq := stepTo_name other stepped
  refine ⟨?_, inside.trans (next_eq ▸ List.prefix_append _ _)⟩
  rcases change with ⟨rfl, -⟩ | ⟨rfl, free⟩
  · exact .refl top _
  · obtain ⟨names, rfl⟩ := inside
    rw [List.append_assoc] at next_eq
    refine extends_put ⟨_, ?_, next_eq⟩ free _
    intro none
    obtain ⟨rfl, -⟩ := List.append_eq_nil_iff.1 none
    have stayed : next = top ++ [] := next_eq.trans (congrArg (top ++ ·) none)
    rw [stayed, hasDirectory_of_stepTo stepped] at free
    cases free

theorem extends_of_foldlM {steps place final : List String} (noStepUp : ".." ∉ steps)
    (inside : top <+: place)
    (created : steps.foldlM createStep? (before, place) = some (after, final)) :
    Extends top before after := by
  induction steps generalizing before place with
  | nil =>
      cases created
      exact .refl top _
  | cons step rest ih =>
      rw [List.mem_cons, not_or] at noStepUp
      obtain ⟨⟨middle, next⟩, first, later⟩ := Option.bind_eq_some_iff.1 created
      obtain ⟨extended, within⟩ := extends_of_createStep? (Ne.symm noStepUp.1) inside first
      exact extended.trans (ih noStepUp.2 within later)

theorem extends_of_createDirectories? {root path parent : String} (below : IsBelow path)
    (rooted : before.resolve? root = some top) (directory : before.hasDirectory top = true)
    (leads : Path.parent? (Path.join root path) = some parent)
    (created : before.createDirectories? parent = some after) : Extends top before after := by
  obtain ⟨front, joined, first⟩ := exists_steps_of_resolve? below.relative rooted
  obtain ⟨kept, rest, stay, whole, parentSteps, stays⟩ := Path.exists_steps_of_parent? leads
  rw [createDirectories?_eq, parentSteps] at created
  obtain ⟨⟨_, final⟩, folded, rfl⟩ := Option.map_eq_some_iff.1 created
  rcases List.append_eq_append_iff.1 (whole.symm.trans joined) with
    ⟨later, rfl, -⟩ | ⟨inner, rfl, within⟩
  · -- The directory of the file is on the way to the top.
    rw [List.foldlM_append] at first
    obtain ⟨place, reached, onward⟩ := Option.bind_eq_some_iff.1 first
    have held := hasDirectory_of_foldlM onward directory
    have followed : (kept ++ stay).foldlM before.stepTo [] = some place := by
      rw [List.foldlM_append, reached]
      rcases stays with rfl | rfl
      · rfl
      · simp [stepTo, held]
    rw [foldlM_createStep?_of_directories followed held] at folded
    cases folded
    exact .refl top _
  · rw [List.append_assoc, List.foldlM_append,
      foldlM_createStep?_of_directories first directory] at folded
    refine extends_of_foldlM ?_ List.prefix_rfl folded
    rw [List.mem_append, not_or]
    constructor
    · intro stepUp
      exact Path.stepUp_notMem_steps below (within ▸ List.mem_append_left _ stepUp)
    · rcases stays with rfl | rfl <;> decide

theorem extends_of_writeFile? {root path : String} {content : ByteArray} (below : IsBelow path)
    (rooted : before.resolve? root = some top) (directory : before.hasDirectory top = true)
    (written : before.writeFile? (Path.join root path) content = some after) :
    Extends top before after := by
  obtain ⟨place, resolved, written⟩ := Option.bind_eq_some_iff.1 written
  have place_eq := resolve?_join below rooted resolved
  split at written
  · cases written
  · next free =>
      cases written
      have noDirectory : before.hasDirectory place = false := by
        unfold hasDirectory
        split
        · next found => exact absurd found free
        · rfl
      refine extends_put ⟨_, ?_, place_eq⟩ noDirectory _
      intro none
      rw [place_eq, none, List.append_nil, directory] at noDirectory
      cases noDirectory

end FileTree

end

/-! ## Runs -/

open ContractDictionary.Path (IsBelow)
open FileTree (Extends)

variable {top : List String} {tree : FileTree} {root path : String}

namespace FileTree

theorem run_createDirectories (tree : FileTree) (path : String) :
    (disk.createDirectories path).run tree =
      match tree.createDirectories? path with
      | some created => (true, created)
      | none => (false, tree) := by
  cases found : tree.createDirectories? path <;>
    simp only [disk, StateT.run_bind, StateT.run_get, pure_bind, found] <;> rfl

theorem run_writeText (tree : FileTree) (path content : String) :
    (disk.writeText path content).run tree =
      match tree.writeFile? path content.toUTF8 with
      | some written => (true, written)
      | none => (false, tree) := by
  cases found : tree.writeFile? path content.toUTF8 <;>
    simp only [disk, StateT.run_bind, StateT.run_get, pure_bind, found] <;> rfl

theorem run_write (tree : FileTree) (target content : String) :
    (Disk.save.write disk target content).run tree =
      match tree.writeFile? target content.toUTF8 with
      | some written => (.ok (), written)
      | none => (.error (.inaccessible target), tree) := by
  rw [Disk.save.write, StateT.run_bind, run_writeText]
  cases tree.writeFile? target content.toUTF8 <;> rfl

theorem run_save (tree : FileTree) (target content : String) :
    (disk.save target content).run tree =
      match Path.parent? target with
      | none => (Disk.save.write disk target content).run tree
      | some parent =>
          match tree.createDirectories? parent with
          | some created => (Disk.save.write disk target content).run created
          | none => (.error (.inaccessible parent), tree) := by
  rw [Disk.save]
  cases Path.parent? target with
  | none => rfl
  | some parent =>
      dsimp only
      rw [StateT.run_bind, run_createDirectories]
      cases tree.createDirectories? parent <;> rfl

theorem extends_of_run_write (below : IsBelow path)
    (rooted : tree.resolve? root = some top) (directory : tree.hasDirectory top = true)
    (content : String) :
    Extends top tree ((Disk.save.write disk (Path.join root path) content).run tree).2 := by
  rw [run_write]
  split
  · next written => exact extends_of_writeFile? below rooted directory written
  · exact .refl top tree

/-- Writing one file, whether it succeeds or not, changes nothing but what is below the top. -/
theorem extends_of_write (below : IsBelow path)
    (rooted : tree.resolve? root = some top) (directory : tree.hasDirectory top = true)
    (content : String) :
    Extends top tree (((disk.sink root).write path content).run tree).2 := by
  show Extends top tree ((disk.save (Path.join root path) content).run tree).2
  rw [run_save]
  split
  · exact extends_of_run_write below rooted directory content
  · next parent leads =>
      split
      · next created =>
          have extended := extends_of_createDirectories? below rooted directory leads created
          exact extended.trans (extends_of_run_write below (extended.resolve? rooted)
            (extended.directories top directory) content)
      · exact .refl top tree

theorem exists_resolve?_of_isDirectory (directory : tree.isDirectory path = true) :
    ∃ place, tree.resolve? path = some place ∧ tree.hasDirectory place = true := by
  unfold isDirectory at directory
  split at directory
  · next place resolved => exact ⟨place, resolved, directory⟩
  · cases directory

/-- Writing a file keeps that the tree has changed only below the top. -/
theorem keeps_write {file : GeneratedFile} (below : IsBelow file.path)
    (rooted : tree.resolve? root = some top) (directory : tree.hasDirectory top = true) :
    Keeps (Extends top tree) (fun _ => True) (fun _ => True)
      (ExceptT.mk ((disk.sink root).write file.path file.content)) := by
  intro later extended
  refine ⟨extended.trans ?_, fun _ _ => trivial, fun _ _ => trivial⟩
  exact extends_of_write below (extended.resolve? rooted) (extended.directories top directory)
    file.content

theorem keeps_reference {Holds : FileTree → Prop} (contracts : ContractSet) :
    Keeps Holds (fun _ => True)
      (fun reference => ∃ later, Holds later ∧ reference = later.reference root contracts)
      (disk.reference root contracts) := by
  intro later holds
  rw [run_reference]
  refine ⟨holds, fun reference same => ⟨later, holds, ?_⟩, fun _ _ => trivial⟩
  cases same
  rfl

end FileTree

/--
Generation looks at the directories, and then changes at most what is below the output directory,
if the paths of the files stay below for each reference implementation that may be found meanwhile.
-/
theorem extends_of_generate {generator : Generator} {output referenceRoot : String}
    (below : ∀ top later, tree.resolve? output = some top → Extends top tree later →
      ∀ artifact, ∀ file ∈ (generator.batch
        (later.reference referenceRoot generator.dictionary.contracts) artifact).files,
          IsBelow file.path) :
    ((FileTree.disk.generate generator output referenceRoot).run tree).2 = tree ∨
      ∃ top, tree.resolve? output = some top ∧
        Extends top tree
          ((FileTree.disk.generate generator output referenceRoot).run tree).2 := by
  rw [run_generate tree.shows]
  obtain ⟨out, -, fault⟩ | ⟨-, condition, fault⟩ :=
    tree.sights.directoryFault?_cases output referenceRoot
  · rw [fault]
    obtain ⟨top, rooted, directory⟩ := FileTree.exists_resolve?_of_isDirectory out
    refine .inr ⟨top, rooted, ?_⟩
    have kept : Keeps (Extends top tree) (fun _ => True) (fun _ => True) (generator.runFrom
        (FileTree.disk.reference referenceRoot generator.dictionary.contracts)
        (FileTree.disk.sink output)) := by
      refine keeps_runFrom (FileTree.keeps_reference generator.dictionary.contracts)
        ⟨_, tree, .refl top tree, rfl⟩ ?_
      rintro reference ⟨later, extended, rfl⟩ artifact file member
      exact FileTree.keeps_write (below top later rooted extended artifact file member) rooted
        directory
    exact (kept tree (.refl top tree)).1
  · rw [fault]
    exact .inl rfl

end ContractDictionary
