import ContractDictionary.Proofs.Generation.Batches

/-!
# Runs of the generator

A run goes through the kinds of files and writes the files of each of them.  If the reference
implementation can always be read, it ends with the report on its batches if all of the files are
written, and else with the error of the first one that is not.  Files that are kept in memory are
kept by their paths, so a run keeps all of its files if no two of them have one path.
-/

namespace ContractDictionary

variable {m : Type → Type} [Monad m]

theorem writeAll_nil (sink : Sink m) : ExceptT.mk (sink.writeAll []) = pure () :=
  rfl

theorem writeAll_cons (sink : Sink m) (file : GeneratedFile) (rest : List GeneratedFile) :
    ExceptT.mk (sink.writeAll (file :: rest)) = (do
      ExceptT.mk (sink.write file.path file.content)
      ExceptT.mk (sink.writeAll rest)) := by
  refine congrArg (sink.write file.path file.content >>= ·) (funext fun outcome => ?_)
  cases outcome <;> rfl

theorem writeAll_append [LawfulMonad m] (sink : Sink m) (files others : List GeneratedFile) :
    ExceptT.mk (sink.writeAll (files ++ others)) = (do
      ExceptT.mk (sink.writeAll files)
      ExceptT.mk (sink.writeAll others)) := by
  induction files with
  | nil => rw [List.nil_append, writeAll_nil, pure_bind]
  | cons file rest ih => rw [List.cons_append, writeAll_cons, writeAll_cons, ih, bind_assoc]

section

variable {σ : Type} {Holds : σ → Prop} {Fault : GenerationError → Prop} {Good : Reference → Prop}
  {generator : Generator} {readReference : ExceptT GenerationError (StateM σ) Reference}
  {sink : Sink (StateM σ)}

theorem keeps_writeAll {files : List GeneratedFile}
    (write : ∀ file ∈ files,
      Keeps Holds Fault (fun _ => True) (ExceptT.mk (sink.write file.path file.content))) :
    Keeps Holds Fault (fun _ => True) (ExceptT.mk (sink.writeAll files)) := by
  induction files with
  | nil =>
      rw [writeAll_nil]
      exact .pure trivial
  | cons file rest ih =>
      rw [writeAll_cons]
      exact (write file List.mem_cons_self).bind fun _ _ =>
        ih fun other later => write other (List.mem_cons_of_mem _ later)

/-- The files of a kind come from a reference implementation that is read for it, or from any. -/
theorem keeps_dispatch (read : Keeps Holds Fault Good readReference)
    (some : ∃ reference, Good reference) (artifact : Artifact) :
    Keeps Holds Fault (fun batch => ∃ reference, Good reference ∧
      batch = generator.batch reference artifact) (generator.dispatch readReference artifact) := by
  unfold Generator.dispatch
  split
  · exact read.bind fun reference good => .pure ⟨reference, good, rfl⟩
  · next free =>
      obtain ⟨reference, good⟩ := some
      exact .pure ⟨reference, good,
        batch_of_needsReference_eq_false generator ⟨[]⟩ reference (Bool.eq_false_iff.2 free)⟩

/-- A run keeps what reading the reference implementation and writing each file keep. -/
theorem keeps_runFrom (read : Keeps Holds Fault Good readReference)
    (some : ∃ reference, Good reference)
    (write : ∀ reference, Good reference → ∀ artifact,
      ∀ file ∈ (generator.batch reference artifact).files,
        Keeps Holds Fault (fun _ => True) (ExceptT.mk (sink.write file.path file.content))) :
    Keeps Holds Fault (fun _ => True) (generator.runFrom readReference sink) := by
  have kind (artifact : Artifact) : Keeps Holds Fault (fun _ => True)
      (generator.generateKind readReference sink artifact) := by
    refine (keeps_dispatch read some artifact).bind fun batch planned => ?_
    obtain ⟨reference, good, rfl⟩ := planned
    exact (keeps_writeAll (write reference good artifact)).bind fun _ _ => .pure trivial
  exact (Keeps.mapM fun artifact _ => kind artifact).bind fun _ _ => .pure trivial

end

/-- The files of some kinds are written one after the other. -/
theorem mapM_generateKind [LawfulMonad m] (generator : Generator) (reference : Reference)
    (sink : Sink m) (kinds : List Artifact) :
    kinds.mapM (generator.generateKind (pure reference) sink) = (do
      ExceptT.mk (sink.writeAll (plannedFiles (kinds.map (generator.batch reference))))
      return kinds.map (generator.batch reference)) := by
  have kind (artifact : Artifact) : generator.generateKind (pure reference) sink artifact = (do
      ExceptT.mk (sink.writeAll (generator.batch reference artifact).files)
      return generator.batch reference artifact) := by
    rw [Generator.generateKind, dispatch_pure, pure_bind]
  induction kinds with
  | nil => rw [List.map_nil, plannedFiles, List.flatMap_nil, writeAll_nil, pure_bind, List.mapM_nil]
  | cons artifact rest ih =>
      have planned : plannedFiles ((artifact :: rest).map (generator.batch reference)) =
          (generator.batch reference artifact).files ++
            plannedFiles (rest.map (generator.batch reference)) := rfl
      rw [List.mapM_cons, ih, kind, planned, writeAll_append]
      simp only [bind_assoc, pure_bind, List.map_cons]

/-- Kinds that need no reference implementation are written whatever comes of reading one. -/
theorem mapM_generateKind_of_needsReference_eq_false [LawfulMonad m] {generator : Generator}
    {kinds : List Artifact} (free : ∀ artifact ∈ kinds, artifact.needsReference = false)
    (readReference : ExceptT GenerationError m Reference) (sink : Sink m) :
    kinds.mapM (generator.generateKind readReference sink) = (do
      ExceptT.mk (sink.writeAll (plannedFiles (kinds.map (generator.batch ⟨[]⟩))))
      return kinds.map (generator.batch ⟨[]⟩)) := by
  rw [← mapM_generateKind]
  induction kinds with
  | nil => rfl
  | cons artifact rest ih =>
      have first : generator.generateKind readReference sink artifact =
          generator.generateKind (pure ⟨[]⟩) sink artifact := by
        rw [Generator.generateKind, Generator.generateKind, dispatch_pure, Generator.dispatch,
          if_neg (Bool.eq_false_iff.1 (free artifact List.mem_cons_self))]
      rw [List.mapM_cons, List.mapM_cons, first,
        ih fun other later => free other (List.mem_cons_of_mem _ later)]

/-- The kinds of files that come before the first one that needs a reference implementation. -/
def earlyKinds : List Artifact := [.enumeration, .enumerationIndex, .functionIndex]

/--
If the reference implementation cannot be read, a run ends for it only after the files of the
early kinds have been written.
-/
theorem runFrom_throw [LawfulMonad m] (generator : Generator) (error : GenerationError)
    (sink : Sink m) :
    generator.runFrom (throw error) sink = (do
      ExceptT.mk (sink.writeAll (plannedFiles (earlyKinds.map (generator.batch ⟨[]⟩))))
      throw error) := by
  have thrown {α β : Type} (next : α → ExceptT GenerationError m β) :
      ((throw error : ExceptT GenerationError m α) >>= next) = throw error :=
    pure_bind (m := m) _ _
  have stopped : generator.generateKind (throw error) sink .payoffStub = throw error :=
    (congrArg (· >>= _) (thrown _)).trans (thrown _)
  have kinds : Artifact.all = earlyKinds ++ .payoffStub :: Artifact.all.drop 4 := rfl
  rw [Generator.runFrom, kinds, List.mapM_append,
    mapM_generateKind_of_needsReference_eq_false (by decide), List.mapM_cons, stopped]
  simp only [bind_assoc, thrown, pure_bind]

/-- A run ends as the writing of its files does, with the report on its batches. -/
theorem Generator.run_eq {σ : Type} (generator : Generator) (reference : Reference)
    (sink : Sink (StateM σ)) (state : σ) :
    (generator.run reference sink).run state =
      (((sink.writeAll (plannedFiles (generator.batches reference))).run state).1.map
          fun _ => Report.ofBatches (generator.batches reference),
        ((sink.writeAll (plannedFiles (generator.batches reference))).run state).2) := by
  rw [Generator.run, Generator.runFrom, mapM_generateKind, ← Generator.batches]
  simp only [bind_assoc, pure_bind, ExceptT.run_bind, ExceptT.run_mk, StateT.run_bind]
  rcases (sink.writeAll (plannedFiles (generator.batches reference))).run state with
    ⟨outcome, after⟩
  cases outcome <;> rfl

theorem report_of_run {σ : Type} {generator : Generator} {reference : Reference}
    {sink : Sink (StateM σ)} {report : Report} {before after : σ}
    (ended : (generator.run reference sink).run before = (.ok report, after)) :
    report = Report.ofBatches (generator.batches reference) := by
  rw [generator.run_eq, Prod.mk.injEq] at ended
  obtain ⟨_, -, same⟩ := map_eq_ok.1 ended.1
  exact same.symm

/-- The paths of the files differ, however they are written. -/
def PathsDiffer (files : List GeneratedFile) : Prop :=
  (files.map fun file => Path.parts file.path).Nodup

namespace WrittenFiles

/-- The files with some more that are put among them one after the other. -/
def insertAll (kept : WrittenFiles) (files : List GeneratedFile) : WrittenFiles :=
  files.foldl (fun kept file => kept.insert file.path file.content) kept

/-- Every file can be kept. -/
theorem run_writeAll_eq (files : List GeneratedFile) (kept : WrittenFiles) :
    (WrittenFiles.sink.writeAll files).run kept = (.ok (), kept.insertAll files) := by
  induction files generalizing kept with
  | nil => rfl
  | cons file rest ih => exact ih (kept.insert file.path file.content)

/-! ### What is kept last -/

theorem get?_insert (kept : WrittenFiles) (path content other : String) :
    (kept.insert path content).get? other =
      if Path.parts path = Path.parts other then some content else kept.get? other := by
  obtain ⟨entries⟩ := kept
  unfold insert get?
  dsimp only
  induction entries with
  | nil =>
      rw [insertEntry, List.find?_cons, List.find?_nil]
      split <;> simp_all
  | cons entry rest ih =>
      rw [insertEntry]
      split
      · next same =>
          rw [List.find?_cons, List.find?_cons, same]
          split <;> simp_all
      · next apart =>
          rw [List.find?_cons, List.find?_cons]
          by_cases first : Path.parts entry.1 = Path.parts other
          · have behind : Path.parts path ≠ Path.parts other := fun same =>
              apart (first.trans same.symm)
            rw [decide_eq_true first, if_neg behind]
          · rw [decide_eq_false first]
            exact ih

/-- The last of some files whose path is the given one, however it is written. -/
def lastAt? (files : List GeneratedFile) (path : String) : Option GeneratedFile :=
  (files.filter fun file => Path.parts file.path = Path.parts path).getLast?

/-- What is kept at a path is what was last written to it. -/
theorem get?_insertAll (kept : WrittenFiles) (files : List GeneratedFile) (path : String) :
    (kept.insertAll files).get? path =
      match lastAt? files path with
      | some file => some file.content
      | none => kept.get? path := by
  induction files generalizing kept with
  | nil => rfl
  | cons file rest ih =>
      rw [insertAll, List.foldl_cons]
      show ((kept.insert file.path file.content).insertAll rest).get? path = _
      rw [ih, get?_insert]
      unfold lastAt?
      by_cases same : Path.parts file.path = Path.parts path
      · rw [List.filter_cons_of_pos (by simpa using same), List.getLast?_cons]
        cases (rest.filter fun file => Path.parts file.path = Path.parts path).getLast? with
        | none => simp [same]
        | some later => rfl
      · rw [List.filter_cons_of_neg (by simpa using same), if_neg same]

/-- No path is kept twice, however it is written. -/
def IsApart (kept : WrittenFiles) : Prop :=
  (kept.entries.map fun entry => Path.parts entry.1).Nodup

theorem map_parts_insertEntry (path content : String) (entries : List (String × String)) :
    (insertEntry path content entries).map (fun entry => Path.parts entry.1) =
      if Path.parts path ∈ entries.map (fun entry => Path.parts entry.1) then
        entries.map fun entry => Path.parts entry.1
      else
        entries.map (fun entry => Path.parts entry.1) ++ [Path.parts path] := by
  induction entries with
  | nil => rfl
  | cons entry rest ih =>
      rw [insertEntry]
      split
      · next same => simp [same]
      · next apart =>
          rw [List.map_cons, ih, List.map_cons]
          by_cases later : Path.parts path ∈ rest.map fun entry => Path.parts entry.1
          · rw [if_pos later, if_pos (List.mem_cons_of_mem _ later)]
          · have absent : Path.parts path ∉
                Path.parts entry.1 :: rest.map fun entry => Path.parts entry.1 := by
              rw [List.mem_cons, not_or]
              exact ⟨Ne.symm apart, later⟩
            rw [if_neg later, if_neg absent]
            rfl

theorem IsApart.insert {kept : WrittenFiles} (apart : kept.IsApart) (path content : String) :
    (kept.insert path content).IsApart := by
  unfold IsApart WrittenFiles.insert
  dsimp only
  rw [map_parts_insertEntry]
  split
  · exact apart
  · next absent =>
      rw [List.nodup_append]
      refine ⟨apart, List.pairwise_singleton _ _, ?_⟩
      rintro first listed second last rfl
      exact absent (List.mem_singleton.1 last ▸ listed)

theorem IsApart.insertAll {kept : WrittenFiles} (apart : kept.IsApart)
    (files : List GeneratedFile) : (kept.insertAll files).IsApart := by
  induction files generalizing kept with
  | nil => exact apart
  | cons file rest ih => exact ih (apart.insert file.path file.content)

/-! ### Paths that differ -/

/-- A file whose path no other one has is the last one with its path. -/
theorem lastAt?_of_mem {files : List GeneratedFile} (differ : PathsDiffer files)
    {file : GeneratedFile} (member : file ∈ files) : lastAt? files file.path = some file := by
  unfold lastAt?
  induction files with
  | nil => cases member
  | cons first rest ih =>
      obtain ⟨head, tail⟩ := List.nodup_cons.1 differ
      rcases List.mem_cons.1 member with rfl | later
      · have none :
            (rest.filter fun other => Path.parts other.path = Path.parts file.path) = [] := by
          rw [List.filter_eq_nil_iff]
          intro other listed same
          exact head (List.mem_map.2 ⟨other, listed, of_decide_eq_true same⟩)
        rw [List.filter_cons_of_pos (by simp), none]
        rfl
      · have apart : Path.parts first.path ≠ Path.parts file.path := fun same =>
          head (List.mem_map.2 ⟨file, later, same.symm⟩)
        rw [List.filter_cons_of_neg (by simpa using apart)]
        exact ih tail later

end WrittenFiles

/-- A run whose files have paths of their own keeps each of them. -/
theorem run_keeps_files {generator : Generator} {reference : Reference}
    (differ : PathsDiffer (plannedFiles (generator.batches reference))) :
    ∃ files, (generator.run reference WrittenFiles.sink).run .empty =
        (.ok (Report.ofBatches (generator.batches reference)), files) ∧
      ∀ file ∈ plannedFiles (generator.batches reference),
        files.get? file.path = some file.content := by
  refine ⟨WrittenFiles.empty.insertAll (plannedFiles (generator.batches reference)), ?_, ?_⟩
  · rw [generator.run_eq, WrittenFiles.run_writeAll_eq]
    rfl
  · intro file member
    rw [WrittenFiles.get?_insertAll, WrittenFiles.lastAt?_of_mem differ member]

end ContractDictionary
