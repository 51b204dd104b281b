import ContractDictionary.Proofs.Compile.Contracts
import ContractDictionary.Proofs.Generation.Runs

/-!
# The writes of a run

The files that a run writes are those that its kinds plan, in order and up to the first one that
cannot be written.  A file is planned, or its failure reported, for each subject by itself alone.
-/

namespace ContractDictionary

variable {σ : Type}

structure WriteCall where
  path : String
  content : String
  outcome : Except GenerationError Unit

def WriteCall.entry (call : WriteCall) : String × String :=
  (call.path, call.content)

def GeneratedFile.entry (file : GeneratedFile) : String × String :=
  (file.path, file.content)

/-- The sink with a record of its calls, the last one at the end. -/
def Sink.recorded (sink : Sink (StateM σ)) : Sink (StateM (σ × List WriteCall)) where
  write path content := do
    let (state, calls) ← get
    let (outcome, after) := (sink.write path content).run state
    set (after, calls ++ [⟨path, content, outcome⟩])
    return outcome

/-- The calls by which files are written, and how the writing ends. -/
inductive WrittenBy : List GeneratedFile → List WriteCall → Except GenerationError Unit → Prop
  | nil : WrittenBy [] [] (.ok ())
  | failed {file : GeneratedFile} {rest : List GeneratedFile} (error : GenerationError) :
      WrittenBy (file :: rest) [⟨file.path, file.content, .error error⟩] (.error error)
  | written {file : GeneratedFile} {rest : List GeneratedFile} {calls : List WriteCall}
      {outcome : Except GenerationError Unit} (others : WrittenBy rest calls outcome) :
      WrittenBy (file :: rest) (⟨file.path, file.content, .ok ()⟩ :: calls) outcome

theorem Sink.run_recorded_write (sink : Sink (StateM σ)) (path content : String) (state : σ)
    (calls : List WriteCall) :
    (sink.recorded.write path content).run (state, calls) =
      (((sink.write path content).run state).1, ((sink.write path content).run state).2,
        calls ++ [⟨path, content, ((sink.write path content).run state).1⟩]) :=
  rfl

/-- Files are written by calls in their order, up to the first one that fails. -/
theorem Sink.exists_writtenBy (sink : Sink (StateM σ)) (files : List GeneratedFile) (state : σ)
    (earlier : List WriteCall) :
    ∃ calls, WrittenBy files calls ((sink.writeAll files).run state).1 ∧
      (sink.recorded.writeAll files).run (state, earlier) =
        (((sink.writeAll files).run state).1, ((sink.writeAll files).run state).2,
          earlier ++ calls) := by
  induction files generalizing state earlier with
  | nil => exact ⟨[], .nil, by rw [List.append_nil]; rfl⟩
  | cons file rest ih =>
      rw [Sink.writeAll, Sink.writeAll, StateT.run_bind, StateT.run_bind,
        sink.run_recorded_write]
      rcases (sink.write file.path file.content).run state with ⟨outcome, after⟩
      cases outcome with
      | error error => exact ⟨_, .failed error, rfl⟩
      | ok _ =>
          obtain ⟨calls, others, recorded⟩ :=
            ih after (earlier ++ [⟨file.path, file.content, .ok ()⟩])
          refine ⟨⟨file.path, file.content, .ok ()⟩ :: calls, .written others, ?_⟩
          rw [List.append_assoc] at recorded
          exact recorded

variable {files : List GeneratedFile} {calls : List WriteCall}
  {outcome : Except GenerationError Unit}

theorem WrittenBy.isPrefix (written : WrittenBy files calls outcome) :
    calls.map WriteCall.entry <+: files.map GeneratedFile.entry := by
  induction written with
  | nil => exact List.prefix_rfl
  | failed error => exact ⟨_, rfl⟩
  | written others ih => exact List.cons_prefix_cons.2 ⟨rfl, ih⟩

/-- If every call succeeds, all files are written. -/
theorem WrittenBy.all_of_forall_ok (written : WrittenBy files calls outcome)
    (succeeded : ∀ call ∈ calls, call.outcome = .ok ()) :
    calls.map WriteCall.entry = files.map GeneratedFile.entry ∧ outcome = .ok () := by
  induction written with
  | nil => exact ⟨rfl, rfl⟩
  | failed error => cases succeeded _ List.mem_cons_self
  | written others ih =>
      obtain ⟨same, ended⟩ := ih fun call later => succeeded call (List.mem_cons_of_mem _ later)
      exact ⟨congrArg (_ :: ·) same, ended⟩

theorem WrittenBy.last_of_error (written : WrittenBy files calls outcome) {call : WriteCall}
    (called : call ∈ calls) {error : GenerationError} (failed : call.outcome = .error error) :
    outcome = .error error ∧
      ∃ before, calls = before ++ [call] ∧ ∀ other ∈ before, other.outcome = .ok () := by
  induction written with
  | nil => cases called
  | failed own =>
      cases List.mem_singleton.1 called
      cases failed
      exact ⟨rfl, [], rfl, List.forall_mem_nil _⟩
  | written others ih =>
      rcases List.mem_cons.1 called with rfl | later
      · cases failed
      · obtain ⟨ended, before, rfl, succeeded⟩ := ih later
        exact ⟨ended, _ :: before, rfl, List.forall_mem_cons.2 ⟨rfl, succeeded⟩⟩

/-- What is generated about some subjects of a kind, as if there were no others. -/
def Generator.batchAbout (generator : Generator) (reference : Reference) (artifact : Artifact)
    (subjects : List Subject) : Batch :=
  generator.filesAbout artifact (generator.functions reference artifact) subjects

/-- The subject has one file and no failure, or no file and one failure. -/
def Batch.IsOutcomeOf (batch : Batch) (artifact : Artifact) (subject : Subject) : Prop :=
  (∃ file, batch.files = [file] ∧ batch.failures = [] ∧ file.subject = subject) ∨
    ∃ error, batch.files = [] ∧ batch.failures = [⟨artifact, subject.describe, error⟩]

theorem isOutcomeOf_batchAbout (generator : Generator) (reference : Reference)
    (artifact : Artifact) (subject : Subject) :
    (generator.batchAbout reference artifact [subject]).IsOutcomeOf artifact subject := by
  unfold Generator.batchAbout Generator.filesAbout
  cases generated : generator.file artifact (generator.functions reference artifact) subject with
  | ok file => exact .inl ⟨file, rfl, rfl, subject_of_fileAbout generated⟩
  | error error => exact .inr ⟨error, rfl, rfl⟩

/-- The files about some subjects are the files about each of them alone. -/
theorem files_batchAbout (generator : Generator) (reference : Reference) (artifact : Artifact)
    (subjects : List Subject) :
    (generator.batchAbout reference artifact subjects).files = subjects.flatMap fun subject =>
        (generator.batchAbout reference artifact [subject]).files := by
  unfold Generator.batchAbout
  simp only [files_filesAbout, List.filterMap_eq_flatMap_toList, List.flatMap_singleton]

/-- The failures about some subjects are the failures about each of them alone. -/
theorem failures_batchAbout (generator : Generator) (reference : Reference)
    (artifact : Artifact) (subjects : List Subject) :
    (generator.batchAbout reference artifact subjects).failures = subjects.flatMap fun subject =>
        (generator.batchAbout reference artifact [subject]).failures := by
  unfold Generator.batchAbout
  simp only [failures_filesAbout, List.filterMap_eq_flatMap_toList, List.flatMap_singleton]

/-- Of a list of subjects, each has a file or a failure. -/
theorem length_filesAbout (generator : Generator) (artifact : Artifact)
    (functions : List FunctionStub) (subjects : List Subject) :
    (generator.filesAbout artifact functions subjects).files.length +
      (generator.filesAbout artifact functions subjects).failures.length = subjects.length := by
  induction subjects with
  | nil => rfl
  | cons subject rest ih =>
      rw [Generator.filesAbout, List.length_cons, ← ih]
      cases generator.file artifact functions subject with
      | ok file => exact Nat.add_right_comm _ _ _
      | error error => rfl

/-- There is a file or a failure for every subject of every kind. -/
theorem length_plannedFiles_add_length_failures (generator : Generator) (reference : Reference) :
    (plannedFiles (generator.batches reference)).length +
        ((generator.batches reference).flatMap (·.failures)).length =
      (Artifact.all.flatMap (generator.subjects reference)).length := by
  unfold plannedFiles Generator.batches
  induction Artifact.all with
  | nil => rfl
  | cons artifact rest ih =>
      have counted : (generator.batch reference artifact).files.length +
          (generator.batch reference artifact).failures.length =
            (generator.subjects reference artifact).length :=
        length_filesAbout generator artifact _ _
      simp only [List.map_cons, List.flatMap_cons, List.length_append] at ih ⊢
      omega

/-- What is generated about a subject depends on no text but the one for its own data. -/
theorem batchAbout_congr {generator : Generator} {reference : Reference} {artifact : Artifact}
    {subject : Subject} {templates : TemplateCollection}
    (own : ∀ context, generator.context reference artifact subject = .ok context →
      templates.render generator.language artifact context.toJson =
        generator.templates.render generator.language artifact context.toJson) :
    { generator with templates }.batchAbout reference artifact [subject] =
      generator.batchAbout reference artifact [subject] := by
  have same : { generator with templates }.fileAbout reference artifact subject =
      generator.fileAbout reference artifact subject := by
    show ({ generator with templates } : Generator).file artifact
      (generator.functions reference artifact) subject = _
    rw [Generator.fileAbout, Generator.file, Generator.file]
    cases generator.language.location artifact subject with
    | error fault => rfl
    | ok path =>
        cases built : generator.context reference artifact subject with
        | error fault => rw [show Context.of _ _ _ _ _ = _ from built]; rfl
        | ok context =>
            rw [show Context.of _ _ _ _ _ = _ from built]
            simp only [bind, Except.bind, own context built]
  unfold Generator.batchAbout Generator.filesAbout
  rw [show Generator.file _ _ _ _ = _ from same]
  rfl

/-- The files that a run is to write, kind by kind. -/
def Generator.plan (generator : Generator) (reference : Reference) : List GeneratedFile :=
  Artifact.all.flatMap fun artifact =>
    (generator.batchAbout reference artifact (generator.subjects reference artifact)).files

theorem plannedFiles_batches (generator : Generator) (reference : Reference) :
    plannedFiles (generator.batches reference) = generator.plan reference :=
  List.flatMap_map _ _ _

/-- The report accounts for every subject: with a path that was written or with a failure. -/
structure Report.AccountsFor (report : Report) (generator : Generator) (reference : Reference) :
    Prop where
  written : report.written = (generator.plan reference).map (·.path)
  failures : report.failures = Artifact.all.flatMap fun artifact =>
    (generator.batchAbout reference artifact (generator.subjects reference artifact)).failures
  conserved : report.written.length + report.failures.length =
    (Artifact.all.flatMap (generator.subjects reference)).length

theorem accountsFor_ofBatches (generator : Generator) (reference : Reference) :
    (Report.ofBatches (generator.batches reference)).AccountsFor generator reference where
  written := congrArg _ (plannedFiles_batches generator reference)
  failures := List.flatMap_map _ _ _
  conserved := by
    rw [← length_plannedFiles_add_length_failures]
    exact congrArg (· + _) (List.length_map _)

/-- The calls of a run go through the plan and end with the first one that fails. -/
structure FollowsPlan (generator : Generator) (reference : Reference) (calls : List WriteCall)
    (result : Except GenerationError Report) : Prop where
  isPrefix : calls.map WriteCall.entry <+: (generator.plan reference).map GeneratedFile.entry
  completed : (∀ call ∈ calls, call.outcome = .ok ()) →
    calls.map WriteCall.entry = (generator.plan reference).map GeneratedFile.entry ∧
      ∃ report, result = .ok report ∧ report.AccountsFor generator reference
  stopped : ∀ call ∈ calls, ∀ error, call.outcome = .error error →
    result = .error error ∧
      ∃ before, calls = before ++ [call] ∧ ∀ other ∈ before, other.outcome = .ok ()

theorem WrittenBy.followsPlan {generator : Generator} {reference : Reference}
    {calls : List WriteCall} {outcome : Except GenerationError Unit}
    (written : WrittenBy (generator.plan reference) calls outcome) :
    FollowsPlan generator reference calls
      (outcome.map fun _ => Report.ofBatches (generator.batches reference)) where
  isPrefix := written.isPrefix
  completed succeeded := by
    obtain ⟨same, rfl⟩ := written.all_of_forall_ok succeeded
    exact ⟨same, _, rfl, accountsFor_ofBatches generator reference⟩
  stopped call called error failed := by
    obtain ⟨rfl, before⟩ := written.last_of_error called failed
    exact ⟨rfl, before⟩

theorem exists_followsPlan (generator : Generator) (reference : Reference)
    (sink : Sink (StateM σ)) (state : σ) :
    ∃ result after calls, (generator.run reference sink).run state = (result, after) ∧
      (generator.run reference sink.recorded).run (state, []) = (result, after, calls) ∧
        FollowsPlan generator reference calls result := by
  obtain ⟨calls, written, recorded⟩ := sink.exists_writtenBy (generator.plan reference) state []
  refine ⟨_, ((sink.writeAll (generator.plan reference)).run state).2, calls, ?_, ?_,
    written.followsPlan⟩
  · rw [generator.run_eq, plannedFiles_batches]
  · rw [generator.run_eq, plannedFiles_batches, recorded]
    rfl

/-- A run in memory keeps what is last in the plan for each path, and nothing else. -/
theorem exists_run_inMemory (generator : Generator) (reference : Reference) :
    ∃ report files, (generator.run reference WrittenFiles.sink).run .empty = (.ok report, files) ∧
      report.AccountsFor generator reference ∧ files.IsApart ∧
      ∀ path, files.get? path =
        (WrittenFiles.lastAt? (generator.plan reference) path).map (·.content) := by
  refine ⟨_, WrittenFiles.empty.insertAll (generator.plan reference), ?_,
    accountsFor_ofBatches generator reference, ?_, fun path => ?_⟩
  · rw [generator.run_eq, plannedFiles_batches, WrittenFiles.run_writeAll_eq]
    rfl
  · have none : WrittenFiles.empty.IsApart := List.nodup_nil
    exact none.insertAll _
  · rw [WrittenFiles.get?_insertAll]
    cases WrittenFiles.lastAt? (generator.plan reference) path <;> rfl

/--
Whatever the sink, the calls of a run are a beginning of the plan.  If all of them succeed they are
the whole plan, and the run ends with a report on every subject; one that fails is the last one and
ends the run with its error.  A run in memory keeps what is last in the plan for each path and
nothing else.  Whether there is a file about a subject, and which one, depends neither on the other
subjects nor on what their templates give.
-/
theorem run_follows_plan (generator : Generator) (reference : Reference)
    (sink : Sink (StateM σ)) (state : σ) :
    (∃ result after calls, (generator.run reference sink).run state = (result, after) ∧
      (generator.run reference sink.recorded).run (state, []) = (result, after, calls) ∧
        FollowsPlan generator reference calls result) ∧
    (∃ report files,
      (generator.run reference WrittenFiles.sink).run .empty = (.ok report, files) ∧
        report.AccountsFor generator reference ∧ files.IsApart ∧
        ∀ path, files.get? path =
          (WrittenFiles.lastAt? (generator.plan reference) path).map (·.content)) ∧
    ∀ (artifact : Artifact) (subjects : List Subject),
      ((generator.batchAbout reference artifact subjects).files = subjects.flatMap fun subject =>
        (generator.batchAbout reference artifact [subject]).files) ∧
      ((generator.batchAbout reference artifact subjects).failures = subjects.flatMap fun subject =>
        (generator.batchAbout reference artifact [subject]).failures) ∧
      ∀ subject ∈ subjects,
        (generator.batchAbout reference artifact [subject]).IsOutcomeOf artifact subject ∧
        ∀ templates : TemplateCollection,
          (∀ context, generator.context reference artifact subject = .ok context →
            templates.render generator.language artifact context.toJson =
              generator.templates.render generator.language artifact context.toJson) →
          { generator with templates }.batchAbout reference artifact [subject] =
            generator.batchAbout reference artifact [subject] := by
  refine ⟨exists_followsPlan generator reference sink state,
    exists_run_inMemory generator reference, fun artifact subjects =>
      ⟨files_batchAbout generator reference artifact subjects,
        failures_batchAbout generator reference artifact subjects, fun subject _ =>
          ⟨isOutcomeOf_batchAbout generator reference artifact subject, fun _ own =>
            batchAbout_congr own⟩⟩⟩

/-- Templates that give texts for the term sets of contracts and for their index alone. -/
def termSetTexts : TemplateCollection where
  registered _ := some fun artifact _ =>
    match artifact with
    | .termSet => some "first"
    | .termSetIndex => some "last"
    | _ => none

/-- The sink that takes one file and refuses all others. -/
def secondRefused : Sink (StateM Nat) where
  write path _ := do
    let written ← get
    set (written + 1)
    return if written = 0 then .ok () else .error (.inaccessible path)

/-- Two files share a path: the second one is refused, or it is kept in place of the first one. -/
theorem run_follows_plan_of_sharedPath :
    ∃ dictionary warnings,
      (Document.plain [] [.plain "MOD" "A"] []).compile = .ok ⟨dictionary, warnings⟩ ∧
      let generator : Generator := ⟨.rust, dictionary, termSetTexts⟩
      (∃ calls, (generator.run ⟨[]⟩ secondRefused.recorded).run (0, []) =
          (.error (.inaccessible "types/terms/mod.rs"), 2, calls) ∧
        calls.map WriteCall.entry <+:
          [("types/terms/mod.rs", "first"), ("types/terms/mod.rs", "last")]) ∧
      ∃ report files,
        (generator.run ⟨[]⟩ WrittenFiles.sink).run .empty = (.ok report, files) ∧
          report.written.length + report.failures.length = 14 ∧
          files.get? "types/terms/mod.rs" = some "last" ∧ files.get? "types/terms" = none := by
  obtain ⟨⟨dictionary, warnings⟩, compiled, held⟩ := exists_ok_of_any
    (show (Document.plain [] [.plain "MOD" "A"] []).compile.toOption.any (fun compilation =>
      let generator : Generator := ⟨.rust, compilation.dictionary, termSetTexts⟩
      let lastAt (path : String) :=
        (WrittenFiles.lastAt? (generator.plan ⟨[]⟩) path).map (·.content)
      decide ((generator.plan ⟨[]⟩).map GeneratedFile.entry =
          [("types/terms/mod.rs", "first"), ("types/terms/mod.rs", "last")] ∧
        faultOf ((generator.run ⟨[]⟩ secondRefused).run 0).1 =
          some (.inaccessible "types/terms/mod.rs") ∧
        ((generator.run ⟨[]⟩ secondRefused).run 0).2 = 2 ∧
        (Artifact.all.flatMap (generator.subjects ⟨[]⟩)).length = 14 ∧
        lastAt "types/terms/mod.rs" = some "last" ∧ lastAt "types/terms" = none)) = true
      by decide +kernel)
  obtain ⟨plan, refused, count, subjects, last, absent⟩ := of_decide_eq_true held
  obtain ⟨⟨result, after, calls, ended, recorded, follows⟩,
    ⟨report, files, kept, accounts, -, found⟩, -⟩ :=
      run_follows_plan ⟨.rust, dictionary, termSetTexts⟩ ⟨[]⟩ secondRefused 0
  refine ⟨dictionary, warnings, compiled, ⟨calls, ?_, plan ▸ follows.isPrefix⟩, report, files, kept,
    accounts.conserved.trans subjects, (found _).trans last, (found _).trans absent⟩
  rw [recorded]
  rw [ended] at refused count
  cases result with
  | ok _ => cases refused
  | error error =>
      cases refused
      cases count
      rfl

end ContractDictionary
