import ContractDictionary.Proofs.Generation.Faults
import ContractDictionary.Proofs.Generation.Runs

/-!
# Languages agree

With the built-in templates, the files of a kind are generated for the same subjects in every
language and with the same warnings, and the failures are the same but for the language that
they name.
-/

namespace ContractDictionary

/-- The error with the language that it names, if any, replaced by another one. -/
def GenerationError.inLanguage (language : Language) : GenerationError → GenerationError
  | .unsupportedType _ termId scalar => .unsupportedType language termId scalar
  | error => error

def GenerationFailure.inLanguage (language : Language) (failure : GenerationFailure) :
    GenerationFailure :=
  { failure with error := failure.error.inLanguage language }

theorem Term.fault?_inLanguage (language other : Language) (term : Term) :
    (term.fault? language).map (·.inLanguage other) = term.fault? other := by
  unfold Term.fault?
  by_cases mapping : term.LacksMapping
  · rw [if_pos mapping, if_pos mapping]
    rfl
  · rw [if_neg mapping, if_neg mapping]
    split <;> rfl

theorem State.fault?_inLanguage (language other : Language) (state : State) :
    (state.fault? language).map (·.inLanguage other) = state.fault? other := by
  unfold State.fault?
  split <;> rfl

theorem Subject.fault?_inLanguage (language other : Language) (dictionary : Dictionary)
    (artifact : Artifact) (subject : Subject) :
    (subject.fault? language dictionary artifact).map (·.inLanguage other) =
      subject.fault? other dictionary artifact := by
  unfold Subject.fault?
  split
  · rw [List.map_findSome?]
    simp only [Function.comp_def, Term.fault?_inLanguage]
  · rw [List.map_findSome?]
    simp only [Function.comp_def, State.fault?_inLanguage]
  · rfl

theorem warning_of_memberDefault {term : Term} {language other : Language} {token : String}
    {literal literal' : Literal} (given : term.memberDefault language token = .ok literal)
    (given' : term.memberDefault other token = .ok literal') :
    literal.warning = literal'.warning :=
  Option.ext fun _ =>
    (warning_of_memberDefault_iff given).trans (warning_of_memberDefault_iff given').symm

/-- Why a literal is not that of the declared default does not depend on the language. -/
theorem warning_of_literal {term : Term} {language other : Language} {literal literal' : Literal}
    (given : term.literal language = .ok literal) (given' : term.literal other = .ok literal') :
    literal.warning = literal'.warning := by
  unfold Term.literal at given given'
  by_cases array : term.isArray = true
  · rw [if_pos array] at given given'
    cases given
    cases given'
    rfl
  rw [if_neg array] at given given'
  cases effective : term.effectiveDefault? with
  | none =>
      rw [effective] at given given'
      cases given
      cases given'
      rfl
  | some default =>
      rw [effective] at given given'
      dsimp only at given given'
      cases scalar : term.scalarType with
      | enumeration =>
          rw [scalar] at given given'
          cases default with
          | acronym token | text token => exact warning_of_memberDefault given given'
          | real value => cases given
      | real =>
          rw [scalar] at given given'
          cases default <;> rw [← Except.ok.inj given, ← Except.ok.inj given']
      | varchar =>
          rw [scalar] at given given'
          cases default with
          | acronym token | text token => rw [← Except.ok.inj given, ← Except.ok.inj given']
          | real value => cases given
      | unknown | contractReference | cycle | period | timestamp =>
          rw [scalar] at given
          cases default <;> cases given

theorem warning_of_view {term : Term} {language other : Language} {view view' : TermView}
    (viewed : term.view language = .ok view) (viewed' : term.view other = .ok view') :
    view.warning = view'.warning := by
  simp only [Term.view, bind_eq_ok, pure_eq_ok] at viewed viewed'
  obtain ⟨-, -, literal, given, rfl⟩ := viewed
  obtain ⟨-, -, literal', given', rfl⟩ := viewed'
  exact warning_of_literal given given'

theorem warnings_of_views {terms : List Term} {language other : Language}
    {views views' : List TermView} (viewed : terms.mapM (·.view language) = .ok views)
    (viewed' : terms.mapM (·.view other) = .ok views') :
    views.map (·.warning) = views'.map (·.warning) := by
  induction mapM_eq_ok.1 viewed generalizing views' with
  | nil =>
      cases mapM_eq_ok.1 viewed'
      rfl
  | cons first later ih =>
      obtain _ | ⟨first', later'⟩ := mapM_eq_ok.1 viewed'
      rw [List.map_cons, List.map_cons, warning_of_view first first',
        ih (mapM_eq_ok.2 later) (mapM_eq_ok.2 later')]

/-- There are warnings about the terms of contracts only. -/
theorem warnings_eq_nil {language : Language} {artifact : Artifact} {dictionary : Dictionary}
    {subject : Subject} {functions : List FunctionStub} {context : Context}
    (given : Context.of language artifact dictionary subject functions = .ok context)
    (other : artifact ≠ .termSet) : context.warnings = [] := by
  simp only [Context.of, bind_eq_ok, pure_eq_ok] at given
  obtain ⟨body, hbody, rfl⟩ := given
  unfold ContextBody.of at hbody
  split at hbody
  case h_5 =>
    obtain ⟨views, -, rfl⟩ := map_eq_ok.1 hbody
    rfl
  case h_6 => exact absurd rfl other
  all_goals
    cases hbody
    try rfl

/-- The warnings about a subject do not depend on the language. -/
theorem warnings_of_context {language other : Language} {artifact : Artifact}
    {dictionary : Dictionary} {subject : Subject} {functions functions' : List FunctionStub}
    {context context' : Context}
    (given : Context.of language artifact dictionary subject functions = .ok context)
    (given' : Context.of other artifact dictionary subject functions' = .ok context') :
    context.warnings = context'.warnings := by
  by_cases terms : artifact = .termSet
  · subst terms
    simp only [Context.of, bind_eq_ok, pure_eq_ok] at given given'
    obtain ⟨body, hbody, rfl⟩ := given
    obtain ⟨body', hbody', rfl⟩ := given'
    cases subject with
    | contract contract =>
        obtain ⟨views, viewed, rfl⟩ := map_eq_ok.1 hbody
        obtain ⟨views', viewed', rfl⟩ := map_eq_ok.1 hbody'
        have same := congrArg (List.filterMap id) (warnings_of_views viewed viewed')
        rw [List.filterMap_map, List.filterMap_map] at same
        exact same
    | _ => cases hbody
  · rw [warnings_eq_nil given terms, warnings_eq_nil given' terms]

/--
The other batch has files about the same subjects and with the same warnings, and the same
failures but for the language that they name.
-/
structure Batch.Mirrors (batch other : Batch) (language : Language) : Prop where
  artifact : other.artifact = batch.artifact
  subjects : other.files.map (·.subject) = batch.files.map (·.subject)
  fileWarnings : other.files.map (·.warnings) = batch.files.map (·.warnings)
  failures : other.failures = batch.failures.map (·.inLanguage language)

theorem Batch.Mirrors.warnings {batch other : Batch} {language : Language}
    (mirrors : batch.Mirrors other language) : other.warnings = batch.warnings := by
  have same := congrArg List.flatten mirrors.fileWarnings
  rw [← List.flatMap_def, ← List.flatMap_def] at same
  exact same

variable {dictionary : Dictionary} {languages languages' : List Language}
  {language other : Language}

/-- The warnings about a subject, if there is a file about it, are the same in all languages. -/
theorem warnings_of_fileAbout (resolved : dictionary.IsResolved) (listed : language ∈ languages)
    (listed' : other ∈ languages') {reference : Reference} {artifact : Artifact}
    {subject : Subject}
    (member : subject ∈
      Generator.subjects ⟨language, dictionary, .builtin languages⟩ reference artifact) :
    (Generator.fileAbout ⟨other, dictionary, .builtin languages'⟩ reference artifact
      subject).toOption.map (·.warnings) =
    (Generator.fileAbout ⟨language, dictionary, .builtin languages⟩ reference artifact
      subject).toOption.map (·.warnings) := by
  have fault := faultOf_fileAbout_builtin resolved listed member
  have fault' := faultOf_fileAbout_builtin resolved listed' member
  rw [← Subject.fault?_inLanguage language other, ← fault] at fault'
  cases generated : Generator.fileAbout ⟨language, dictionary, .builtin languages⟩ reference
      artifact subject with
  | ok file =>
      rw [generated] at fault'
      obtain ⟨file', generated'⟩ := faultOf_eq_none.1 fault'
      obtain ⟨_, context, _, -, given, -, rfl⟩ := fileAbout_eq_ok.1 generated
      obtain ⟨_, context', _, -, given', -, rfl⟩ := fileAbout_eq_ok.1 generated'
      rw [generated']
      exact congrArg some (warnings_of_context given' given)
  | error error =>
      cases generated' : Generator.fileAbout ⟨other, dictionary, .builtin languages'⟩ reference
          artifact subject with
      | ok file' =>
          rw [generated, generated'] at fault'
          cases fault'
      | error error' => rfl

theorem accounts_builtin (resolved : dictionary.IsResolved) (listed : language ∈ languages)
    (reference : Reference) (artifact : Artifact) :
    (Generator.batch ⟨language, dictionary, .builtin languages⟩ reference artifact).Accounts
      artifact (Generator.subjects ⟨language, dictionary, .builtin languages⟩ reference artifact)
      (Subject.fault? language dictionary artifact) :=
  accounts_batch fun _ member => faultOf_fileAbout_builtin resolved listed member

/-- With built-in templates the batches of a kind mirror each other, whatever the language. -/
theorem mirrors_batch (resolved : dictionary.IsResolved) (listed : language ∈ languages)
    (listed' : other ∈ languages') (reference : Reference) (artifact : Artifact) :
    (Generator.batch ⟨language, dictionary, .builtin languages⟩ reference artifact).Mirrors
      (Generator.batch ⟨other, dictionary, .builtin languages'⟩ reference artifact) other := by
  have accounts := accounts_builtin resolved listed reference artifact
  have accounts' := accounts_builtin resolved listed' reference artifact
  constructor
  case artifact => rw [accounts'.kind, accounts.kind]
  case subjects =>
    rw [accounts'.files, accounts.files]
    refine List.filter_congr fun subject _ => ?_
    rw [← Subject.fault?_inLanguage language other, Option.isNone_map]
  case failures =>
    rw [accounts'.failures, accounts.failures, List.map_filterMap]
    refine List.filterMap_congr fun subject _ => ?_
    rw [← Subject.fault?_inLanguage language other, Option.map_map, Option.map_map]
    rfl
  case fileWarnings =>
    rw [files_batch, files_batch, List.map_filterMap, List.map_filterMap]
    exact List.filterMap_congr fun subject member =>
      warnings_of_fileAbout resolved listed listed' member

theorem exists_run_writtenFiles (generator : Generator) (reference : Reference)
    (before : WrittenFiles) :
    ∃ after, (generator.run reference WrittenFiles.sink).run before =
      (.ok (Report.ofBatches (generator.batches reference)), after) := by
  refine ⟨before.insertAll (plannedFiles (generator.batches reference)), ?_⟩
  rw [generator.run_eq, WrittenFiles.run_writeAll_eq]
  rfl

/-- Reports on a dictionary have the same warnings in all languages. -/
theorem warnings_ofBatches (resolved : dictionary.IsResolved) (listed : language ∈ languages)
    (listed' : other ∈ languages') (reference : Reference) :
    (Report.ofBatches
      (Generator.batches ⟨other, dictionary, .builtin languages'⟩ reference)).warnings =
    (Report.ofBatches
      (Generator.batches ⟨language, dictionary, .builtin languages⟩ reference)).warnings := by
  have same : (Generator.batches ⟨other, dictionary, .builtin languages'⟩ reference).flatMap
      Batch.warnings =
      (Generator.batches ⟨language, dictionary, .builtin languages⟩ reference).flatMap
        Batch.warnings := by
    rw [Generator.batches, Generator.batches, List.flatMap_map, List.flatMap_map]
    exact List.flatMap_congr fun artifact _ =>
      (mirrors_batch resolved listed listed' reference artifact).warnings
  exact congrArg Warning.summary same

/--
For every dictionary that compiles and every reference implementation, with the built-in
templates, two languages agree on what is generated: in every kind on the subjects of the files,
on the subjects that have none and why, and on the warnings, and in every run that ends with a
report, as one that keeps its files does, on the warnings of the report.
-/
theorem languages_agree_of_compile {document : Document} {dictionary : Dictionary}
    {warnings : List Warning} (compiled : document.compile = .ok ⟨dictionary, warnings⟩)
    {languages languages' : List Language} {language other : Language}
    (listed : language ∈ languages) (listed' : other ∈ languages') (reference : Reference) :
    let generator : Generator := ⟨language, dictionary, .builtin languages⟩
    let translated : Generator := ⟨other, dictionary, .builtin languages'⟩
    (∀ artifact, ∃ batch batch',
      generator.batch? (some reference) artifact = .ok batch ∧
      translated.batch? (some reference) artifact = .ok batch' ∧
      batch'.files.map (·.subject) = batch.files.map (·.subject) ∧
      batch'.failures = batch.failures.map (·.inLanguage other) ∧
      batch'.warnings = batch.warnings) ∧
    (∃ report report' files files',
      (generator.run reference WrittenFiles.sink).run .empty = (.ok report, files) ∧
      (translated.run reference WrittenFiles.sink).run .empty = (.ok report', files') ∧
      report'.warnings = report.warnings) ∧
    ∀ {σ σ' : Type} {sink : Sink (StateM σ)} {sink' : Sink (StateM σ')}
      {before after : σ} {before' after' : σ'} {report report' : Report},
      (generator.run reference sink).run before = (.ok report, after) →
      (translated.run reference sink').run before' = (.ok report', after') →
      report'.warnings = report.warnings := by
  intro generator translated
  obtain ⟨normal, -, built, -⟩ := compile_eq_ok_iff.1 compiled
  have resolved := isResolved_of_buildsTo built
  have reports := warnings_ofBatches resolved listed listed' reference
  refine ⟨fun artifact => ?_, ?_, ?_⟩
  · have mirrors := mirrors_batch resolved listed listed' reference artifact
    exact ⟨_, _, batch?_eq_ok generator reference artifact,
      batch?_eq_ok translated reference artifact, mirrors.subjects, mirrors.failures,
      mirrors.warnings⟩
  · obtain ⟨files, ended⟩ := exists_run_writtenFiles generator reference .empty
    obtain ⟨files', ended'⟩ := exists_run_writtenFiles translated reference .empty
    exact ⟨_, _, files, files', ended, ended', reports⟩
  · intro σ σ' sink sink' before after before' after' report report' ended ended'
    rw [report_of_run ended, report_of_run ended']
    exact reports

theorem languages_agree_on_unmappedTerms :
    ∃ dictionary warnings, unmappedTerms.compile = .ok ⟨dictionary, warnings⟩ ∧
      ∀ artifact, ∃ batch batch',
        Generator.batch? ⟨.rust, dictionary, .builtin Language.all⟩ (some ⟨[]⟩) artifact =
          .ok batch ∧
        Generator.batch? ⟨.python, dictionary, .builtin [.python]⟩ (some ⟨[]⟩) artifact =
          .ok batch' ∧
        batch'.files.map (·.subject) = batch.files.map (·.subject) ∧
        batch'.failures = batch.failures.map (·.inLanguage .python) ∧
        batch'.warnings = batch.warnings := by
  obtain ⟨⟨dictionary, warnings⟩, compiled⟩ :=
    faultOf_eq_none.1 (show faultOf unmappedTerms.compile = none by decide +kernel)
  have rust : Language.rust ∈ Language.all := by decide
  have python : Language.python ∈ [Language.python] := by decide
  exact ⟨dictionary, warnings, compiled,
    (languages_agree_of_compile compiled rust python ⟨[]⟩).1⟩

end ContractDictionary
