import ContractDictionary.Proofs.Compile.Contracts
import ContractDictionary.Proofs.Generation.Batches
import ContractDictionary.Proofs.Target.Literals
import ContractDictionary.Proofs.Template.Filling

/-!
# Files that cannot be generated

With the built-in templates, the files of all kinds but two are generated for every dictionary
that compiles.  The terms of a contract and the states have no file exactly if one of them has
no type or no literal in the target language, and the failure is that of the first such one.
-/

namespace ContractDictionary

namespace Term

/--
Target languages have no type for the term, or it has a default and they have no literals for
the values of its type.
-/
def LacksMapping (term : Term) : Prop :=
  term.scalarType = .unknown ∨
    term.isArray = false ∧ term.default.isSome ∧
      (term.scalarType = .timestamp ∨ term.scalarType = .contractReference)

def LacksMembers (term : Term) : Prop :=
  term.isArray = false ∧ term.scalarType = .enumeration ∧ term.default.isSome ∧ term.members = []

instance (term : Term) : Decidable term.LacksMapping :=
  inferInstanceAs (Decidable (_ ∨ _))

instance (term : Term) : Decidable term.LacksMembers :=
  decidable_of_iff (term.isArray = false ∧ term.scalarType = .enumeration ∧
      term.default.isSome ∧ term.members.isEmpty)
    (by rw [LacksMembers, List.isEmpty_iff])

/-- The error of the terms that a term of theirs gives rise to, if there is one. -/
def fault? (language : Language) (term : Term) : Option GenerationError :=
  if term.LacksMapping then some (.unsupportedType language term.identifier term.scalarType)
  else if term.LacksMembers then some (.emptyEnumeration term.identifier)
  else none

theorem isSome_fault?_iff {language : Language} {term : Term} :
    (term.fault? language).isSome ↔ term.LacksMapping ∨ term.LacksMembers := by
  unfold fault?
  by_cases mapping : term.LacksMapping
  · simp [mapping]
  · by_cases members : term.LacksMembers <;> simp [mapping, members]

/-- A term that has a type has no fault if its type is an array or it has no default. -/
theorem fault?_eq_none {language : Language} {term : Term} (known : term.scalarType ≠ .unknown)
    (free : term.isArray = true ∨ term.default = none) : term.fault? language = none := by
  have nothing : ¬ (term.isArray = false ∧ term.default.isSome) := by
    rintro ⟨scalar, given⟩
    rcases free with array | absent
    · rw [array] at scalar
      cases scalar
    · rw [absent] at given
      cases given
  have mapped : ¬ term.LacksMapping := by
    rintro (unknown | ⟨scalar, given, -⟩)
    · exact known unknown
    · exact nothing ⟨scalar, given⟩
  have populated : ¬ term.LacksMembers := by
    rintro ⟨scalar, -, given, -⟩
    exact nothing ⟨scalar, given⟩
  rw [fault?, if_neg mapped, if_neg populated]

/-- The default is what some text denotes for the type of the term. -/
def IsResolved (term : Term) : Prop :=
  ∃ text, term.default = Option.map (TermDefault.ofText term.scalarType) text

end Term

def State.fault? (language : Language) (state : State) : Option GenerationError :=
  if state.type.scalar = .unknown then
    some (.unsupportedType language state.identifier state.type.scalar)
  else none

theorem State.isSome_fault?_iff {language : Language} {state : State} :
    (state.fault? language).isSome ↔ state.type.scalar = .unknown := by
  unfold State.fault?
  by_cases unknown : state.type.scalar = .unknown <;> simp [unknown]

/-- The error of the file of a kind about a subject, if there is one. -/
def Subject.fault? (language : Language) (dictionary : Dictionary) (artifact : Artifact)
    (subject : Subject) : Option GenerationError :=
  match artifact, subject with
  | .termSet, .contract c => c.terms.toList.findSome? (Term.fault? language)
  | .stateSpace, .dictionary => dictionary.states.toList.findSome? (State.fault? language)
  | _, _ => none

theorem faultOf_typeReference (language : Language) (identifier : String) (type : DeclaredType) :
    faultOf (language.typeReference identifier type) =
      if type.scalar = .unknown then
        some (.unsupportedType language identifier type.scalar)
      else none := by
  unfold Language.typeReference
  cases type.scalar <;> rfl

theorem faultOf_stateView (language : Language) (state : State) :
    faultOf (state.view language) = state.fault? language := by
  have type := faultOf_typeReference language state.identifier state.type
  rw [State.view, faultOf_bind, State.fault?, ← type]
  cases language.typeReference state.identifier state.type <;> rfl

theorem faultOf_memberDefault (term : Term) (language : Language) (token : String) :
    faultOf (term.memberDefault language token) =
      if term.members = [] then some (.emptyEnumeration term.identifier) else none := by
  obtain ⟨none, given⟩ | ⟨member, found, given⟩ | ⟨first, front, -, given⟩ :=
    term.memberDefault_cases language token
  · rw [given, if_pos none]
    rfl
  · rw [given, if_neg (List.ne_nil_of_mem (List.mem_of_find?_eq_some found))]
    rfl
  · rw [given, if_neg (List.ne_nil_of_mem (List.mem_of_mem_head? front))]
    rfl

theorem faultOf_literal {term : Term} (resolved : term.IsResolved) (language : Language)
    (known : term.scalarType ≠ .unknown) :
    faultOf (term.literal language) = term.fault? language := by
  by_cases array : term.isArray = true
  · rw [Term.fault?_eq_none known (.inl array), Term.literal, if_pos array]
    rfl
  obtain ⟨text, given⟩ := resolved
  cases text with
  | none =>
      have absent : term.effectiveDefault? = none := by
        rw [Term.effectiveDefault?, given]
        exact ite_self _
      rw [Term.fault?_eq_none known (.inr given), Term.literal, if_neg array, absent]
      rfl
  | some text =>
      rw [Bool.not_eq_true] at array
      cases scalar : term.scalarType with
      | unknown => exact absurd scalar known
      | enumeration =>
          rw [scalar] at given
          simp [Term.literal, Term.effectiveDefault?, Term.admitsDefault, Term.fault?,
            Term.LacksMapping, Term.LacksMembers, TermDefault.ofText, array, given, scalar,
            faultOf_memberDefault]
      | contractReference | cycle | period | real | timestamp | varchar =>
          rw [scalar] at given
          simp [Term.literal, Term.effectiveDefault?, Term.admitsDefault, Term.fault?,
            Term.LacksMapping, Term.LacksMembers, TermDefault.ofText, array, given, scalar,
            faultOf]

theorem faultOf_termView {term : Term} (resolved : term.IsResolved) (language : Language) :
    faultOf (term.view language) = term.fault? language := by
  have type : faultOf (language.typeReference term.identifier term.type) =
      if term.scalarType = .unknown then
        some (.unsupportedType language term.identifier term.scalarType)
      else none := faultOf_typeReference language term.identifier term.type
  rw [Term.view, faultOf_bind]
  cases reference : language.typeReference term.identifier term.type with
  | ok typeReference =>
      have known : term.scalarType ≠ .unknown := by
        intro unknown
        rw [reference, if_pos unknown] at type
        cases type
      rw [← faultOf_literal resolved language known]
      dsimp only
      cases term.literal language <;> rfl
  | error error =>
      rw [reference] at type
      by_cases unknown : term.scalarType = .unknown
      · rw [Term.fault?, if_pos (.inl unknown)]
        rw [if_pos unknown] at type
        exact type
      · rw [if_neg unknown] at type
        cases type

theorem isResolved_of_compile {key : String} {record : TermRecord} {term : Term}
    (compiled : record.compile key = .ok term) : term.IsResolved := by
  simp only [TermRecord.compile, bind_eq_ok, pure_eq_ok] at compiled
  obtain ⟨type, -, values, -, rfl⟩ := compiled
  exact ⟨record.default, rfl⟩

/-- Every term of a contract has a default that its type admits, or none. -/
def Dictionary.IsResolved (dictionary : Dictionary) : Prop :=
  ∀ contract ∈ dictionary.contracts.toList, ∀ term ∈ contract.terms.toList, term.IsResolved

theorem isResolved_of_buildsTo {document : Document} {dictionary : Dictionary}
    (built : document.BuildsTo dictionary) : dictionary.IsResolved := by
  intro contract listed term member
  obtain ⟨terms, hterms, heq⟩ := built.terms
  have declared : term ∈ dictionary.terms.toList := mem_terms_of_buildsTo built listed member
  rw [heq, EntitySet.mem_ofList] at declared
  obtain ⟨entry, -, compiled⟩ := exists_of_mapM_eq_ok hterms declared
  exact isResolved_of_compile compiled

/-- The data for a file have the fault that is stated for its subject. -/
theorem faultOf_context {generator : Generator} (resolved : generator.dictionary.IsResolved)
    {reference : Reference} {artifact : Artifact} {subject : Subject}
    (member : subject ∈ generator.subjects reference artifact) :
    faultOf (generator.context reference artifact subject) =
      subject.fault? generator.language generator.dictionary artifact := by
  have body : faultOf (generator.context reference artifact subject) =
      faultOf (ContextBody.of generator.language artifact generator.dictionary subject
        ((generator.functions reference artifact).filter subject.owns)) := by
    rw [Generator.context, Context.of, faultOf_bind]
    cases ContextBody.of generator.language artifact generator.dictionary subject
      ((generator.functions reference artifact).filter subject.owns) <;> rfl
  rw [body]
  unfold Generator.subjects at member
  cases artifact with
  | enumeration =>
      obtain ⟨enumeration, -, rfl⟩ := List.mem_map.1 member
      rfl
  | enumerationIndex | functionIndex | termSetIndex =>
      rw [List.mem_singleton.1 member]
      rfl
  | stateSpace =>
      rw [List.mem_singleton.1 member]
      show faultOf (Except.map _ (StateSet.views _ _)) = _
      rw [faultOf_map, StateSet.views]
      exact faultOf_mapM fun state _ => faultOf_stateView generator.language state
  | termSet =>
      obtain ⟨contract, listed, rfl⟩ := List.mem_map.1 member
      show faultOf (Except.map _ (TermSet.views _ _)) = List.findSome? _ _
      rw [faultOf_map, TermSet.views]
      exact faultOf_mapM fun term declared =>
        faultOf_termView (resolved contract listed term declared) generator.language
  | algorithmIndex | scheduleStub | executeStepStub =>
      obtain ⟨contract, -, rfl⟩ := List.mem_map.1 member
      rfl
  | payoffStub | stateTransitionStub =>
      obtain ⟨stub, -, rfl⟩ := List.mem_map.1 member
      rfl

theorem faultOf_fileAbout_builtin {language : Language} {dictionary : Dictionary}
    (resolved : dictionary.IsResolved) {languages : List Language} (listed : language ∈ languages)
    {reference : Reference} {artifact : Artifact} {subject : Subject}
    (member : subject ∈
      Generator.subjects ⟨language, dictionary, .builtin languages⟩ reference artifact) :
    faultOf (Generator.fileAbout ⟨language, dictionary, .builtin languages⟩ reference artifact
      subject) = subject.fault? language dictionary artifact := by
  obtain ⟨path, located⟩ := exists_location? member
  rw [faultOf_fileAbout located fun context built => exists_render_builtin listed built]
  exact faultOf_context resolved member

theorem fault?_eq_some {language : Language} {dictionary : Dictionary} {artifact : Artifact}
    {subject : Subject} {error : GenerationError}
    (fault : subject.fault? language dictionary artifact = some error) :
    (artifact = .termSet ∨ artifact = .stateSpace) ∧
      ((∃ identifier scalar, error = .unsupportedType language identifier scalar) ∨
        ∃ identifier, error = .emptyEnumeration identifier) := by
  unfold Subject.fault? at fault
  split at fault
  · obtain ⟨term, -, found⟩ := List.exists_of_findSome?_eq_some fault
    refine ⟨.inl rfl, ?_⟩
    unfold Term.fault? at found
    split at found
    · cases found
      exact .inl ⟨_, _, rfl⟩
    · split at found
      · cases found
        exact .inr ⟨_, rfl⟩
      · cases found
  · obtain ⟨state, -, found⟩ := List.exists_of_findSome?_eq_some fault
    refine ⟨.inr rfl, .inl ?_⟩
    unfold State.fault? at found
    split at found
    · cases found
      exact ⟨_, _, rfl⟩
    · cases found
  · cases fault

def Dictionary.IsFaultless (dictionary : Dictionary) (language : Language) : Prop :=
  (∀ contract ∈ dictionary.contracts.toList, ∀ term ∈ contract.terms.toList,
      term.fault? language = none) ∧
    ∀ state ∈ dictionary.states.toList, state.fault? language = none

instance (dictionary : Dictionary) (language : Language) :
    Decidable (dictionary.IsFaultless language) :=
  inferInstanceAs (Decidable (_ ∧ _))

/-- With built-in templates, a run is without failures if no term and no state has a fault. -/
theorem isSuccess_of_faultless {language : Language} {dictionary : Dictionary}
    (resolved : dictionary.IsResolved) {languages : List Language} (listed : language ∈ languages)
    (reference : Reference) (faultless : dictionary.IsFaultless language) :
    (Report.ofBatches (Generator.batches ⟨language, dictionary, .builtin languages⟩
      reference)).isSuccess = true := by
  obtain ⟨terms, states⟩ := faultless
  refine List.isEmpty_iff.2 (List.flatMap_eq_nil_iff.2 fun batch member => ?_)
  obtain ⟨artifact, -, rfl⟩ := List.mem_map.1 member
  rw [failures_batch, List.filterMap_eq_nil_iff]
  intro subject member
  rw [faultOf_fileAbout_builtin resolved listed member, Option.map_eq_none_iff]
  unfold Subject.fault?
  split
  · next c =>
      obtain ⟨contract, given, same⟩ := List.mem_map.1 member
      cases same
      exact List.findSome?_eq_none_iff.2 (terms _ given)
  · exact List.findSome?_eq_none_iff.2 states
  · rfl

/-- A document of which no term and no state has a fault has a run without failures. -/
theorem exists_isSuccess_of_faultless {document : Document} {language : Language}
    (reference : Reference) (faultless : document.compile.toOption.any (fun compilation =>
      decide (compilation.dictionary.IsFaultless language)) = true) :
    ∃ dictionary warnings, document.compile = .ok ⟨dictionary, warnings⟩ ∧
      (Report.ofBatches (Generator.batches ⟨language, dictionary, .builtin [language]⟩
        reference)).isSuccess = true := by
  obtain ⟨⟨dictionary, warnings⟩, compiled, held⟩ := exists_ok_of_any faultless
  obtain ⟨normal, -, built, -⟩ := compile_eq_ok_iff.1 compiled
  exact ⟨dictionary, warnings, compiled, isSuccess_of_faultless (isResolved_of_buildsTo built)
    (List.mem_singleton.2 rfl) reference (of_decide_eq_true held)⟩

theorem exists_error_iff {α : Type} {step : Except GenerationError α} :
    (∃ error, step = .error error) ↔ (faultOf step).isSome := by
  cases step <;> simp [faultOf]

/--
For a dictionary that compiles there is a batch of every kind, which accounts for all subjects
in their order; only types and literals that a language lacks, and enumerations without
members, keep a file from being generated, and only that of the terms of a contract or of the
states.
-/
theorem batch?_of_compile {document : Document} {dictionary : Dictionary}
    {warnings : List Warning} (compiled : document.compile = .ok ⟨dictionary, warnings⟩)
    {languages : List Language} {language : Language} (listed : language ∈ languages)
    (reference : Reference) :
    let generator : Generator := ⟨language, dictionary, .builtin languages⟩
    (∀ artifact, ∃ batch, generator.batch? (some reference) artifact = .ok batch ∧
      batch.Accounts artifact (generator.subjects reference artifact)
        (Subject.fault? language dictionary artifact) ∧
      ∀ failure ∈ batch.failures,
        (artifact = .termSet ∨ artifact = .stateSpace) ∧
          ((∃ termId scalar, failure.error = .unsupportedType language termId scalar) ∨
            ∃ identifier, failure.error = .emptyEnumeration identifier)) ∧
      (∀ contract ∈ dictionary.contracts.toList,
        (∃ error, generator.fileAbout reference .termSet (.contract contract) = .error error) ↔
          ∃ term ∈ contract.terms.toList, term.LacksMapping ∨ term.LacksMembers) ∧
      ((∃ error, generator.fileAbout reference .stateSpace .dictionary = .error error) ↔
        ∃ state ∈ dictionary.states.toList, state.type.scalar = .unknown) := by
  intro generator
  obtain ⟨normal, -, built, -⟩ := compile_eq_ok_iff.1 compiled
  have faults (artifact : Artifact) {subject : Subject}
      (member : subject ∈ generator.subjects reference artifact) :
      faultOf (generator.fileAbout reference artifact subject) =
        subject.fault? language dictionary artifact :=
    faultOf_fileAbout_builtin (isResolved_of_buildsTo built) listed member
  refine ⟨fun artifact => ⟨_, batch?_eq_ok generator reference artifact, ?_, ?_⟩, ?_, ?_⟩
  · exact accounts_batch fun _ member => faults artifact member
  · intro failure failed
    rw [(accounts_batch fun _ member => faults artifact member).failures,
      List.mem_filterMap] at failed
    obtain ⟨subject, -, found⟩ := failed
    obtain ⟨error, fault, rfl⟩ := Option.map_eq_some_iff.1 found
    exact fault?_eq_some fault
  · intro contract member
    rw [exists_error_iff, faults .termSet (List.mem_map_of_mem member)]
    simp only [Subject.fault?, List.findSome?_isSome_iff, Term.isSome_fault?_iff]
  · rw [exists_error_iff, faults .stateSpace List.mem_cons_self]
    simp only [Subject.fault?, List.findSome?_isSome_iff, State.isSome_fault?_iff]

/-- One type with an enumeration without members before a time, one with an array of times. -/
def unmappedTerms : Document :=
  .plain [.plain "m" "Enum" (some "X"), .plain "t" "Timestamp" (some "2020-01-01"),
      .plain "a" "Timestamp[]" (some "2020-01-01")]
    [.plain "ANN" "ann", .plain "PAM" "pam"] [("ann", ["m", "t"]), ("pam", ["a"])]

theorem batch?_of_unmappedTerms :
    ∃ dictionary warnings, unmappedTerms.compile = .ok ⟨dictionary, warnings⟩ ∧
      ∃ batch, Generator.batch? ⟨.rust, dictionary, .builtin Language.all⟩ (some ⟨[]⟩) .termSet =
          .ok batch ∧
        batch.failures = [⟨.termSet, "contract ANN", .emptyEnumeration "m"⟩] := by
  obtain ⟨⟨dictionary, warnings⟩, compiled⟩ :=
    faultOf_eq_none.1 (show faultOf unmappedTerms.compile = none by decide +kernel)
  obtain ⟨batch, found, accounts, -⟩ :=
    (batch?_of_compile compiled (show Language.rust ∈ Language.all by decide) ⟨[]⟩).1 .termSet
  refine ⟨dictionary, warnings, compiled, batch, found, ?_⟩
  have expected : (unmappedTerms.compile.toOption.map fun compilation =>
      (compilation.dictionary.contracts.toList.map Subject.contract).filterMap fun subject =>
        (subject.fault? .rust compilation.dictionary .termSet).map
          (GenerationFailure.mk .termSet subject.describe)) =
      some [⟨.termSet, "contract ANN", .emptyEnumeration "m"⟩] := by
    decide +kernel
  rw [compiled] at expected
  rw [accounts.failures]
  exact Option.some.inj expected

end ContractDictionary
