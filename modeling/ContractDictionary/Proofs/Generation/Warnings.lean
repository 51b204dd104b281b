import ContractDictionary.Proofs.Compile.Defaults
import ContractDictionary.Proofs.Generation.Languages

/-!
# Warnings of a report

A run warns of the enumerated terms whose default is no member, once for each of them however
many contracts they apply to, and of nothing else: numbers that cannot be read are found when a
document is compiled, and the dictionary has none.
-/

namespace ContractDictionary

/-- The warning stands before another one: by its kind, then by its parts from the first on. -/
def Warning.Precedes : Warning → Warning → Prop
  | .unmatchedDefault termId default fallback, .unmatchedDefault termId' default' fallback' =>
      termId < termId' ∨ termId = termId' ∧
        (default < default' ∨ default = default' ∧ fallback < fallback')
  | .unmatchedDefault .., .unreadableReal .. => True
  | .unreadableReal .., .unmatchedDefault .. => False
  | .unreadableReal termId value, .unreadableReal termId' value' =>
      termId < termId' ∨ termId = termId' ∧ value < value'

theorem Warning.sortKey_injective {left right : Warning}
    (same : left.sortKey = right.sortKey) : left = right := by
  cases left <;> cases right <;> simp_all [sortKey]

theorem Warning.precedes_iff {left right : Warning} :
    left.Precedes right ↔
      inTextOrder left.sortKey right.sortKey = true ∧ left.sortKey ≠ right.sortKey := by
  have first : ("0" : String) < "1" := by decide
  have last : ¬ ("1" : String) < "0" := by decide
  cases left <;> cases right <;>
    simp only [sortKey, inTextOrder_cons_and_ne, Precedes, first, last] <;> simp [inTextOrder]

/-- The warnings of a summary are in order, and none of them is repeated. -/
theorem pairwise_summary (warnings : List Warning) :
    (Warning.summary warnings).Pairwise Warning.Precedes := by
  have ordered := pairwise_sortBy (fun a b : Warning => inTextOrder_total a.sortKey b.sortKey)
    (fun _ _ _ => inTextOrder_trans) warnings
  have keys : (fun a b : Warning => decide (a = b)) = fun a b => a.sortKey == b.sortKey := by
    funext a b
    rw [Bool.beq_eq_decide_eq]
    exact decide_eq_decide.2 ⟨congrArg Warning.sortKey, Warning.sortKey_injective⟩
  have differ := pairwise_dropRepeats ordered
  rw [← keys] at differ
  refine ((ordered.sublist (sublist_dropRepeats _ _)).and differ).imp ?_
  exact fun both => Warning.precedes_iff.2 both

theorem mem_summary {warning : Warning} {warnings : List Warning} :
    warning ∈ Warning.summary warnings ↔ warning ∈ warnings :=
  mem_dropRepeats.trans (sortBy_perm _ warnings).mem_iff

/--
The term has a single value of an enumerated type, and its default, a token, names none of its
members by acronym or identifier in any case, so that the first one of them takes its place.
-/
structure Term.FallsBack (term : Term) (token fallback : String) : Prop where
  single : term.isArray = false
  enumerated : term.scalarType = .enumeration
  default : term.default = some (.acronym token)
  fallback : term.members.head?.map (·.acronym) = some fallback
  unmatched : ∀ member ∈ term.members, Text.upper member.acronym ≠ Text.upper token ∧
    Text.upper member.identifier ≠ Text.upper token

instance (term : Term) (token fallback : String) : Decidable (term.FallsBack token fallback) :=
  decidable_of_iff (term.isArray = false ∧ term.scalarType = .enumeration ∧
      term.default = some (.acronym token) ∧
      term.members.head?.map (·.acronym) = some fallback ∧
      ∀ member ∈ term.members, Text.upper member.acronym ≠ Text.upper token ∧
        Text.upper member.identifier ≠ Text.upper token)
    ⟨fun h => ⟨h.1, h.2.1, h.2.2.1, h.2.2.2.1, h.2.2.2.2⟩,
      fun h => ⟨h.single, h.enumerated, h.default, h.fallback, h.unmatched⟩⟩

theorem isMatch_eq_false_iff {info : EntityInfo} {token : String} :
    info.isMatch token = false ↔
      Text.upper info.acronym ≠ Text.upper token ∧
        Text.upper info.identifier ≠ Text.upper token := by
  simp [EntityInfo.isMatch, Text.sameIgnoringCase]

theorem warning_of_realDefault (term : Term) {value : Binary64} (finite : value.isFinite = true)
    (written : String) : (term.realDefault (some value) written).warning = none := by
  rw [Term.realDefault, Option.filter_some_pos finite]

/-- Only the default of an enumerated term may have a literal that is not its own. -/
theorem warning_of_literal_eq_none {term : Term} (resolved : term.IsResolved)
    {language : Language} {literal : Literal} (given : term.literal language = .ok literal)
    (other : term.isArray = true ∨ term.default = none ∨ term.scalarType ≠ .enumeration) :
    literal.warning = none := by
  have admitted {default : TermDefault} (effective : term.effectiveDefault? = some default) :
      term.default = some default := by
    rw [Term.effectiveDefault?] at effective
    exact (Option.ite_none_right_eq_some.1 effective).2
  cases Term.literalFrom given with
  | array _ shown | absent _ _ shown | text _ _ _ _ shown => rw [shown]
  | member single effective enumerated _ _ =>
      rcases other with array | none | notEnumerated
      · exact absurd (array.symm.trans single) Bool.true_eq_false.mp
      · cases none.symm.trans (admitted effective)
      · exact absurd enumerated notEnumerated
  | real _ effective numeric shown =>
      obtain ⟨written, resolved⟩ := resolved
      rw [numeric, admitted effective] at resolved
      obtain ⟨text, -, same⟩ := Option.map_eq_some_iff.1 resolved.symm
      cases same
      rw [shown]
      exact warning_of_realDefault term (isFinite_of_finiteReal? text) _
  | readReal _ effective numeric written _ =>
      obtain ⟨text?, resolved⟩ := resolved
      rw [numeric, admitted effective] at resolved
      obtain ⟨text, -, rfl⟩ := Option.map_eq_some_iff.1 resolved.symm
      rcases written with same | same
      · cases same
      · cases same

theorem warning_of_literal_iff {term : Term} (resolved : term.IsResolved) {language : Language}
    {literal : Literal} (given : term.literal language = .ok literal) {warning : Warning} :
    literal.warning = some warning ↔
      ∃ token fallback, warning = .unmatchedDefault term.identifier token fallback ∧
        term.FallsBack token fallback := by
  by_cases enumerated : term.isArray = false ∧ term.default.isSome ∧
      term.scalarType = .enumeration
  · obtain ⟨single, hasDefault, scalar⟩ := enumerated
    obtain ⟨written, default⟩ := resolved
    cases written with
    | none =>
        rw [default] at hasDefault
        cases hasDefault
    | some text =>
        rw [scalar] at default
        have token : term.default = some (.acronym (Text.upper text)) := default
        have chosen : term.memberDefault language (Text.upper text) = .ok literal := by
          simpa [Term.literal, Term.effectiveDefault?, Term.admitsDefault, single, scalar, token]
            using given
        rw [warning_of_memberDefault_iff chosen]
        constructor
        · rintro ⟨fallback, rfl, first, unmatched⟩
          exact ⟨_, fallback, rfl, single, scalar, token, first,
            fun member listed => isMatch_eq_false_iff.1 (unmatched member listed)⟩
        · rintro ⟨_, fallback, rfl, falls⟩
          cases falls.default.symm.trans token
          exact ⟨fallback, rfl, falls.fallback,
            fun member listed => isMatch_eq_false_iff.2 (falls.unmatched member listed)⟩
  · have silent : literal.warning = none := by
      refine warning_of_literal_eq_none resolved given ?_
      cases single : term.isArray with
      | true => exact .inl rfl
      | false =>
          refine .inr ?_
          cases default : term.default with
          | none => exact .inl rfl
          | some value => exact .inr fun scalar => enumerated ⟨single, by rw [default]; rfl, scalar⟩
    rw [silent]
    refine iff_of_false (Option.some_ne_none _).symm ?_
    rintro ⟨token, fallback, -, falls⟩
    exact enumerated ⟨falls.single, by rw [falls.default]; rfl, falls.enumerated⟩

theorem warning_of_view_iff {term : Term} (resolved : term.IsResolved) {language : Language}
    {view : TermView} (viewed : term.view language = .ok view) {warning : Warning} :
    view.warning = some warning ↔
      ∃ token fallback, warning = .unmatchedDefault term.identifier token fallback ∧
        term.FallsBack token fallback := by
  simp only [Term.view, bind_eq_ok, pure_eq_ok] at viewed
  obtain ⟨-, -, literal, given, rfl⟩ := viewed
  exact warning_of_literal_iff resolved given

/-- The file about a contract warns of those of its terms that fall back. -/
theorem mem_warnings_file_iff {generator : Generator} {reference : Reference}
    (resolved : generator.dictionary.IsResolved) {file : GeneratedFile}
    (member : file ∈ (generator.batch reference .termSet).files) {contract : Contract}
    (about : file.subject = .contract contract)
    {warning : Warning} :
    warning ∈ file.warnings ↔ ∃ term ∈ contract.terms.toList, ∃ token fallback,
      warning = .unmatchedDefault term.identifier token fallback ∧
        term.FallsBack token fallback := by
  obtain ⟨subject, listed, generated⟩ := mem_files_batch.1 member
  rw [subject_of_fileAbout generated] at about
  obtain ⟨owner, declared, same⟩ := List.mem_map.1 listed
  subst about
  cases same
  obtain ⟨path, context, content, -, given, -, rfl⟩ := fileAbout_eq_ok.1 generated
  obtain ⟨body, hbody, heq⟩ := bind_eq_ok.1 given
  cases pure_eq_ok.1 heq
  obtain ⟨views, viewed, rfl⟩ := map_eq_ok.1 hbody
  show warning ∈ views.filterMap (·.warning) ↔ _
  rw [List.mem_filterMap]
  constructor
  · rintro ⟨view, found, warned⟩
    obtain ⟨term, ofContract, hview⟩ := exists_of_mapM_eq_ok viewed found
    exact ⟨term, ofContract,
      (warning_of_view_iff (resolved contract declared term ofContract) hview).1 warned⟩
  · rintro ⟨term, ofContract, falls⟩
    obtain ⟨view, found, hview⟩ := exists_result_of_mapM_eq_ok viewed ofContract
    exact ⟨view, found,
      (warning_of_view_iff (resolved contract declared term ofContract) hview).2 falls⟩

/-- All warnings of a run are those of its files about the terms of contracts. -/
theorem mem_warnings_batches_iff {generator : Generator} {reference : Reference}
    {warning : Warning} :
    warning ∈ (generator.batches reference).flatMap Batch.warnings ↔
      ∃ file ∈ (generator.batch reference .termSet).files, warning ∈ file.warnings := by
  simp only [Generator.batches, List.flatMap_map, List.mem_flatMap, Batch.warnings]
  constructor
  · rintro ⟨artifact, -, file, member, warned⟩
    by_cases terms : artifact = .termSet
    · subst terms
      exact ⟨file, member, warned⟩
    · obtain ⟨subject, -, generated⟩ := mem_files_batch.1 member
      obtain ⟨path, context, content, -, given, -, rfl⟩ := fileAbout_eq_ok.1 generated
      rw [warnings_eq_nil given terms] at warned
      cases warned
  · rintro ⟨file, member, warned⟩
    exact ⟨.termSet, Artifact.mem_all _, file, member, warned⟩

/--
The warnings of a run that ends with a report are in order and without repetition.  None of them
is about a number, and there is one about a default exactly if the terms of some contract have
been written of which one falls back from this default.
-/
theorem warnings_of_run {document : Document} {dictionary : Dictionary}
    {warnings : List Warning} (compiled : document.compile = .ok ⟨dictionary, warnings⟩)
    (language : Language) (templates : TemplateCollection) (reference : Reference) {σ : Type}
    {sink : Sink (StateM σ)} {report : Report} {before after : σ}
    (ended : (Generator.run ⟨language, dictionary, templates⟩ reference sink).run before =
      (.ok report, after)) :
    report.warnings.Pairwise Warning.Precedes ∧
    (∀ termId value, .unreadableReal termId value ∉ report.warnings) ∧
    ∀ termId token fallback, .unmatchedDefault termId token fallback ∈ report.warnings ↔
      ∃ contract ∈ dictionary.contracts.toList,
        (∃ file ∈ (Generator.batch ⟨language, dictionary, templates⟩ reference .termSet).files,
          file.subject = .contract contract) ∧
        ∃ term ∈ contract.terms.toList, term.identifier = termId ∧
          term.FallsBack token fallback := by
  obtain ⟨normal, -, built, -⟩ := compile_eq_ok_iff.1 compiled
  have resolved : dictionary.IsResolved := isResolved_of_buildsTo built
  have found {warning : Warning} : warning ∈ report.warnings ↔
      ∃ contract ∈ dictionary.contracts.toList,
        (∃ file ∈ (Generator.batch ⟨language, dictionary, templates⟩ reference .termSet).files,
          file.subject = .contract contract) ∧
        ∃ term ∈ contract.terms.toList, ∃ token fallback,
          warning = .unmatchedDefault term.identifier token fallback ∧
            term.FallsBack token fallback := by
    rw [report_of_run ended, Report.ofBatches, mem_summary, mem_warnings_batches_iff]
    constructor
    · rintro ⟨file, member, warned⟩
      obtain ⟨subject, listed, generated⟩ := mem_files_batch.1 member
      obtain ⟨contract, declared, rfl⟩ := List.mem_map.1 listed
      have about := subject_of_fileAbout generated
      exact ⟨contract, declared, ⟨file, member, about⟩,
        (mem_warnings_file_iff resolved member about).1 warned⟩
    · rintro ⟨contract, -, ⟨file, member, about⟩, falls⟩
      exact ⟨file, member, (mem_warnings_file_iff resolved member about).2 falls⟩
  refine ⟨?_, ?_, ?_⟩
  · rw [report_of_run ended]
    exact pairwise_summary _
  · intro termId value member
    obtain ⟨_, -, -, _, -, _, _, same, -⟩ := found.1 member
    cases same
  · intro termId token fallback
    rw [found]
    constructor
    · rintro ⟨contract, declared, written, term, ofContract, _, _, same, falls⟩
      cases same
      exact ⟨contract, declared, written, term, ofContract, rfl, falls⟩
    · rintro ⟨contract, declared, written, term, ofContract, rfl, falls⟩
      exact ⟨contract, declared, written, term, ofContract, _, _, rfl, falls⟩

def sharedDefault : Document :=
  let members : List MemberRecord := [⟨1, "lender", "Lender", "LEN", ""⟩,
    ⟨0, "borrower", "Borrower", "BOR", ""⟩]
  let role : TermRecord :=
    { TermRecord.plain "role" "Enum" (some "neither") with
      allowedValues := members.map MemberRecord.toJson }
  .plain [role] [.plain "ANN" "ann", .plain "PAM" "pam"] [("ann", ["role"]), ("pam", ["role"])]

theorem warnings_of_sharedDefault :
    ∃ dictionary warnings report files,
      sharedDefault.compile = .ok ⟨dictionary, warnings⟩ ∧
      (Generator.run ⟨.rust, dictionary, .builtin [.rust]⟩ ⟨[]⟩ WrittenFiles.sink).run .empty =
        (.ok report, files) ∧
      report.warnings.Pairwise Warning.Precedes ∧
      .unmatchedDefault "role" "NEITHER" "LEN" ∈ report.warnings := by
  have evaluated : sharedDefault.compile.toOption.any (fun compilation => decide
      (compilation.dictionary.IsFaultless .rust ∧
        ∃ contract ∈ compilation.dictionary.contracts.toList, ∃ term ∈ contract.terms.toList,
          term.identifier = "role" ∧ term.FallsBack "NEITHER" "LEN")) = true := by
    decide +kernel
  obtain ⟨⟨dictionary, warnings⟩, compiled, held⟩ := exists_ok_of_any evaluated
  obtain ⟨faultless, contract, declared, falls⟩ := of_decide_eq_true held
  obtain ⟨normal, -, built, -⟩ := compile_eq_ok_iff.1 compiled
  have succeeded := isSuccess_of_faultless (isResolved_of_buildsTo built)
    (List.mem_singleton.2 rfl) ⟨[]⟩ faultless
  have written := exists_file_of_complete (complete_of_isSuccess succeeded .termSet)
    (List.mem_map_of_mem declared)
  obtain ⟨files, ended⟩ := exists_run_writtenFiles ⟨.rust, dictionary, .builtin [.rust]⟩ ⟨[]⟩ .empty
  obtain ⟨ordered, -, found⟩ :=
    warnings_of_run compiled .rust (.builtin [.rust]) ⟨[]⟩ ended
  exact ⟨dictionary, warnings, _, files, compiled, ended, ordered,
    (found "role" "NEITHER" "LEN").2 ⟨contract, declared, written, falls⟩⟩

end ContractDictionary
