import ContractDictionary.Proofs.Compile.Sections
import Mathlib.Tactic.MkIffOfInductiveProp

/-!
# Documents that compile

The checks on a document are spread over its normal form and the sections, and the first one
that fails ends the compilation.  Taken together they are a condition on the document as it is
written: what the normal form changes has no part in it.
-/

namespace ContractDictionary

/-- What a document has to meet in order to compile. -/
@[mk_iff]
structure Document.IsValid (document : Document) : Prop where
  /-- Three enumerations of the dictionary are taken from terms. -/
  requiredTerms : ∀ key ∈ ["contractType", "contractPerformance", "contractRole"],
    ∃ record, document.terms.get? key = some record ∧
      ∀ value ∈ record.allowedValues, IsMember value
  eventType : document.eventType.identifier.isSome = true
  enumerations : ∀ record ∈ [document.eventType, document.referenceRole, document.referenceType],
    ∀ value ∈ record.allowedValues, IsMember value
  terms : ∀ record ∈ document.terms.values, IsTyped record.type record.allowedValues
  states : ∀ record ∈ document.states.values, IsTyped record.type record.allowedValues
  statuses : ∀ record ∈ document.taxonomy.values, ∀ name, record.status = some name →
    ∃ status : PublicationStatus, name = status.name
  /-- Terms are given under the identifiers of contract types alone. -/
  contractTypes : ∀ contractTypeId, document.termIds contractTypeId ≠ [] →
    ∃ record ∈ document.taxonomy.values, record.identifier = contractTypeId
  /-- Under a contract type that is no placeholder, nothing but declared terms is given. -/
  applicableTerms : ∀ record ∈ document.taxonomy.values, record.acronym ≠ "EXOTi" →
    ∀ termId ∈ document.termIds record.identifier,
      ∃ term ∈ document.terms.values, term.identifier = termId
  versionDate : (DateTime.ofText? document.version.date).isSome = true

/-- A type has rows if the document gives terms under it. -/
theorem exists_row_iff {document : Document} {contractTypeId : String} :
    (∃ row ∈ (Applicability.ofRows document.applicabilityRows).rows,
      row.contractTypeId = contractTypeId) ↔ document.termIds contractTypeId ≠ [] := by
  rw [← map_termId_rowsOf, Ne, List.map_eq_nil_iff]
  constructor
  · rintro ⟨row, member⟩ none
    have own := mem_rowsOf.2 member
    rw [none] at own
    cases own
  · intro some
    obtain ⟨row, own⟩ := List.exists_mem_of_ne_nil _ some
    exact ⟨row, mem_rowsOf.1 own⟩

/--
Contracts can be built from compiled sections if terms are given under declared types alone and,
for types that are no placeholder, nothing but declared terms.
-/
theorem exists_contracts_iff {document : Document} {types : List ContractType}
    {terms : List Term}
    (htypes : compileSection ContractTypeRecord.compile document.taxonomy = .ok types)
    (hterms : compileSection TermRecord.compile document.terms = .ok terms) :
    (∃ contracts, contractsOf (.ofRows document.applicabilityRows) (.ofList types)
      (.ofList terms) = .ok contracts) ↔
      (∀ contractTypeId, document.termIds contractTypeId ≠ [] →
        ∃ record ∈ document.taxonomy.values, record.identifier = contractTypeId) ∧
      ∀ record ∈ document.taxonomy.values, record.acronym ≠ "EXOTi" →
        ∀ termId ∈ document.termIds record.identifier,
          ∃ term ∈ document.terms.values, term.identifier = termId := by
  let rows := Applicability.ofRows document.applicabilityRows
  have knownTypes : (∀ row ∈ rows.rows,
        ((Taxonomy.ofList types).get? row.contractTypeId).isSome = true) ↔
      ∀ contractTypeId, document.termIds contractTypeId ≠ [] →
        ∃ record ∈ document.taxonomy.values, record.identifier = contractTypeId := by
    simp only [isSome_type_iff htypes]
    constructor
    · intro known contractTypeId given
      obtain ⟨row, member, rfl⟩ := exists_row_iff.2 given
      exact known row member
    · intro known row member
      exact known _ (exists_row_iff.1 ⟨row, member, rfl⟩)
  have knownTerms (identifier : String) : (∀ row ∈ rows.rowsOf identifier,
        ∃ term, (EntitySet.ofList terms).get? row.termId = some term) ↔
      ∀ termId ∈ document.termIds identifier,
        ∃ term ∈ document.terms.values, term.identifier = termId := by
    rw [← map_termId_rowsOf, List.forall_mem_map]
    simp only [exists_term_iff hterms]
    rfl
  rw [exists_contractsOf_iff, knownTypes, ← forall_type_iff (fun identifier acronym =>
    acronym ≠ "EXOTi" → ∀ termId ∈ document.termIds identifier,
      ∃ term ∈ document.terms.values, term.identifier = termId) htypes]
  simp only [← knownTerms, ContractType.isExperimental, beq_eq_false_iff_ne]
  rfl

theorem exists_versionDateOf_iff {text : String} :
    (∃ date, versionDateOf text = .ok date) ↔ (DateTime.ofText? text).isSome = true := by
  unfold versionDateOf
  cases DateTime.ofText? text <;> simp

theorem isValid_of_buildsTo {document : Document} {dictionary : Dictionary}
    (built : document.BuildsTo dictionary) : document.IsValid := by
  obtain ⟨terms, hterms, termsEq⟩ := built.terms
  obtain ⟨states, hstates, -⟩ := built.states
  obtain ⟨types, htypes, typesEq⟩ := built.taxonomy
  have hcontracts := built.contracts
  rw [built.applicability, typesEq, termsEq] at hcontracts
  have applicability := (exists_contracts_iff htypes hterms).1 ⟨_, hcontracts⟩
  have event := exists_compileEnumeration_iff.1 ⟨_, built.eventType⟩
  have role := exists_compileEnumeration_iff.1 ⟨_, built.referenceRole⟩
  have type := exists_compileEnumeration_iff.1 ⟨_, built.referenceType⟩
  have contractType := exists_termEnumeration_iff.1 ⟨_, built.contractType⟩
  have performance := exists_termEnumeration_iff.1 ⟨_, built.contractPerformance⟩
  have contractRole := exists_termEnumeration_iff.1 ⟨_, built.contractRole⟩
  constructor
  case requiredTerms => simpa using ⟨contractType, performance, contractRole⟩
  case eventType => exact event.1
  case enumerations => simpa using ⟨event.2, role.2, type.2⟩
  case terms => exact exists_compileTerms_iff.1 ⟨terms, hterms⟩
  case states => exact exists_compileStates_iff.1 ⟨states, hstates⟩
  case statuses => exact exists_compileTaxonomy_iff.1 ⟨types, htypes⟩
  case contractTypes => exact applicability.1
  case applicableTerms => exact applicability.2
  case versionDate => exact exists_versionDateOf_iff.1 ⟨_, built.versionDate⟩

/-- A valid document, once its enumerations all have identifiers, compiles to a dictionary. -/
theorem exists_buildsTo_of_isValid {document : Document}
    (role : document.referenceRole.identifier.isSome = true)
    (type : document.referenceType.identifier.isSome = true) (valid : document.IsValid) :
    ∃ dictionary, document.BuildsTo dictionary := by
  have members := valid.enumerations
  have required := valid.requiredTerms
  simp only [List.forall_mem_cons] at members required
  obtain ⟨terms, hterms⟩ := exists_compileTerms_iff.2 valid.terms
  obtain ⟨states, hstates⟩ := exists_compileStates_iff.2 valid.states
  obtain ⟨types, htypes⟩ := exists_compileTaxonomy_iff.2 valid.statuses
  obtain ⟨contracts, hcontracts⟩ :=
    (exists_contracts_iff htypes hterms).2 ⟨valid.contractTypes, valid.applicableTerms⟩
  obtain ⟨eventType, hevent⟩ := exists_compileEnumeration_iff.2 ⟨valid.eventType, members.1⟩
  obtain ⟨referenceRole, hrole⟩ := exists_compileEnumeration_iff.2 ⟨role, members.2.1⟩
  obtain ⟨referenceType, htype⟩ := exists_compileEnumeration_iff.2 ⟨type, members.2.2.1⟩
  obtain ⟨contractType, hcontractType⟩ := exists_termEnumeration_iff.2 required.1
  obtain ⟨contractPerformance, hperformance⟩ := exists_termEnumeration_iff.2 required.2.1
  obtain ⟨contractRole, hcontractRole⟩ := exists_termEnumeration_iff.2 required.2.2.1
  obtain ⟨versionDate, hdate⟩ := exists_versionDateOf_iff.2 valid.versionDate
  let dictionary : Dictionary := {
    version := document.version.number
    versionDate
    applicability := .ofRows document.applicabilityRows
    eventType
    contractPerformance
    contractRole
    referenceRole
    referenceType
    contractType
    contracts
    states := .ofList states
    taxonomy := .ofList types
    terms := .ofList terms }
  exact ⟨dictionary, rfl, hdate, rfl, hevent, hperformance, hcontractRole, hrole, htype,
    hcontractType, ⟨terms, hterms, rfl⟩, ⟨states, hstates, rfl⟩, ⟨types, htypes, rfl⟩, hcontracts⟩

theorem forall_isMember_normalize_iff {taxonomy : Keyed ContractTypeRecord} {key : String}
    {record : TermRecord} :
    (∀ value ∈ (record.normalize taxonomy key).allowedValues, IsMember value) ↔
      ∀ value ∈ record.allowedValues, IsMember value := by
  unfold TermRecord.normalize
  split <;> split <;>
    simp [repairScaling, isMember_repairValue_iff, forall_isMember_completeTypes_iff]

/-- The normal form of a section of terms has the keys, types and members of the section. -/
theorem exists_get?_normalize_iff {terms : Keyed TermRecord}
    {taxonomy : Keyed ContractTypeRecord} {key : String} :
    (∃ record, (terms.map (TermRecord.normalize taxonomy)).get? key = some record ∧
      ∀ value ∈ record.allowedValues, IsMember value) ↔
    ∃ record, terms.get? key = some record ∧ ∀ value ∈ record.allowedValues, IsMember value := by
  rw [Keyed.get?_map]
  cases terms.get? key with
  | none => simp
  | some record => simp [forall_isMember_normalize_iff]

theorem forall_isTyped_normalize_iff {terms : Keyed TermRecord}
    {taxonomy : Keyed ContractTypeRecord} :
    (∀ record ∈ (terms.map (TermRecord.normalize taxonomy)).values,
      IsTyped record.type record.allowedValues) ↔
    ∀ record ∈ terms.values, IsTyped record.type record.allowedValues := by
  have same (key : String) (record : TermRecord) :
      IsTyped (record.normalize taxonomy key).type (record.normalize taxonomy key).allowedValues ↔
        IsTyped record.type record.allowedValues := by
    rw [type_normalize, isTyped_iff_and, isTyped_iff_and, forall_isMember_normalize_iff]
  rw [Keyed.values_map, Keyed.values, List.forall_mem_map, List.forall_mem_map]
  simp only [same]

theorem exists_declaration_normalize_iff (holds : String → String → Prop)
    {terms : Keyed TermRecord} {taxonomy : Keyed ContractTypeRecord} :
    (∃ term ∈ (terms.map (TermRecord.normalize taxonomy)).values,
      holds term.identifier term.type) ↔
    ∃ term ∈ terms.values, holds term.identifier term.type := by
  rw [Keyed.values_map, Keyed.values]
  simp only [List.mem_map, exists_exists_and_eq_and, identifier_normalize, type_normalize]

theorem isValid_normalize_iff {document normal : Document}
    (normalized : document.normalize = .ok normal) : normal.IsValid ↔ document.IsValid := by
  have declared (identifier : String) :
      (∃ term ∈ (document.terms.map (TermRecord.normalize document.taxonomy)).values,
        term.identifier = identifier) ↔
      ∃ term ∈ document.terms.values, term.identifier = identifier :=
    exists_declaration_normalize_iff fun own _ => own = identifier
  rw [eq_of_normalize normalized, Document.isValid_iff, Document.isValid_iff]
  simp only [exists_get?_normalize_iff, forall_isTyped_normalize_iff, declared,
    List.forall_mem_cons]
  rfl

/-- A valid document has a normal form, in which the enumerations of references are named. -/
theorem exists_normalize_of_isValid {document : Document} (valid : document.IsValid) :
    ∃ normal, document.normalize = .ok normal ∧
      normal.referenceRole.identifier.isSome = true ∧
      normal.referenceType.identifier.isSome = true := by
  obtain ⟨record, declared, -⟩ := valid.requiredTerms contractTypeTerm List.mem_cons_self
  unfold Document.normalize
  rw [declared]
  exact ⟨_, rfl, rfl, rfl⟩

/--
A document compiles exactly if it is valid: no check is passed over, and nothing else is asked
of a document.  One that is not valid has an error in place of a dictionary.
-/
theorem compiles_iff_isValid (document : Document) :
    ((∃ compilation, document.compile = .ok compilation) ↔ document.IsValid) ∧
      ((∃ error, document.compile = .error error) ↔ ¬document.IsValid) := by
  have compiles : (∃ compilation, document.compile = .ok compilation) ↔ document.IsValid := by
    constructor
    · rintro ⟨compilation, compiled⟩
      obtain ⟨normal, normalized, built, -⟩ := compile_eq_ok_iff.1 compiled
      exact (isValid_normalize_iff normalized).1 (isValid_of_buildsTo built)
    · intro valid
      obtain ⟨normal, normalized, role, type⟩ := exists_normalize_of_isValid valid
      obtain ⟨dictionary, built⟩ :=
        exists_buildsTo_of_isValid role type ((isValid_normalize_iff normalized).2 valid)
      exact ⟨⟨dictionary, normal.warnings⟩, compile_eq_ok_iff.2 ⟨normal, normalized, built, rfl⟩⟩
  refine ⟨compiles, ?_⟩
  rw [← compiles]
  cases document.compile with
  | ok compilation => simp
  | error error => simp

/--
Every row of a compiled dictionary names a declared contract type.  It also names a declared
term, if some contract type with the identifier that the row names is no placeholder.
-/
theorem rows_declared_of_compile {document : Document} {dictionary : Dictionary}
    {warnings : List Warning} (compiled : document.compile = .ok ⟨dictionary, warnings⟩) :
    ∀ row ∈ dictionary.applicability.rows,
      (dictionary.taxonomy.get? row.contractTypeId).isSome = true ∧
      ∀ type ∈ dictionary.taxonomy.toList, type.identifier = row.contractTypeId →
        type.acronym ≠ "EXOTi" → (dictionary.terms.get? row.termId).isSome = true := by
  obtain ⟨normal, -, built, -⟩ := compile_eq_ok_iff.1 compiled
  obtain ⟨knownTypes, knownTerms⟩ := exists_contractsOf_iff.1 ⟨_, built.contracts⟩
  intro row listed
  refine ⟨knownTypes row listed, ?_⟩
  intro type declared named regular
  have own : row ∈ dictionary.applicability.rowsOf type.identifier :=
    mem_rowsOf.2 ⟨listed, named.symm⟩
  have isRegular : type.isExperimental = false := beq_false_of_ne regular
  exact Option.isSome_iff_exists.2 (knownTerms type declared isRegular row own)

theorem rows_declared_of_continuedTypes :
    ∃ dictionary warnings, continuedTypes.compile = .ok ⟨dictionary, warnings⟩ ∧
      ⟨"A", "B|x", "x"⟩ ∈ dictionary.applicability.rows ∧
      (dictionary.taxonomy.get? "A").isSome = true ∧
      (dictionary.terms.get? "B|x").isSome = true := by
  obtain ⟨⟨dictionary, warnings⟩, compiled, held⟩ := exists_ok_of_any
    (show continuedTypes.compile.toOption.any (fun compilation =>
      decide (⟨"A", "B|x", "x"⟩ ∈ compilation.dictionary.applicability.rows) &&
      compilation.dictionary.taxonomy.toList.any fun type =>
        decide (type.identifier = "A" ∧ type.acronym ≠ "EXOTi")) = true by decide +kernel)
  rw [Bool.and_eq_true, decide_eq_true_iff, List.any_eq_true] at held
  obtain ⟨row, type, declared, isType⟩ := held
  obtain ⟨named, regular⟩ := of_decide_eq_true isType
  obtain ⟨knownType, knownTerm⟩ := rows_declared_of_compile compiled _ row
  exact ⟨dictionary, warnings, compiled, row, knownType, knownTerm type declared named regular⟩

/-- A document that gives under the placeholder type a term that it does not declare. -/
def placeholderRow : Document :=
  .plain [] [.plain "EXOTi" "Exotic"] [("Exotic", ["ghost"])]

/-- Rows of the placeholder type are not looked at, and one may name a term that is missing. -/
theorem compiles_with_unknown_term :
    ∃ dictionary warnings, placeholderRow.compile = .ok ⟨dictionary, warnings⟩ ∧
      ∃ row ∈ dictionary.applicability.rows, (dictionary.terms.get? row.termId).isSome = false := by
  obtain ⟨⟨dictionary, warnings⟩, compiled, held⟩ := exists_ok_of_any
    (show placeholderRow.compile.toOption.any (fun compilation =>
      compilation.dictionary.applicability.rows.any fun row =>
        (compilation.dictionary.terms.get? row.termId).isNone) = true by decide +kernel)
  obtain ⟨row, listed, missing⟩ := List.any_eq_true.1 held
  refine ⟨dictionary, warnings, compiled, row, listed, ?_⟩
  rw [Option.isNone_iff_eq_none.1 missing]
  rfl

end ContractDictionary
