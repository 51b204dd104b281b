import ContractDictionary.Compile.Compilation
import ContractDictionary.Proofs.Outcome

/-!
# Contracts of a compiled dictionary

A document compiles if every section of its normal form does, and the dictionary holds what the
sections compile to.  The laws about compiled dictionaries start from `compile_eq_ok_iff`, so
that none of them goes through the stages of compilation again.

The contracts of a dictionary are its contract types but for the placeholder, in the same order.
The terms of a contract are those that the applicability names for its type, each of them the
one that the dictionary as a whole has under the identifier.  The rows of all types are sorted
together, by a text in which the type and the term run into each other; the rows of one type are
in the order of their terms nevertheless.
-/

namespace ContractDictionary

theorem append_lt_append_left_iff (front left right : List Char) :
    front ++ left < front ++ right ↔ left < right := by
  induction front with
  | nil => rfl
  | cons c front ih =>
      rw [List.cons_append, List.cons_append, List.cons_lt_cons_iff]
      simp [ih]

/-- Texts with a common front are in the order of what follows it. -/
theorem text_append_le_append_left_iff (front left right : String) :
    front ++ left ≤ front ++ right ↔ left ≤ right := by
  rw [← String.not_lt, ← String.not_lt, String.lt_iff, String.lt_iff, String.toList_append,
    String.toList_append, append_lt_append_left_iff]

theorem ApplicabilityRow.sortKey_le_iff {left right : ApplicabilityRow}
    (same : left.contractTypeId = right.contractTypeId) :
    left.sortKey ≤ right.sortKey ↔ left.termId ≤ right.termId := by
  unfold ApplicabilityRow.sortKey
  rw [same]
  exact text_append_le_append_left_iff _ _ _

theorem mem_rowsOf {applicability : Applicability} {contractTypeId : String}
    {row : ApplicabilityRow} :
    row ∈ applicability.rowsOf contractTypeId ↔
      row ∈ applicability.rows ∧ row.contractTypeId = contractTypeId := by
  simp [Applicability.rowsOf]

/-- The rows of one type are in the order of their terms. -/
theorem pairwise_rowsOf (applicability : Applicability) (contractTypeId : String) :
    ((applicability.rowsOf contractTypeId).map ApplicabilityRow.termId).Pairwise (· ≤ ·) := by
  rw [List.pairwise_map]
  refine (applicability.ordered.filter _).imp_of_mem ?_
  intro left right hleft hright hle
  have same : left.contractTypeId = right.contractTypeId :=
    (mem_rowsOf.1 hleft).2.trans (mem_rowsOf.1 hright).2.symm
  exact (ApplicabilityRow.sortKey_le_iff same).1 hle

/-- The terms that a document gives under a contract type, less the reserved key. -/
def Document.termIds (document : Document) (contractTypeId : String) : List String :=
  match document.applicability.get? contractTypeId with
  | none => []
  | some terms => (terms.entries.map Prod.fst).filter (· ≠ reservedTermId)

def rowsUnder (entry : String × Keyed String) : List ApplicabilityRow :=
  (entry.2.entries.filter (·.1 ≠ reservedTermId)).map fun directive =>
    ⟨entry.1, directive.1, directive.2⟩

theorem applicabilityRows_eq (document : Document) :
    document.applicabilityRows = document.applicability.entries.flatMap rowsUnder :=
  rfl

theorem contractTypeId_of_mem_rowsUnder {entry : String × Keyed String} {row : ApplicabilityRow}
    (member : row ∈ rowsUnder entry) : row.contractTypeId = entry.1 := by
  obtain ⟨directive, -, rfl⟩ := List.mem_map.1 member
  rfl

theorem map_termId_rowsUnder (entry : String × Keyed String) :
    (rowsUnder entry).map ApplicabilityRow.termId =
      (entry.2.entries.map Prod.fst).filter (· ≠ reservedTermId) := by
  rw [rowsUnder, List.map_map, List.filter_map]
  rfl

/-- Of the rows that some entries give, those of a type are given by the entry of the type. -/
theorem filter_flatMap_rowsUnder {entries : List (String × Keyed String)}
    (ordered : entries.Pairwise (fun a b => a.1 < b.1)) (contractTypeId : String) :
    (entries.flatMap rowsUnder).filter (·.contractTypeId == contractTypeId) =
      match entries.lookup contractTypeId with
      | none => []
      | some terms => rowsUnder (contractTypeId, terms) := by
  induction entries with
  | nil => rfl
  | cons entry rest ih =>
      obtain ⟨first, terms⟩ := entry
      have later := List.pairwise_cons.1 ordered
      rw [List.flatMap_cons, List.filter_append, ih later.2, List.lookup_cons]
      by_cases same : contractTypeId = first
      · subst same
        have absent : rest.lookup contractTypeId = none := by
          rw [List.lookup_eq_none_iff]
          intro other member
          have less := later.1 other member
          simp only [bne_iff_ne, ne_eq]
          rintro rfl
          exact String.lt_irrefl _ less
        have kept : (rowsUnder (contractTypeId, terms)).filter
            (·.contractTypeId == contractTypeId) = rowsUnder (contractTypeId, terms) := by
          rw [List.filter_eq_self]
          intro row member
          simp [contractTypeId_of_mem_rowsUnder member]
        simp [absent, kept]
      · have dropped : (rowsUnder (first, terms)).filter
            (·.contractTypeId == contractTypeId) = [] := by
          rw [List.filter_eq_nil_iff]
          intro row member
          simpa [contractTypeId_of_mem_rowsUnder member] using Ne.symm same
        simp [dropped, beq_false_of_ne same]

/-- The terms under a type increase, since an entry of a section has its key for itself. -/
theorem pairwise_termIds (document : Document) (contractTypeId : String) :
    (document.termIds contractTypeId).Pairwise (· < ·) := by
  unfold Document.termIds
  split
  · exact .nil
  · next terms _ =>
      have ordered : (terms.entries.map Prod.fst).Pairwise (· < ·) :=
        List.pairwise_map.2 terms.ordered
      exact ordered.filter _

theorem reservedTermId_not_mem_termIds (document : Document) (contractTypeId : String) :
    reservedTermId ∉ document.termIds contractTypeId := by
  unfold Document.termIds
  split <;> simp

/-- The rows of a type name the terms that the document gives under it, in their order. -/
theorem map_termId_rowsOf (document : Document) (contractTypeId : String) :
    ((Applicability.ofRows document.applicabilityRows).rowsOf contractTypeId).map
      ApplicabilityRow.termId = document.termIds contractTypeId := by
  have given : (document.applicabilityRows.filter (·.contractTypeId == contractTypeId)).map
      ApplicabilityRow.termId = document.termIds contractTypeId := by
    rw [applicabilityRows_eq, filter_flatMap_rowsUnder document.applicability.ordered,
      Document.termIds, Keyed.get?]
    cases document.applicability.entries.lookup contractTypeId with
    | none => rfl
    | some terms => exact map_termId_rowsUnder (contractTypeId, terms)
  have perm := ((sortOn_perm ApplicabilityRow.sortKey document.applicabilityRows).filter
    (·.contractTypeId == contractTypeId)).map ApplicabilityRow.termId
  rw [given] at perm
  refine perm.eq_of_pairwise (fun a b _ _ => String.le_antisymm) ?_ ?_
  · exact pairwise_rowsOf (Applicability.ofRows document.applicabilityRows) contractTypeId
  · exact (pairwise_termIds document contractTypeId).imp fun h =>
      String.not_lt.1 (String.lt_asymm h)

/-! ## What a dictionary consists of -/

/-- The dictionary holds what the sections of a document in normal form compile to. -/
structure Document.BuildsTo (document : Document) (dictionary : Dictionary) : Prop where
  version : dictionary.version = document.version.number
  versionDate : versionDateOf document.version.date = .ok dictionary.versionDate
  applicability : dictionary.applicability = .ofRows document.applicabilityRows
  eventType : document.eventType.compile "event.eventType" = .ok dictionary.eventType
  contractPerformance :
    document.termEnumeration "contractPerformance" = .ok dictionary.contractPerformance
  contractRole : document.termEnumeration "contractRole" = .ok dictionary.contractRole
  referenceRole :
    document.referenceRole.compile "contractReference.role" = .ok dictionary.referenceRole
  referenceType :
    document.referenceType.compile "contractReference.type" = .ok dictionary.referenceType
  contractType : document.termEnumeration contractTypeTerm = .ok dictionary.contractType
  terms : ∃ terms, compileSection TermRecord.compile document.terms = .ok terms ∧
    dictionary.terms = .ofList terms
  states : ∃ states, compileSection StateRecord.compile document.states = .ok states ∧
    dictionary.states = .ofList states
  taxonomy : ∃ types, compileSection ContractTypeRecord.compile document.taxonomy = .ok types ∧
    dictionary.taxonomy = .ofList types
  contracts :
    contractsOf dictionary.applicability dictionary.taxonomy dictionary.terms =
      .ok dictionary.contracts

theorem build_eq_ok_iff {document : Document} {dictionary : Dictionary} :
    document.build = .ok dictionary ↔ document.BuildsTo dictionary := by
  simp only [Document.build, bind_eq_ok, pure_eq_ok]
  constructor
  · rintro ⟨eventType, hevent, performance, hperformance, role, hrole, referenceRole, hrefRole,
      referenceType, hrefType, contractType, htype, terms, hterms, states, hstates,
      types, htypes, contracts, hcontracts, date, hdate, rfl⟩
    exact ⟨rfl, hdate, rfl, hevent, hperformance, hrole, hrefRole, hrefType, htype,
      ⟨terms, hterms, rfl⟩, ⟨states, hstates, rfl⟩, ⟨types, htypes, rfl⟩, hcontracts⟩
  · intro built
    obtain ⟨terms, hterms, termsEq⟩ := built.terms
    obtain ⟨states, hstates, statesEq⟩ := built.states
    obtain ⟨types, htypes, typesEq⟩ := built.taxonomy
    have hcontracts := built.contracts
    rw [built.applicability, typesEq, termsEq] at hcontracts
    refine ⟨_, built.eventType, _, built.contractPerformance, _, built.contractRole,
      _, built.referenceRole, _, built.referenceType, _, built.contractType, terms, hterms,
      states, hstates, types, htypes, _, hcontracts, _, built.versionDate, ?_⟩
    rw [← built.version, ← built.applicability, ← statesEq, ← typesEq, ← termsEq]

theorem compile_eq_ok_iff {document : Document} {compilation : Compilation} :
    document.compile = .ok compilation ↔
      ∃ normal, document.normalize = .ok normal ∧ normal.BuildsTo compilation.dictionary ∧
        compilation.warnings = normal.warnings := by
  simp only [Document.compile, bind_eq_ok, pure_eq_ok, build_eq_ok_iff]
  constructor
  · rintro ⟨normal, hnormal, dictionary, built, rfl⟩
    exact ⟨normal, hnormal, built, rfl⟩
  · rintro ⟨normal, hnormal, built, warnings⟩
    exact ⟨normal, hnormal, compilation.dictionary, built, by rw [← warnings]⟩

/-- The normal form differs in the terms and in the identifiers of the reference enumerations. -/
theorem eq_of_normalize {document normal : Document}
    (normalized : document.normalize = .ok normal) :
    normal = { document with
      referenceRole := { document.referenceRole with identifier := some referenceRoleId }
      referenceType := { document.referenceType with identifier := some referenceTypeId }
      terms := document.terms.map (TermRecord.normalize document.taxonomy) } := by
  unfold Document.normalize at normalized
  split at normalized
  · cases normalized
  · cases normalized
    rfl

theorem applicability_of_normalize {document normal : Document}
    (normalized : document.normalize = .ok normal) :
    normal.applicability = document.applicability := by
  rw [eq_of_normalize normalized]

theorem identifier_normalize (taxonomy : Keyed ContractTypeRecord) (key : String)
    (record : TermRecord) : (record.normalize taxonomy key).identifier = record.identifier := by
  unfold TermRecord.normalize
  split <;> split <;> rfl

theorem type_normalize (taxonomy : Keyed ContractTypeRecord) (key : String)
    (record : TermRecord) : (record.normalize taxonomy key).type = record.type := by
  unfold TermRecord.normalize
  split <;> split <;> rfl

/-- A term without allowed values. -/
def TermRecord.plain (identifier type : String) (default : Option String) : TermRecord where
  identifier := identifier
  name := identifier
  acronym := identifier
  type := type
  allowedValues := []
  default := default
  group := ""
  description := none

def TermRecord.enumerated (identifier default : String) (members : List MemberRecord) :
    TermRecord :=
  { TermRecord.plain identifier "Enum" (some default) with
    allowedValues := members.map MemberRecord.toJson }

/-- A contract type with a name and nothing more. -/
def ContractTypeRecord.plain (acronym identifier : String) : ContractTypeRecord where
  acronym := acronym
  classification := ""
  coverage := none
  description := ""
  family := ""
  identifier := identifier
  name := identifier
  status := none

def EnumerationRecord.plain (identifier : String) : EnumerationRecord where
  identifier := some identifier
  name := identifier
  acronym := identifier
  description := ""
  allowedValues := []

/-- The terms that every document has to declare, without members. -/
def requiredTerms : List TermRecord :=
  ["contractPerformance", "contractRole", contractTypeTerm].map fun identifier =>
    .plain identifier "Enum" none

/--
A document with some terms besides the required ones, some contract types and, for identifiers
of contract types, the terms that apply to them.
-/
def Document.plain (terms : List TermRecord) (types : List ContractTypeRecord)
    (applicability : List (String × List String)) : Document where
  version := ⟨"1.1", "2021-04-19"⟩
  terms := .ofList ((requiredTerms ++ terms).map fun term => (term.identifier, term))
  states := .empty
  taxonomy := .ofList (types.map fun type => (type.identifier, type))
  applicability := .ofList (applicability.map fun (contractTypeId, termIds) =>
    (contractTypeId, .ofList (termIds.map fun termId => (termId, "x"))))
  eventType := .plain "eventType"
  referenceRole := .plain referenceRoleId
  referenceType := .plain referenceTypeId

/-! ## Contracts -/

theorem identifierOf_of_get? {α : Type} [Entity α] {set : EntitySet α} {identifier : String}
    {entity : α} (found : set.get? identifier = some entity) :
    identifierOf entity = identifier := by
  simpa using List.find?_some found

theorem mem_of_get? {α : Type} [Entity α] {set : EntitySet α} {identifier : String}
    {entity : α} (found : set.get? identifier = some entity) : entity ∈ set.toList :=
  List.mem_of_find?_eq_some found

/-- Entities whose identifiers increase stay as they are. -/
theorem toList_ofList_of_pairwise {α : Type} [Entity α] {entities : List α}
    (increasing : (entities.map identifierOf).Pairwise (· < ·)) :
    (EntitySet.ofList entities).toList = entities :=
  sortOn_of_pairwise ((List.pairwise_map.1 increasing).imp fun h =>
    String.not_lt.1 (String.lt_asymm h))

theorem ApplicabilityRow.term_eq_ok {row : ApplicabilityRow} {terms : TermSet} {term : Term} :
    row.term terms = .ok term ↔ terms.get? row.termId = some term := by
  unfold ApplicabilityRow.term
  cases terms.get? row.termId <;> simp

theorem contract_eq_ok {type : ContractType} {applicability : Applicability} {terms : TermSet}
    {contract : Contract} :
    type.contract applicability terms = .ok contract ↔
      ∃ applicable, (applicability.rowsOf type.identifier).mapM (·.term terms) = .ok applicable ∧
        contract = ⟨type, .ofList applicable⟩ := by
  simp only [ContractType.contract, bind_eq_ok, pure_eq_ok]

theorem mem_terms_of_contract_eq_ok {type : ContractType} {applicability : Applicability}
    {terms : TermSet} {contract : Contract}
    (built : type.contract applicability terms = .ok contract) {term : Term}
    (member : term ∈ contract.terms.toList) : term ∈ terms.toList := by
  obtain ⟨applicable, hterms, rfl⟩ := contract_eq_ok.1 built
  obtain ⟨row, -, hterm⟩ := exists_of_mapM_eq_ok hterms (EntitySet.mem_ofList.1 member)
  exact mem_of_get? (ApplicabilityRow.term_eq_ok.1 hterm)

/-- The contract has exactly the terms that the rows name, as the given terms have them. -/
structure Contract.FollowsRows (contract : Contract) (rows : List ApplicabilityRow)
    (terms : TermSet) : Prop where
  identifiers : contract.terms.identifiers = rows.map (·.termId)
  found : ∀ term ∈ contract.terms.toList, terms.get? (identifierOf term) = some term

/-- A contract follows the rows of its type, if these name each term once and in order. -/
theorem followsRows_of_contract_eq_ok {type : ContractType} {applicability : Applicability}
    {terms : TermSet} {contract : Contract}
    (increasing : ((applicability.rowsOf type.identifier).map (·.termId)).Pairwise (· < ·))
    (built : type.contract applicability terms = .ok contract) :
    contract.type = type ∧ contract.FollowsRows (applicability.rowsOf type.identifier) terms := by
  obtain ⟨applicable, hterms, rfl⟩ := contract_eq_ok.1 built
  have identifiers : applicable.map identifierOf =
      (applicability.rowsOf type.identifier).map (·.termId) :=
    map_eq_of_mapM_eq_ok hterms _ _ fun row _ term hterm =>
      identifierOf_of_get? (ApplicabilityRow.term_eq_ok.1 hterm)
  have kept : (EntitySet.ofList applicable).toList = applicable :=
    toList_ofList_of_pairwise (identifiers ▸ increasing)
  refine ⟨rfl, ?_, ?_⟩
  · rw [EntitySet.identifiers, kept, identifiers]
  · intro term member
    rw [kept] at member
    obtain ⟨row, -, hterm⟩ := exists_of_mapM_eq_ok hterms member
    have found := ApplicabilityRow.term_eq_ok.1 hterm
    rw [identifierOf_of_get? found]
    exact found

theorem map_type_of_mapM {types : List ContractType} {applicability : Applicability}
    {terms : TermSet} {contracts : List Contract}
    (built : types.mapM (·.contract applicability terms) = .ok contracts) :
    contracts.map Contract.type = types := by
  refine (map_eq_of_mapM_eq_ok built id Contract.type ?_).trans (List.map_id _)
  intro type _ contract own
  obtain ⟨-, -, rfl⟩ := contract_eq_ok.1 own
  rfl

theorem contractsOf_eq_ok {applicability : Applicability} {taxonomy : Taxonomy}
    {terms : TermSet} {contracts : ContractSet} :
    contractsOf applicability taxonomy terms = .ok contracts ↔
      (∀ identifier ∈ applicability.contractTypeIds, (taxonomy.get? identifier).isSome) ∧
      ∃ built, (taxonomy.toList.filter (!·.isExperimental)).mapM
        (·.contract applicability terms) = .ok built ∧ contracts = .ofList built := by
  unfold contractsOf
  cases missing : applicability.contractTypeIds.find? fun id => (taxonomy.get? id).isNone with
  | some identifier =>
      have absent := List.find?_some missing
      have named := List.mem_of_find?_eq_some missing
      constructor
      · intro h
        cases h
      · rintro ⟨known, -⟩
        have := known identifier named
        simp_all
  | none =>
      have known : ∀ identifier ∈ applicability.contractTypeIds,
          (taxonomy.get? identifier).isSome := by
        simpa [Option.isSome_iff_ne_none] using List.find?_eq_none.1 missing
      simp only [bind_eq_ok, pure_eq_ok, and_iff_right known]

/-- The contracts of the types other than the placeholder stay in the order of the types. -/
theorem toList_of_contractsOf_eq_ok {applicability : Applicability} {taxonomy : Taxonomy}
    {terms : TermSet} {contracts : ContractSet}
    (built : contractsOf applicability taxonomy terms = .ok contracts) :
    (taxonomy.toList.filter (!·.isExperimental)).mapM (·.contract applicability terms) =
      .ok contracts.toList := by
  obtain ⟨-, list, hlist, rfl⟩ := contractsOf_eq_ok.1 built
  rw [hlist]
  have types := map_type_of_mapM hlist
  have regular : ∀ contract ∈ list, (!contract.type.isExperimental) = true := by
    intro contract member
    have := List.mem_map_of_mem (f := Contract.type) member
    rw [types] at this
    exact (List.mem_filter.1 this).2
  have ordered : list.Pairwise (fun a b => a.acronym ≤ b.acronym) := by
    have := taxonomy.ordered.filter (!·.isExperimental)
    rw [← types, List.pairwise_map] at this
    exact this
  show Except.ok list = .ok (sortOn Contract.acronym (list.filter _))
  rw [List.filter_eq_self.2 regular, sortOn_of_pairwise ordered]

/-- The terms of all contracts of a dictionary are among its terms. -/
theorem mem_terms_of_buildsTo {document : Document} {dictionary : Dictionary}
    (built : document.BuildsTo dictionary) {contract : Contract}
    (listed : contract ∈ dictionary.contracts.toList) {term : Term}
    (member : term ∈ contract.terms.toList) : term ∈ dictionary.terms.toList := by
  have mapped := toList_of_contractsOf_eq_ok built.contracts
  obtain ⟨type, -, hcontract⟩ := exists_of_mapM_eq_ok mapped listed
  exact mem_terms_of_contract_eq_ok hcontract member

/--
The contracts are the contract types other than the placeholder in the order of the taxonomy, so
there are no more of them.  The terms of a contract are those that the rows of its type name and
that the document gives under the type, strictly in order, the reserved key not among them.
-/
theorem contracts_of_compile {document : Document} {dictionary : Dictionary}
    {warnings : List Warning} (compiled : document.compile = .ok ⟨dictionary, warnings⟩) :
    dictionary.contracts.toList.map Contract.type =
        dictionary.taxonomy.toList.filter (·.acronym != "EXOTi") ∧
      dictionary.contracts.size ≤ dictionary.taxonomy.size ∧
      ∀ contract ∈ dictionary.contracts.toList,
        contract.FollowsRows (dictionary.applicability.rowsOf contract.identifier)
          dictionary.terms ∧
        contract.terms.identifiers = document.termIds contract.identifier ∧
        reservedTermId ∉ contract.terms.identifiers ∧
        contract.terms.identifiers.Pairwise (· < ·) := by
  obtain ⟨normal, hnormal, built, -⟩ := compile_eq_ok_iff.1 compiled
  have rows (identifier : String) :
      (dictionary.applicability.rowsOf identifier).map (·.termId) =
        document.termIds identifier := by
    rw [built.applicability, map_termId_rowsOf, Document.termIds, Document.termIds,
      applicability_of_normalize hnormal]
  have increasing (identifier : String) :
      ((dictionary.applicability.rowsOf identifier).map (·.termId)).Pairwise (· < ·) :=
    rows identifier ▸ pairwise_termIds document identifier
  have mapped := toList_of_contractsOf_eq_ok built.contracts
  have types : dictionary.contracts.toList.map Contract.type =
      dictionary.taxonomy.toList.filter (!·.isExperimental) :=
    map_type_of_mapM mapped
  refine ⟨types, ?_, ?_⟩
  · have fewer := List.length_filter_le (!·.isExperimental) dictionary.taxonomy.toList
    rw [← types, List.length_map] at fewer
    exact fewer
  · intro contract member
    obtain ⟨type, -, hcontract⟩ := exists_of_mapM_eq_ok mapped member
    obtain ⟨rfl, follows⟩ := followsRows_of_contract_eq_ok (increasing type.identifier) hcontract
    have given : contract.terms.identifiers = document.termIds contract.identifier :=
      follows.identifiers.trans (rows contract.identifier)
    exact ⟨follows, given, given ▸ reservedTermId_not_mem_termIds document _,
      given ▸ pairwise_termIds document _⟩

/-- Two types of which one continues the other, with rows of one and the same sort key. -/
def continuedTypes : Document :=
  .plain [.plain "x" "Real" (some "1"), .plain "B|x" "Varchar" none]
    [.plain "ANN" "A", .plain "PAM" "A|B", .plain "EXOTi" "C"]
    [("A", ["B|x", "contract", "contractRole"]), ("A|B", ["x"])]

theorem contracts_of_continuedTypes :
    ∃ dictionary warnings, continuedTypes.compile = .ok ⟨dictionary, warnings⟩ ∧
      continuedTypes.termIds "A" = ["B|x", "contractRole"] ∧
      continuedTypes.termIds "A|B" = ["x"] ∧
      ∀ contract ∈ dictionary.contracts.toList,
        contract.terms.identifiers = continuedTypes.termIds contract.identifier := by
  obtain ⟨⟨dictionary, warnings⟩, compiled⟩ :=
    faultOf_eq_none.1 (show faultOf continuedTypes.compile = none by decide +kernel)
  have terms := (contracts_of_compile compiled).2.2
  exact ⟨dictionary, warnings, compiled, by decide +kernel, by decide +kernel,
    fun contract member => (terms contract member).2.1⟩

end ContractDictionary
