import ContractDictionary.Proofs.Compile.Contracts
import ContractDictionary.Proofs.Document.Members
import Mathlib.Tactic.MkIffOfInductiveProp

/-!
# Sections that compile

When the parts of a document compile: an enumeration, a term, a state, a contract type and the
contracts, each in terms of what the document writes.
-/

namespace ContractDictionary

theorem ScalarType.ofName_eq_ok_iff {name : String} {scalar : ScalarType} :
    ScalarType.ofName name = .ok scalar ↔ name = scalar.name := by
  unfold ScalarType.ofName
  constructor
  · intro read
    split at read
    · next found =>
        cases read
        have named := List.find?_some found
        rw [beq_iff_eq] at named
        exact named.symm
    · cases read
  · rintro rfl
    rw [ScalarType.ofName?_name]

/-- The declaration of a type: the name of the scalar type, with a mark for an array. -/
def DeclaredType.text (type : DeclaredType) : String :=
  if type.isArray then type.scalar.name ++ DeclaredType.arrayMark else type.scalar.name

theorem elementName?_append (element : String) :
    DeclaredType.elementName? (element ++ DeclaredType.arrayMark) = some element := by
  have marked : DeclaredType.arrayMark.toList.isSuffixOf
      (element.toList ++ DeclaredType.arrayMark.toList) = true :=
    List.isSuffixOf_iff_suffix.2 (List.suffix_append _ _)
  simp only [DeclaredType.elementName?, String.toList_append]
  rw [if_pos marked, List.length_append, String.length_toList, String.length_toList,
    Nat.add_sub_cancel, ← String.length_toList, List.take_left, String.ofList_toList]

/-- Only what ends in the mark of an array has the name of an element. -/
theorem eq_append_of_elementName? {declaration element : String}
    (found : DeclaredType.elementName? declaration = some element) :
    declaration = element ++ DeclaredType.arrayMark := by
  simp only [DeclaredType.elementName?] at found
  split at found
  · next marked =>
      cases found
      obtain ⟨front, whole⟩ := List.isSuffixOf_iff_suffix.1 marked
      rw [← String.toList_inj, String.toList_append, String.toList_ofList, ← whole,
        List.length_append, String.length_toList, Nat.add_sub_cancel, List.take_left' rfl]
  · cases found

theorem elementName?_name (scalar : ScalarType) :
    DeclaredType.elementName? scalar.name = none := by
  cases scalar <;> decide

/-- A type is read from its declaration and from no other text. -/
theorem ofText_eq_ok_iff {declaration : String} {type : DeclaredType} :
    DeclaredType.ofText declaration = .ok type ↔ declaration = type.text := by
  constructor
  · intro read
    unfold DeclaredType.ofText at read
    split at read
    · next element found =>
        obtain ⟨scalar, hscalar, rfl⟩ := map_eq_ok.1 read
        rw [eq_append_of_elementName? found, ScalarType.ofName_eq_ok_iff.1 hscalar]
        rfl
    · obtain ⟨scalar, hscalar, rfl⟩ := map_eq_ok.1 read
      exact ScalarType.ofName_eq_ok_iff.1 hscalar
  · rintro rfl
    obtain ⟨scalar, isArray⟩ := type
    cases isArray with
    | true =>
        show DeclaredType.ofText (scalar.name ++ DeclaredType.arrayMark) = _
        rw [DeclaredType.ofText, elementName?_append]
        exact map_eq_ok.2 ⟨scalar, ScalarType.ofName_eq_ok_iff.2 rfl, rfl⟩
    | false =>
        show DeclaredType.ofText scalar.name = _
        rw [DeclaredType.ofText, elementName?_name]
        exact map_eq_ok.2 ⟨scalar, ScalarType.ofName_eq_ok_iff.2 rfl, rfl⟩

def DeclaresEnumeration (declaration : String) : Prop :=
  declaration = "Enum" ∨ declaration = "Enum[]"

instance (declaration : String) : Decidable (DeclaresEnumeration declaration) :=
  inferInstanceAs (Decidable (_ ∨ _))

theorem declaresEnumeration_text_iff {type : DeclaredType} :
    DeclaresEnumeration type.text ↔ type.scalar = .enumeration := by
  obtain ⟨scalar, isArray⟩ := type
  unfold DeclaresEnumeration
  cases scalar <;> cases isArray <;> decide

/-- The declaration is that of a type, and the values for an enumerated type are members. -/
@[mk_iff isTyped_iff_and]
structure IsTyped (declaration : String) (values : List Json) : Prop where
  declared : ∃ type : DeclaredType, declaration = type.text
  members : DeclaresEnumeration declaration → ∀ value ∈ values, IsMember value

/-- The member that a record declares; `default` is the acronym of the default. -/
def MemberRecord.member (default : Option String) (record : MemberRecord) : Member where
  identifier := record.identifier
  name := record.name
  acronym := record.acronym
  description := record.description
  option := record.option
  isDefault := default.map (record.acronym == ·)

theorem memberOfJson_eq_ok {location : String} {default : Option String} {value : Json}
    {member : Member} :
    Member.ofJson location default value = .ok member ↔
      ∃ record, MemberRecord.ofJson value = .ok record ∧ member = record.member default := by
  simp only [Member.ofJson, bind_eq_ok, pure_eq_ok, mapError_eq_ok]
  rfl

theorem membersFrom_eq_ok {location : String} {default : Option String} {position : Nat}
    {values : List Json} {members : List Member} :
    membersFrom location default position values = .ok members ↔
      ∃ records, values.mapM MemberRecord.ofJson = .ok records ∧
        members = records.map (·.member default) := by
  induction values generalizing position members with
  | nil =>
      constructor
      · rintro ⟨⟩
        exact ⟨[], rfl, rfl⟩
      · rintro ⟨_, ⟨⟩, rfl⟩
        rfl
  | cons value rest ih =>
      simp only [membersFrom, List.mapM_cons, bind_eq_ok, pure_eq_ok, memberOfJson_eq_ok, ih]
      constructor
      · rintro ⟨_, ⟨record, own, rfl⟩, _, ⟨records, others, rfl⟩, rfl⟩
        exact ⟨record :: records, ⟨record, own, records, others, rfl⟩, rfl⟩
      · rintro ⟨_, ⟨record, own, records, others, rfl⟩, rfl⟩
        exact ⟨_, ⟨record, own, rfl⟩, _, ⟨records, others, rfl⟩, rfl⟩

/-- Allowed values declare the members that they are read as. -/
theorem membersOf_eq_ok {location : String} {default : Option String} {values : List Json}
    {members : List Member} :
    membersOf location default values = .ok members ↔
      ∃ records, values.mapM MemberRecord.ofJson = .ok records ∧
        members = records.map (·.member default) :=
  membersFrom_eq_ok

theorem exists_member_iff (location : String) (default : Option String) {value : Json} :
    (∃ member, Member.ofJson location default value = .ok member) ↔ IsMember value := by
  unfold Member.ofJson IsMember
  simp only [exists_bind_iff, exists_pure, and_true, mapError_eq_ok]

theorem exists_membersFrom_iff (location : String) (default : Option String) (position : Nat)
    {values : List Json} :
    (∃ members, membersFrom location default position values = .ok members) ↔
      ∀ value ∈ values, IsMember value := by
  induction values generalizing position with
  | nil => simp [membersFrom]
  | cons value rest ih =>
      rw [membersFrom, List.forall_mem_cons, ← ih (position + 1),
        ← exists_member_iff (location ++ ".allowedValues[" ++ toString position ++ "]") default]
      simp only [exists_bind_iff, exists_pure, and_true, exists_and_right]

/-- Allowed values declare members if each of them is one. -/
theorem exists_membersOf_iff (location : String) (default : Option String) {values : List Json} :
    (∃ members, membersOf location default values = .ok members) ↔
      ∀ value ∈ values, IsMember value :=
  exists_membersFrom_iff location default 0

theorem exists_compileEnumeration_iff {location : String} {record : EnumerationRecord} :
    (∃ enumeration, record.compile location = .ok enumeration) ↔
      (record.identifier.isSome = true ∧ ∀ value ∈ record.allowedValues, IsMember value) := by
  rw [← exists_membersOf_iff location none, EnumerationRecord.compile]
  cases record.identifier with
  | none => simp
  | some identifier =>
      simp only [exists_bind_iff, exists_pure, and_true, Option.isSome_some, true_and]

theorem exists_termEnumeration_iff {document : Document} {key : String} :
    (∃ enumeration, document.termEnumeration key = .ok enumeration) ↔
      ∃ record, document.terms.get? key = some record ∧
        ∀ value ∈ record.allowedValues, IsMember value := by
  unfold Document.termEnumeration
  cases document.terms.get? key with
  | none => simp
  | some record =>
      simp only [exists_bind_iff, exists_pure, and_true, Option.some.injEq, exists_eq_left',
        ← exists_membersOf_iff ("terms." ++ key) none]

theorem typeAt_eq_ok_iff {location declaration : String} {type : DeclaredType} :
    typeAt location declaration = .ok type ↔ declaration = type.text := by
  rw [typeAt, mapError_eq_ok, ofText_eq_ok_iff]

theorem exists_allowedValuesOf_iff {location : String} {scalar : ScalarType}
    {default : Option String} {values : List Json} :
    (∃ allowed, allowedValuesOf location scalar default values = .ok allowed) ↔
      (scalar = .enumeration → ∀ value ∈ values, IsMember value) := by
  cases scalar with
  | enumeration =>
      simp only [allowedValuesOf, exists_map_iff, forall_const, exists_membersOf_iff]
  | _ => simp [allowedValuesOf]

/-- A type and allowed values compile if the declaration is typed; the default does not matter. -/
theorem isTyped_iff (location : String) (default : DeclaredType → Option String)
    {declaration : String} {values : List Json} :
    IsTyped declaration values ↔ ∃ type, typeAt location declaration = .ok type ∧
      ∃ allowed, allowedValuesOf location type.scalar (default type) values = .ok allowed := by
  simp only [exists_allowedValuesOf_iff, typeAt_eq_ok_iff]
  constructor
  · rintro ⟨⟨type, rfl⟩, members⟩
    exact ⟨type, rfl, fun enumerated => members (declaresEnumeration_text_iff.2 enumerated)⟩
  · rintro ⟨type, rfl, members⟩
    exact ⟨⟨type, rfl⟩, fun enumerated => members (declaresEnumeration_text_iff.1 enumerated)⟩

theorem exists_compileTerm_iff {key : String} {record : TermRecord} :
    (∃ term, record.compile key = .ok term) ↔ IsTyped record.type record.allowedValues := by
  rw [isTyped_iff ("terms." ++ key) fun type =>
    some (defaultAcronym (record.default.map (TermDefault.ofText type.scalar))),
    TermRecord.compile]
  simp only [exists_bind_iff, exists_pure, and_true]

theorem exists_compileState_iff {key : String} {record : StateRecord} :
    (∃ state, record.compile key = .ok state) ↔ IsTyped record.type record.allowedValues := by
  rw [isTyped_iff ("states." ++ key) fun _ => none, StateRecord.compile]
  simp only [exists_bind_iff, exists_pure, and_true]

theorem PublicationStatus.ofName_eq_ok_iff {name : String} {status : PublicationStatus} :
    PublicationStatus.ofName name = .ok status ↔ name = status.name := by
  unfold PublicationStatus.ofName
  constructor
  · intro read
    split at read
    · next found =>
        cases read
        have named := List.find?_some found
        rw [beq_iff_eq] at named
        exact named.symm
    · cases read
  · rintro rfl
    cases status <;> rfl

theorem exists_compileContractType_iff {key : String} {record : ContractTypeRecord} :
    (∃ type, record.compile key = .ok type) ↔
      ∀ name, record.status = some name → ∃ status : PublicationStatus, name = status.name := by
  unfold ContractTypeRecord.compile statusAt
  cases record.status with
  | none => simp
  | some name =>
      simp only [exists_bind_iff, exists_pure, and_true, mapError_eq_ok,
        PublicationStatus.ofName_eq_ok_iff, Option.some.injEq, forall_eq']

section

variable {α β γ : Type}

theorem exists_compileSection_iff (compiles : α → Prop)
    {compile : String → α → Except CompileError β} (each : ∀ key record,
      (∃ result, compile key record = .ok result) ↔ compiles record) {keyed : Keyed α} :
    (∃ results, compileSection compile keyed = .ok results) ↔
      ∀ record ∈ keyed.values, compiles record := by
  unfold compileSection
  rw [exists_mapM_iff]
  constructor
  · intro succeed record member
    obtain ⟨entry, listed, rfl⟩ := Keyed.mem_values.1 member
    exact (each entry.1 entry.2).1 (succeed entry listed)
  · intro succeed entry listed
    exact (each entry.1 entry.2).2 (succeed entry.2 (Keyed.mem_values.2 ⟨entry, listed, rfl⟩))

theorem exists_compileTerms_iff {terms : Keyed TermRecord} :
    (∃ results, compileSection TermRecord.compile terms = .ok results) ↔
      ∀ record ∈ terms.values, IsTyped record.type record.allowedValues :=
  exists_compileSection_iff (fun record : TermRecord => IsTyped record.type record.allowedValues)
    fun _ _ => exists_compileTerm_iff

theorem exists_compileStates_iff {states : Keyed StateRecord} :
    (∃ results, compileSection StateRecord.compile states = .ok results) ↔
      ∀ record ∈ states.values, IsTyped record.type record.allowedValues :=
  exists_compileSection_iff (fun record : StateRecord => IsTyped record.type record.allowedValues)
    fun _ _ => exists_compileState_iff

theorem exists_compileTaxonomy_iff {taxonomy : Keyed ContractTypeRecord} :
    (∃ results, compileSection ContractTypeRecord.compile taxonomy = .ok results) ↔
      ∀ record ∈ taxonomy.values, ∀ name, record.status = some name →
        ∃ status : PublicationStatus, name = status.name :=
  exists_compileSection_iff
    (fun record : ContractTypeRecord => ∀ name, record.status = some name →
      ∃ status : PublicationStatus, name = status.name)
    fun _ _ => exists_compileContractType_iff

/-- What compiling a record leaves alone is the same in a whole section. -/
theorem map_of_compileSection {compile : String → α → Except CompileError β} {keyed : Keyed α}
    {results : List β} (compiled : compileSection compile keyed = .ok results)
    (before : α → γ) (after : β → γ)
    (carried : ∀ key record result, compile key record = .ok result →
      after result = before record) :
    results.map after = keyed.values.map before := by
  have kept := map_eq_of_mapM_eq_ok compiled (fun entry => before entry.2) after
    fun entry _ result => carried entry.1 entry.2 result
  rw [kept, Keyed.values, List.map_map]
  rfl

end

theorem exists_get?_iff {α : Type} [Entity α] {set : EntitySet α} {identifier : String} :
    (∃ entity, set.get? identifier = some entity) ↔ identifier ∈ set.identifiers := by
  rw [← Option.isSome_iff_exists, EntitySet.get?, List.find?_isSome, EntitySet.identifiers,
    List.mem_map]
  simp only [beq_iff_eq]

theorem identifier_of_compileTerm {key : String} {record : TermRecord} {term : Term}
    (compiled : record.compile key = .ok term) : identifierOf term = record.identifier := by
  simp only [TermRecord.compile, bind_eq_ok, pure_eq_ok] at compiled
  obtain ⟨type, -, allowed, -, rfl⟩ := compiled
  rfl

theorem type_of_compileTerm {key : String} {record : TermRecord} {term : Term}
    (compiled : record.compile key = .ok term) : record.type = term.type.text := by
  simp only [TermRecord.compile, bind_eq_ok, pure_eq_ok, typeAt_eq_ok_iff] at compiled
  obtain ⟨type, declared, allowed, -, rfl⟩ := compiled
  exact declared

/-- A term is found under an identifier if the document declares one with it. -/
theorem exists_term_iff {document : Document} {terms : List Term}
    (compiled : compileSection TermRecord.compile document.terms = .ok terms)
    {identifier : String} :
    (∃ term, (EntitySet.ofList terms).get? identifier = some term) ↔
      ∃ record ∈ document.terms.values, record.identifier = identifier := by
  have identifiers := map_of_compileSection compiled TermRecord.identifier identifierOf
    fun _ _ _ => identifier_of_compileTerm
  have sorted : identifier ∈ (EntitySet.ofList terms).identifiers ↔
      identifier ∈ terms.map identifierOf :=
    ((EntitySet.toList_ofList_perm terms).map identifierOf).mem_iff
  rw [exists_get?_iff, sorted, identifiers, List.mem_map]

theorem naming_of_compileContractType {key : String} {record : ContractTypeRecord}
    {type : ContractType} (compiled : record.compile key = .ok type) :
    (type.identifier, type.acronym) = (record.identifier, record.acronym) := by
  simp only [ContractTypeRecord.compile, bind_eq_ok, pure_eq_ok] at compiled
  obtain ⟨status, -, rfl⟩ := compiled
  rfl

/-- Identifiers and acronyms of contract types are those that the document declares. -/
theorem forall_type_iff (holds : String → String → Prop) {document : Document}
    {types : List ContractType}
    (compiled : compileSection ContractTypeRecord.compile document.taxonomy = .ok types) :
    (∀ type ∈ (Taxonomy.ofList types).toList, holds type.identifier type.acronym) ↔
      ∀ record ∈ document.taxonomy.values, holds record.identifier record.acronym := by
  have namings := map_of_compileSection compiled
    (fun record => (record.identifier, record.acronym))
    (fun type => (type.identifier, type.acronym)) fun _ _ _ => naming_of_compileContractType
  have sorted : (∀ type ∈ (Taxonomy.ofList types).toList, holds type.identifier type.acronym) ↔
      ∀ naming ∈ types.map fun type => (type.identifier, type.acronym),
        holds naming.1 naming.2 := by
    rw [List.forall_mem_map]
    simp only [Taxonomy.ofList, mem_sortOn]
  rw [sorted, namings, List.forall_mem_map]

/-- A contract type is found under an identifier if the document declares one with it. -/
theorem isSome_type_iff {document : Document} {types : List ContractType}
    (compiled : compileSection ContractTypeRecord.compile document.taxonomy = .ok types)
    {identifier : String} :
    ((Taxonomy.ofList types).get? identifier).isSome = true ↔
      ∃ record ∈ document.taxonomy.values, record.identifier = identifier := by
  have absent := forall_type_iff (fun own _ => own ≠ identifier) compiled
  rw [Taxonomy.get?, List.find?_isSome]
  simpa using not_congr absent

theorem mem_contractTypeIds {applicability : Applicability} {identifier : String} :
    identifier ∈ applicability.contractTypeIds ↔
      ∃ row ∈ applicability.rows, row.contractTypeId = identifier := by
  rw [Applicability.contractTypeIds, mem_dropRepeats, List.mem_map]

theorem exists_contract_iff {type : ContractType} {applicability : Applicability}
    {terms : TermSet} :
    (∃ contract, type.contract applicability terms = .ok contract) ↔
      ∀ row ∈ applicability.rowsOf type.identifier, ∃ term, terms.get? row.termId = some term := by
  simp only [← ApplicabilityRow.term_eq_ok, ← exists_mapM_iff, ContractType.contract,
    exists_bind_iff, exists_pure, and_true]

/--
Contracts can be built if the type of every row is known and, for the types that are no
placeholder, the term of every row of theirs.
-/
theorem exists_contractsOf_iff {applicability : Applicability} {taxonomy : Taxonomy}
    {terms : TermSet} :
    (∃ contracts, contractsOf applicability taxonomy terms = .ok contracts) ↔
      (∀ row ∈ applicability.rows, (taxonomy.get? row.contractTypeId).isSome) ∧
      ∀ type ∈ taxonomy.toList, type.isExperimental = false →
        ∀ row ∈ applicability.rowsOf type.identifier,
          ∃ term, terms.get? row.termId = some term := by
  simp only [contractsOf_eq_ok, mem_contractTypeIds, ← exists_contract_iff]
  have built : (∃ contracts, (taxonomy.toList.filter (!·.isExperimental)).mapM
      (·.contract applicability terms) = .ok contracts) ↔
      ∀ type ∈ taxonomy.toList, type.isExperimental = false →
        ∃ contract, type.contract applicability terms = .ok contract := by
    rw [exists_mapM_iff]
    simp only [List.mem_filter, Bool.not_eq_true', and_imp]
  rw [← built]
  constructor
  · rintro ⟨_, known, contracts, hcontracts, -⟩
    exact ⟨fun row member => known _ ⟨row, member, rfl⟩, contracts, hcontracts⟩
  · rintro ⟨known, contracts, hcontracts⟩
    refine ⟨_, ?_, contracts, hcontracts, rfl⟩
    rintro _ ⟨row, member, rfl⟩
    exact known row member

end ContractDictionary
