import ContractDictionary.Proofs.Compile.Contracts
import ContractDictionary.Proofs.Document.Entries
import ContractDictionary.Proofs.Model.StableSorting

/-!
# What a default leaves alone

Two documents that differ in the defaults of the terms with one identifier compile to dictionaries
that differ in the defaults of these terms and in the marks of their members.  To say so, the
defaults of these terms are dropped wherever the terms are: in the dictionary, in its contracts and
in its enumerations.
-/

namespace ContractDictionary

variable {identifier : String}

def Member.unmarked (member : Member) : Member :=
  { member with isDefault := none }

def AllowedValue.unmarked : AllowedValue → AllowedValue
  | .member found => .member found.unmarked
  | .scalar value => .scalar value

def Enumeration.dropDefault (identifier : String) (enumeration : Enumeration) : Enumeration :=
  if enumeration.identifier = identifier then
    { enumeration with
      members := enumeration.members.map Member.unmarked
      ordered := List.pairwise_map.2 enumeration.ordered }
  else
    enumeration

/-- Marks do not matter to the order of members. -/
theorem Enumeration.dropDefault_ofMembers {info : EntityInfo} (own : info.identifier = identifier)
    (members : List Member) :
    (ofMembers info members).dropDefault identifier =
      ofMembers info (members.map Member.unmarked) := by
  have sorted : sortMembers (members.map Member.unmarked) =
      (sortMembers members).map Member.unmarked := sortBy_map (fun _ _ => rfl) members
  have named : (ofMembers info members).identifier = identifier := own
  rw [dropDefault, if_pos named]
  simp only [ofMembers, sorted]

namespace Term

def dropDefault (identifier : String) (term : Term) : Term :=
  if term.identifier = identifier then
    { term with
      default := none
      allowedValues := term.allowedValues.map AllowedValue.unmarked }
  else
    term

theorem dropDefault_of_ne {term : Term} (other : term.identifier ≠ identifier) :
    term.dropDefault identifier = term :=
  if_neg other

@[simp]
theorem toEntityInfo_dropDefault (term : Term) :
    (term.dropDefault identifier).toEntityInfo = term.toEntityInfo := by
  unfold dropDefault
  split <;> rfl

@[simp]
theorem type_dropDefault (term : Term) : (term.dropDefault identifier).type = term.type := by
  unfold dropDefault
  split <;> rfl

theorem identifierOf_dropDefault (term : Term) :
    identifierOf (term.dropDefault identifier) = identifierOf term :=
  congrArg EntityInfo.identifier term.toEntityInfo_dropDefault

theorem asMember?_unmarked (value : AllowedValue) :
    value.unmarked.asMember? = value.asMember?.map Member.unmarked := by
  cases value <;> rfl

theorem members_dropDefault {term : Term} (own : term.identifier = identifier) :
    (term.dropDefault identifier).members = term.members.map Member.unmarked := by
  rw [dropDefault, if_pos own]
  unfold members
  change (if term.isEnumerated = true then _ else _) = _
  split
  · rw [List.filterMap_map, List.map_filterMap]
    exact List.filterMap_congr fun value _ => asMember?_unmarked value
  · rfl

/-- The enumeration of a term loses its marks with the term. -/
theorem asEnumeration?_dropDefault (term : Term) :
    (term.dropDefault identifier).asEnumeration? =
      term.asEnumeration?.map (Enumeration.dropDefault identifier) := by
  have typed : (term.dropDefault identifier).isEnumerated = term.isEnumerated := by
    unfold isEnumerated scalarType
    rw [type_dropDefault]
  rw [asEnumeration?, asEnumeration?, typed, toEntityInfo_dropDefault]
  split
  · by_cases own : term.identifier = identifier
    · rw [members_dropDefault own, Option.map_some, Enumeration.dropDefault_ofMembers own]
    · rw [dropDefault_of_ne own]
      exact congrArg some (if_neg own).symm
  · rfl

end Term

def TermSet.dropDefault (identifier : String) (terms : TermSet) : TermSet :=
  EntitySet.map (Term.dropDefault identifier) Term.identifierOf_dropDefault terms

def Contract.dropDefault (identifier : String) (contract : Contract) : Contract :=
  { contract with terms := contract.terms.dropDefault identifier }

def ContractSet.dropDefault (identifier : String) (contracts : ContractSet) : ContractSet :=
  ⟨contracts.toList.map (Contract.dropDefault identifier), List.pairwise_map.2 contracts.ordered⟩

def Dictionary.dropDefault (identifier : String) (dictionary : Dictionary) : Dictionary :=
  { dictionary with
    eventType := dictionary.eventType.dropDefault identifier
    referenceRole := dictionary.referenceRole.dropDefault identifier
    referenceType := dictionary.referenceType.dropDefault identifier
    contracts := dictionary.contracts.dropDefault identifier
    terms := dictionary.terms.dropDefault identifier }

theorem Contract.dropDefault_of_forall {contract : Contract}
    (others : ∀ term ∈ contract.terms.toList, term.identifier ≠ identifier) :
    contract.dropDefault identifier = contract := by
  have kept : contract.terms.dropDefault identifier = contract.terms :=
    EntitySet.eq_of_toList <| (List.map_congr_left fun term listed =>
      Term.dropDefault_of_ne (others term listed)).trans (List.map_id _)
  rw [dropDefault, kept]

theorem membersFrom_none (location : String) (default : Option String) (position : Nat)
    (values : List Json) :
    membersFrom location none position values =
      (membersFrom location default position values).map (List.map Member.unmarked) := by
  induction values generalizing position with
  | nil => rfl
  | cons value rest ih =>
      simp only [membersFrom, ih, Member.ofJson]
      cases (MemberRecord.ofJson value).mapError _ with
      | error fault => rfl
      | ok record =>
          cases membersFrom location default (position + 1) rest <;> rfl

theorem allowedValuesOf_none (location : String) (scalar : ScalarType) (default : Option String)
    (values : List Json) :
    allowedValuesOf location scalar none values =
      (allowedValuesOf location scalar default values).map (List.map AllowedValue.unmarked) := by
  cases scalar with
  | enumeration =>
      show (membersFrom location none 0 values).map _ =
        ((membersFrom location default 0 values).map _).map _
      rw [membersFrom_none location default]
      cases membersFrom location default 0 values with
      | error fault => rfl
      | ok members =>
          refine congrArg Except.ok ?_
          show (members.map Member.unmarked).map AllowedValue.member =
            (members.map AllowedValue.member).map AllowedValue.unmarked
          rw [List.map_map, List.map_map]
          rfl
  | _ =>
      refine congrArg Except.ok ?_
      rw [List.map_map]
      rfl

/-- The records are the same, or have the identifier and differ in the default alone. -/
def TermRecord.DiffersInDefault (identifier : String) (record record' : TermRecord) : Prop :=
  record' = record ∨
    record.identifier = identifier ∧ record' = { record with default := record'.default }

/-- The documents differ in the defaults of the terms with the identifier alone. -/
structure Document.DiffersInDefault (identifier : String) (document document' : Document) :
    Prop where
  others : document' = { document with terms := document'.terms }
  terms : document.terms.Related (TermRecord.DiffersInDefault identifier) document'.terms

/-- What a record compiles to, without the default and without marks. -/
theorem compileTerm_dropDefault {record : TermRecord} (own : record.identifier = identifier)
    (key : String) :
    (record.compile key).map (Term.dropDefault identifier) = do
      let type ← typeAt ("terms." ++ key) record.type
      let allowedValues ←
        allowedValuesOf ("terms." ++ key) type.scalar none record.allowedValues
      return {
        acronym := record.acronym
        description := dropLineFeeds (record.description.getD record.name)
        identifier := record.identifier
        name := record.name
        allowedValues
        default := none
        group := record.group
        type } := by
  simp only [TermRecord.compile]
  cases typeAt ("terms." ++ key) record.type with
  | error fault => rfl
  | ok type =>
      let default := record.default.map (TermDefault.ofText type.scalar)
      simp only [allowedValuesOf_none ("terms." ++ key) type.scalar (some (defaultAcronym default)),
        bind, Except.bind]
      cases allowedValuesOf ("terms." ++ key) type.scalar (some (defaultAcronym default))
          record.allowedValues with
      | error fault => rfl
      | ok allowed => exact congrArg Except.ok (if_pos own)

theorem compileTerm_of_differsInDefault {record record' : TermRecord}
    (differ : record.DiffersInDefault identifier record') (key : String) :
    (record'.compile key).map (Term.dropDefault identifier) =
      (record.compile key).map (Term.dropDefault identifier) := by
  obtain rfl | ⟨own, same⟩ := differ
  · rfl
  · have changed : ({ record with default := record'.default } : TermRecord).identifier =
        identifier := own
    rw [compileTerm_dropDefault own, same]
    exact compileTerm_dropDefault changed key

theorem TermRecord.DiffersInDefault.normalize {record record' : TermRecord}
    (differ : record.DiffersInDefault identifier record') (taxonomy : Keyed ContractTypeRecord)
    (key : String) :
    (record.normalize taxonomy key).DiffersInDefault identifier
      (record'.normalize taxonomy key) := by
  obtain rfl | ⟨own, same⟩ := differ
  · exact .inl rfl
  · refine .inr ⟨(identifier_normalize taxonomy key record).trans own, ?_⟩
    rw [same]
    unfold TermRecord.normalize
    split <;> split <;> rfl

theorem term_dropDefault (row : ApplicabilityRow) (terms : TermSet) :
    row.term (terms.dropDefault identifier) =
      (row.term terms).map (Term.dropDefault identifier) := by
  rw [ApplicabilityRow.term, ApplicabilityRow.term, TermSet.dropDefault, EntitySet.get?_map]
  cases terms.get? row.termId <;> rfl

theorem contract_dropDefault (type : ContractType) (applicability : Applicability)
    (terms : TermSet) :
    type.contract applicability (terms.dropDefault identifier) =
      (type.contract applicability terms).map (Contract.dropDefault identifier) := by
  rw [ContractType.contract, ContractType.contract]
  simp only [term_dropDefault, ← map_mapM]
  cases (applicability.rowsOf type.identifier).mapM (·.term terms) with
  | error fault => rfl
  | ok applicable =>
      refine congrArg (fun terms => Except.ok (Contract.mk type terms)) ?_
      exact (EntitySet.map_ofList Term.identifierOf_dropDefault applicable).symm

theorem ContractSet.dropDefault_ofList (contracts : List Contract) :
    (ofList contracts).dropDefault identifier =
      ofList (contracts.map (Contract.dropDefault identifier)) := by
  have kept : sortOn Contract.acronym ((contracts.map (Contract.dropDefault identifier)).filter
        fun contract => !contract.type.isExperimental) =
      (sortOn Contract.acronym (contracts.filter fun contract =>
        !contract.type.isExperimental)).map (Contract.dropDefault identifier) := by
    rw [List.filter_map]
    exact sortOn_map (fun _ => rfl) _
  simp only [dropDefault, ofList, kept]

/-- The contracts of terms without their defaults are the contracts without these. -/
theorem contractsOf_dropDefault (applicability : Applicability) (taxonomy : Taxonomy)
    (terms : TermSet) :
    contractsOf applicability taxonomy (terms.dropDefault identifier) =
      (contractsOf applicability taxonomy terms).map (ContractSet.dropDefault identifier) := by
  unfold contractsOf
  cases applicability.contractTypeIds.find? fun id => (taxonomy.get? id).isNone with
  | some missing => rfl
  | none =>
      simp only [contract_dropDefault, ← map_mapM]
      cases (taxonomy.toList.filter (!·.isExperimental)).mapM (·.contract applicability terms) with
      | error fault => rfl
      | ok contracts => exact congrArg Except.ok (ContractSet.dropDefault_ofList contracts).symm

theorem termEnumeration_of_differsInDefault {document document' : Document}
    (differ : document.DiffersInDefault identifier document') (key : String) :
    document'.termEnumeration key = document.termEnumeration key := by
  have found := Keyed.rel_get? differ.terms key
  unfold Document.termEnumeration
  generalize document.terms.get? key = record?, document'.terms.get? key = record?' at *
  cases found with
  | none => rfl
  | some differ =>
      obtain rfl | ⟨-, same⟩ := differ
      · rfl
      · rw [same]

theorem exists_normalize_of_differsInDefault {document document' : Document}
    (differ : document.DiffersInDefault identifier document') {normal : Document}
    (normalized : document.normalize = .ok normal) :
    ∃ normal', document'.normalize = .ok normal' ∧
      normal.DiffersInDefault identifier normal' := by
  have found := Keyed.rel_get? differ.terms contractTypeTerm
  rw [eq_of_normalize normalized]
  unfold Document.normalize at normalized ⊢
  generalize document.terms.get? contractTypeTerm = record? at found normalized
  generalize document'.terms.get? contractTypeTerm = record?' at found ⊢
  cases found with
  | none => cases normalized
  | some _ =>
      refine ⟨_, rfl, ?_, ?_⟩
      · rw [differ.others]
      · rw [differ.others]
        exact Keyed.map_related differ.terms fun key _ _ each => each.normalize _ key

theorem buildsTo_of_differsInDefault {document document' : Document}
    (differ : document.DiffersInDefault identifier document') {dictionary : Dictionary}
    (built : document.BuildsTo dictionary) :
    ∃ dictionary', document'.BuildsTo dictionary' ∧
      dictionary'.dropDefault identifier = dictionary.dropDefault identifier := by
  obtain ⟨terms, compiled, listed⟩ := built.terms
  have step : ∀ (entry entry' : String × TermRecord) (term : Term),
      (entry'.1 = entry.1 ∧ entry.2.DiffersInDefault identifier entry'.2) →
      entry.2.compile entry.1 = .ok term →
      ∃ term', entry'.2.compile entry'.1 = .ok term' ∧
        term'.dropDefault identifier = term.dropDefault identifier := by
    rintro entry entry' term ⟨key, each⟩ own
    rw [key]
    exact exists_ok_of_map_eq (compileTerm_of_differsInDefault each entry.1) own
  obtain ⟨terms', compiled', each⟩ := exists_of_steps step differ.terms (mapM_eq_ok.1 compiled)
  have dropped : TermSet.dropDefault identifier (.ofList terms') =
      dictionary.terms.dropDefault identifier := by
    have same := map_eq_of_related each (Term.dropDefault identifier)
      (Term.dropDefault identifier) fun _ _ both => both
    rw [listed, TermSet.dropDefault, TermSet.dropDefault, EntitySet.map_ofList,
      EntitySet.map_ofList, same]
  have contracts : (contractsOf dictionary.applicability dictionary.taxonomy
        (.ofList terms')).map (ContractSet.dropDefault identifier) =
      (contractsOf dictionary.applicability dictionary.taxonomy dictionary.terms).map
        (ContractSet.dropDefault identifier) := by
    rw [← contractsOf_dropDefault, ← contractsOf_dropDefault, dropped]
  obtain ⟨contracts', rebuilt, kept⟩ := exists_ok_of_map_eq contracts built.contracts
  refine ⟨{ dictionary with terms := .ofList terms', contracts := contracts' }, ?_, ?_⟩
  · have enumeration := termEnumeration_of_differsInDefault differ
    rw [differ.others] at enumeration ⊢
    exact { built with
      contractPerformance := (enumeration _).trans built.contractPerformance
      contractRole := (enumeration _).trans built.contractRole
      contractType := (enumeration _).trans built.contractType
      terms := ⟨terms', mapM_eq_ok.2 compiled', rfl⟩
      contracts := rebuilt }
  · rw [Dictionary.dropDefault, Dictionary.dropDefault, dropped, kept]

theorem compile_of_differsInDefault {document document' : Document}
    (differ : document.DiffersInDefault identifier document') {dictionary : Dictionary}
    {warnings : List Warning} (compiled : document.compile = .ok ⟨dictionary, warnings⟩) :
    ∃ dictionary' warnings', document'.compile = .ok ⟨dictionary', warnings'⟩ ∧
      dictionary'.dropDefault identifier = dictionary.dropDefault identifier := by
  obtain ⟨normal, normalized, built, -⟩ := compile_eq_ok_iff.1 compiled
  obtain ⟨normal', normalized', same⟩ := exists_normalize_of_differsInDefault differ normalized
  obtain ⟨dictionary', built', kept⟩ := buildsTo_of_differsInDefault same built
  exact ⟨dictionary', _, compile_eq_ok_iff.2 ⟨normal', normalized', built', rfl⟩, kept⟩

end ContractDictionary
