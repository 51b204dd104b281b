import ContractDictionary.Proofs.Compile.Validity

/-!
# Lists of allowed values

A document lists allowed values with its three enumerations, its terms and its states, and some of
the lists are read as members.  A document is valid if it is valid without any allowed values and
has nothing but members in those lists; the other lists have no part in it.
-/

namespace ContractDictionary

namespace Keyed

variable {α β : Type}

theorem get?_eq_some_iff {keyed : Keyed α} {key : String} {value : α} :
    keyed.get? key = some value ↔ (key, value) ∈ keyed.entries := by
  refine ⟨mem_of_lookup, lookup_of_mem ?_⟩
  rw [List.Nodup, List.pairwise_map]
  refine keyed.ordered.imp fun {first second} before same => ?_
  rw [same] at before
  exact String.lt_irrefl _ before

theorem forall_mem_values_iff {keyed : Keyed α} {holds : α → Prop} :
    (∀ value ∈ keyed.values, holds value) ↔
      ∀ key value, keyed.get? key = some value → holds value := by
  simp only [values, List.forall_mem_map, Prod.forall, get?_eq_some_iff]

theorem forall_mem_values_map_iff {keyed : Keyed α} {view : String → α → β} {holds : β → Prop} :
    (∀ value ∈ (keyed.map view).values, holds value) ↔
      ∀ key value, keyed.get? key = some value → holds (view key value) := by
  simp only [values_map, List.forall_mem_map, Prod.forall, get?_eq_some_iff]

theorem get?_modify_of_ne {keyed : Keyed α} {key other : String} {change : α → α}
    (apart : other ≠ key) : (keyed.modify key change).get? other = keyed.get? other := by
  rw [modify, get?_map]
  simp only [apart, if_false, Option.map_id']

/-- A change that a view does not show is not seen in a section that is viewed. -/
theorem map_modify {view : String → α → β} {change : α → α}
    (unseen : ∀ key value, view key (change value) = view key value) (keyed : Keyed α)
    (key : String) : (keyed.modify key change).map view = keyed.map view := by
  unfold modify map
  congr 1
  rw [List.map_map]
  refine List.map_congr_left fun entry _ => ?_
  dsimp only [Function.comp]
  split
  · rw [unseen]
  · rfl

end Keyed

/-- A place at which a document may list allowed values. -/
inductive ValuesPlace where
  | eventType
  | referenceRole
  | referenceType
  | term (key : String)
  | state (key : String)
  deriving DecidableEq

def ValuesPlace.path : ValuesPlace → String
  | eventType => "event.eventType"
  | referenceRole => "contractReference.role"
  | referenceType => "contractReference.type"
  | term key => "terms." ++ key
  | state key => "states." ++ key

def TermRecord.withValues (record : TermRecord) (values : List Json) : TermRecord :=
  { record with allowedValues := values }

def StateRecord.withValues (record : StateRecord) (values : List Json) : StateRecord :=
  { record with allowedValues := values }

def EnumerationRecord.withValues (record : EnumerationRecord) (values : List Json) :
    EnumerationRecord :=
  { record with allowedValues := values }

namespace Document

variable {document : Document} {place other : ValuesPlace}

/-- The allowed values that are listed at a place, if the document has it. -/
def valuesAt? (document : Document) : ValuesPlace → Option (List Json)
  | .eventType => some document.eventType.allowedValues
  | .referenceRole => some document.referenceRole.allowedValues
  | .referenceType => some document.referenceType.allowedValues
  | .term key => (document.terms.get? key).map TermRecord.allowedValues
  | .state key => (document.states.get? key).map StateRecord.allowedValues

theorem valuesAt?_term {key : String} {record : TermRecord}
    (declared : document.terms.get? key = some record) :
    document.valuesAt? (.term key) = some record.allowedValues := by
  rw [valuesAt?, declared]
  rfl

theorem valuesAt?_state {key : String} {record : StateRecord}
    (declared : document.states.get? key = some record) :
    document.valuesAt? (.state key) = some record.allowedValues := by
  rw [valuesAt?, declared]
  rfl

/-- The values at the place are read as members: those of an enumeration, of a term that is
compiled to one besides, and of an enumerated term or state. -/
def ListsMembers (document : Document) : ValuesPlace → Prop
  | .eventType | .referenceRole | .referenceType => True
  | .term key =>
      key ∈ ["contractType", "contractPerformance", "contractRole"] ∨
        ∃ record, document.terms.get? key = some record ∧ DeclaresEnumeration record.type
  | .state key =>
      ∃ record, document.states.get? key = some record ∧ DeclaresEnumeration record.type

/-- Nothing but members is listed where members are read. -/
def HoldsMembers (document : Document) : Prop :=
  ∀ place, document.ListsMembers place → ∀ values, document.valuesAt? place = some values →
    ∀ value ∈ values, IsMember value

/-- The document without any allowed values. -/
def withoutValues (document : Document) : Document :=
  { document with
    terms := document.terms.map fun _ term => term.withValues []
    states := document.states.map fun _ state => state.withValues []
    eventType := document.eventType.withValues []
    referenceRole := document.referenceRole.withValues []
    referenceType := document.referenceType.withValues [] }

/-- Which lists are read as members does not depend on what they list. -/
theorem listsMembers_withoutValues_iff :
    document.withoutValues.ListsMembers place ↔ document.ListsMembers place := by
  cases place with
  | term key =>
      simp only [ListsMembers, withoutValues, Keyed.get?_map, Option.map_eq_some_iff,
        exists_exists_and_eq_and]
      rfl
  | state key =>
      simp only [ListsMembers, withoutValues, Keyed.get?_map, Option.map_eq_some_iff,
        exists_exists_and_eq_and]
      rfl
  | _ => rfl

theorem listsMembers_congr {left right : Document}
    (same : left.withoutValues = right.withoutValues) :
    left.ListsMembers place ↔ right.ListsMembers place := by
  rw [← listsMembers_withoutValues_iff, same, listsMembers_withoutValues_iff]

/-- What is valid has nothing but members where they are read. -/
theorem holdsMembers_of_isValid (valid : document.IsValid) : document.HoldsMembers := by
  intro place lists values written
  have enumerations := valid.enumerations
  simp only [List.forall_mem_cons] at enumerations
  cases place with
  | eventType =>
      cases written
      exact enumerations.1
  | referenceRole =>
      cases written
      exact enumerations.2.1
  | referenceType =>
      cases written
      exact enumerations.2.2.1
  | term key =>
      obtain ⟨record, declared, rfl⟩ := Option.map_eq_some_iff.1 written
      obtain required | ⟨_, same, enumerates⟩ := lists
      · obtain ⟨_, same, members⟩ := valid.requiredTerms key required
        cases declared.symm.trans same
        exact members
      · cases declared.symm.trans same
        exact (Keyed.forall_mem_values_iff.1 valid.terms key record declared).members enumerates
  | state key =>
      obtain ⟨record, declared, rfl⟩ := Option.map_eq_some_iff.1 written
      obtain ⟨_, same, enumerates⟩ := lists
      cases declared.symm.trans same
      exact (Keyed.forall_mem_values_iff.1 valid.states key record declared).members enumerates

theorem isTyped_nil_iff {declaration : String} :
    IsTyped declaration [] ↔ ∃ type : DeclaredType, declaration = type.text := by
  simp [isTyped_iff_and]

theorem exists_identifier_withoutValues_iff {identifier : String} :
    (∃ term ∈ document.withoutValues.terms.values, term.identifier = identifier) ↔
      ∃ term ∈ document.terms.values, term.identifier = identifier := by
  rw [withoutValues, Keyed.values_map, Keyed.values]
  simp only [List.mem_map, exists_exists_and_eq_and]
  rfl

/-- A document that is valid remains so if all allowed values are left out. -/
theorem isValid_withoutValues (valid : document.IsValid) : document.withoutValues.IsValid where
  requiredTerms key required := by
    obtain ⟨record, declared, -⟩ := valid.requiredTerms key required
    refine ⟨record.withValues [], ?_, List.forall_mem_nil _⟩
    rw [withoutValues, Keyed.get?_map, declared]
    rfl
  eventType := valid.eventType
  enumerations := by
    simp only [List.forall_mem_cons]
    exact ⟨List.forall_mem_nil _, List.forall_mem_nil _, List.forall_mem_nil _,
      List.forall_mem_nil _⟩
  terms := Keyed.forall_mem_values_map_iff.2 fun key record declared =>
    isTyped_nil_iff.2 (Keyed.forall_mem_values_iff.1 valid.terms key record declared).declared
  states := Keyed.forall_mem_values_map_iff.2 fun key record declared =>
    isTyped_nil_iff.2 (Keyed.forall_mem_values_iff.1 valid.states key record declared).declared
  statuses := valid.statuses
  contractTypes := valid.contractTypes
  applicableTerms record listed regular termId given :=
    exists_identifier_withoutValues_iff.2
      (valid.applicableTerms record listed regular termId given)
  versionDate := valid.versionDate

/-- What is valid without allowed values is so with them, if it holds members. -/
theorem isValid_of_holdsMembers (valid : document.withoutValues.IsValid)
    (holds : document.HoldsMembers) : document.IsValid where
  requiredTerms key required := by
    obtain ⟨_, declared, -⟩ := valid.requiredTerms key required
    rw [withoutValues, Keyed.get?_map, Option.map_eq_some_iff] at declared
    obtain ⟨record, declared, -⟩ := declared
    exact ⟨record, declared, holds (.term key) (.inl required) _ (valuesAt?_term declared)⟩
  eventType := valid.eventType
  enumerations := by
    simp only [List.forall_mem_cons]
    exact ⟨holds .eventType trivial _ rfl, holds .referenceRole trivial _ rfl,
      holds .referenceType trivial _ rfl, List.forall_mem_nil _⟩
  terms := Keyed.forall_mem_values_iff.2 fun key record declared => {
    declared := (Keyed.forall_mem_values_map_iff.1 valid.terms key record declared).declared
    members := fun enumerates =>
      holds (.term key) (.inr ⟨record, declared, enumerates⟩) _ (valuesAt?_term declared) }
  states := Keyed.forall_mem_values_iff.2 fun key record declared => {
    declared := (Keyed.forall_mem_values_map_iff.1 valid.states key record declared).declared
    members := fun enumerates =>
      holds (.state key) ⟨record, declared, enumerates⟩ _ (valuesAt?_state declared) }
  statuses := valid.statuses
  contractTypes := valid.contractTypes
  applicableTerms record listed regular termId given :=
    exists_identifier_withoutValues_iff.1
      (valid.applicableTerms record listed regular termId given)
  versionDate := valid.versionDate

/-- A document is valid if it is so without allowed values, and holds members where they are
read. -/
theorem isValid_iff_withoutValues (document : Document) :
    document.IsValid ↔ document.withoutValues.IsValid ∧ document.HoldsMembers :=
  ⟨fun valid => ⟨isValid_withoutValues valid, holdsMembers_of_isValid valid⟩,
    fun ⟨valid, holds⟩ => isValid_of_holdsMembers valid holds⟩

def changeValues (document : Document) (change : List Json → List Json) : ValuesPlace → Document
  | .eventType =>
      { document with
        eventType := document.eventType.withValues (change document.eventType.allowedValues) }
  | .referenceRole =>
      { document with
        referenceRole :=
          document.referenceRole.withValues (change document.referenceRole.allowedValues) }
  | .referenceType =>
      { document with
        referenceType :=
          document.referenceType.withValues (change document.referenceType.allowedValues) }
  | .term key =>
      { document with
        terms := document.terms.modify key fun term => term.withValues (change term.allowedValues) }
  | .state key =>
      { document with
        states :=
          document.states.modify key fun state => state.withValues (change state.allowedValues) }

variable {change : List Json → List Json}

theorem withoutValues_changeValues :
    (document.changeValues change place).withoutValues = document.withoutValues := by
  cases place with
  | term key =>
      have same : (document.terms.modify key fun term =>
          term.withValues (change term.allowedValues)).map (fun _ term => term.withValues []) =
          document.terms.map fun _ term => term.withValues [] :=
        Keyed.map_modify (by intros; rfl) _ _
      exact congrArg (fun terms => { document.withoutValues with terms }) same
  | state key =>
      have same : (document.states.modify key fun state =>
          state.withValues (change state.allowedValues)).map (fun _ state => state.withValues []) =
          document.states.map fun _ state => state.withValues [] :=
        Keyed.map_modify (by intros; rfl) _ _
      exact congrArg (fun states => { document.withoutValues with states }) same
  | _ => rfl

/-- A change at one place leaves the values at the others alone. -/
theorem valuesAt?_changeValues_of_ne (apart : other ≠ place) :
    (document.changeValues change place).valuesAt? other = document.valuesAt? other := by
  cases place with
  | term key =>
      cases other with
      | term key' =>
          have other : key' ≠ key := fun same => apart (congrArg ValuesPlace.term same)
          rw [changeValues, valuesAt?, Keyed.get?_modify_of_ne other]
          rfl
      | _ => rfl
  | state key =>
      cases other with
      | state key' =>
          have other : key' ≠ key := fun same => apart (congrArg ValuesPlace.state same)
          rw [changeValues, valuesAt?, Keyed.get?_modify_of_ne other]
          rfl
      | _ => rfl
  | _ => cases other <;> first | rfl | exact absurd rfl apart

end Document

end ContractDictionary
