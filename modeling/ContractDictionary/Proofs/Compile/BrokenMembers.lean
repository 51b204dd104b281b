import ContractDictionary.Proofs.Compile.AllowedValues

/-!
# Values that are no members

A document with allowed values that are no members, and with no other fault, does not compile, and
the error names the first such value by its position in the list as it is written: what the normal
form adds to a list stands behind the values that are written, and what it repairs keeps its fault.
Where no members are read, allowed values of any kind are let through.
-/

namespace ContractDictionary

instance : DecidablePred IsMember := fun value =>
  decidable_of_iff (faultOf (MemberRecord.ofJson value) = none) faultOf_eq_none

theorem not_isMember {value : Json} {fault : ReadFault}
    (broken : MemberRecord.ofJson value = .error fault) : ¬IsMember value := by
  rintro ⟨member, read⟩
  cases read.symm.trans broken

/-- The value at the position has the fault and is the first in the list that is no member. -/
structure FirstBroken (values : List Json) (position : Nat) (fault : ReadFault) : Prop where
  before : ∀ value ∈ values.take position, IsMember value
  broken : ∃ value, values[position]? = some value ∧ MemberRecord.ofJson value = .error fault

namespace FirstBroken

variable {value : Json} {values added : List Json} {position : Nat} {fault : ReadFault}

theorem head (broken : MemberRecord.ofJson value = .error fault) :
    FirstBroken (value :: values) 0 fault where
  before := List.forall_mem_nil _
  broken := ⟨value, rfl, broken⟩

theorem cons (member : IsMember value) (first : FirstBroken values position fault) :
    FirstBroken (value :: values) (position + 1) fault where
  before := List.forall_mem_cons.2 ⟨member, first.before⟩
  broken := first.broken

theorem not_holds (first : FirstBroken values position fault) :
    ¬∀ value ∈ values, IsMember value := by
  intro members
  obtain ⟨value, found, broken⟩ := first.broken
  exact not_isMember broken (members value (List.mem_of_getElem? found))

/-- No value before the first broken one is broken. -/
theorem le {position' : Nat} {fault' : ReadFault} (first : FirstBroken values position fault)
    (first' : FirstBroken values position' fault') : position ≤ position' := by
  by_contra later
  obtain ⟨value, found, broken⟩ := first'.broken
  have listed : value ∈ values.take position := by
    apply List.mem_of_getElem?
    rw [List.getElem?_take_of_lt (Nat.lt_of_not_le later)]
    exact found
  exact not_isMember broken (first.before value listed)

/-- A list has one first broken value. -/
theorem unique {position' : Nat} {fault' : ReadFault} (first : FirstBroken values position fault)
    (first' : FirstBroken values position' fault') : position = position' ∧ fault = fault' := by
  obtain rfl := Nat.le_antisymm (first.le first') (first'.le first)
  obtain ⟨value, found, broken⟩ := first.broken
  obtain ⟨value', found', broken'⟩ := first'.broken
  cases found.symm.trans found'
  cases broken.symm.trans broken'
  exact ⟨rfl, rfl⟩

/-- Members that are added behind some values do not hide the first broken one of these. -/
theorem of_append (members : ∀ value ∈ added, IsMember value)
    (first : FirstBroken (values ++ added) position fault) : FirstBroken values position fault := by
  obtain ⟨value, found, broken⟩ := first.broken
  have inside : position < values.length := by
    by_contra outside
    rw [List.getElem?_append_right (Nat.le_of_not_lt outside)] at found
    exact not_isMember broken (members value (List.mem_of_getElem? found))
  constructor
  case before =>
    intro value listed
    apply first.before
    rwa [List.take_append_of_le_length (Nat.le_of_lt inside)]
  case broken =>
    rw [List.getElem?_append_left inside] at found
    exact ⟨value, found, broken⟩

/-- The repair of acronyms leaves the first broken value where it is, with its fault. -/
theorem of_map_repairValue (first : FirstBroken (values.map repairValue) position fault) :
    FirstBroken values position fault := by
  obtain ⟨repaired, found, broken⟩ := first.broken
  rw [List.getElem?_map, Option.map_eq_some_iff] at found
  obtain ⟨value, found, rfl⟩ := found
  constructor
  case before =>
    intro value listed
    apply isMember_repairValue_iff.1
    apply first.before
    rw [← List.map_take]
    exact List.mem_map_of_mem listed
  case broken =>
    refine ⟨value, found, faultOf_eq_some.1 ?_⟩
    rw [← faultOf_ofJson_repairValue, broken]
    rfl

end FirstBroken

/-- What the normal form does to the values of a term leaves the first broken one in its place. -/
theorem firstBroken_of_normalize {taxonomy : Keyed ContractTypeRecord} {key : String}
    {record : TermRecord} {position : Nat} {fault : ReadFault}
    (first : FirstBroken (record.normalize taxonomy key).allowedValues position fault) :
    FirstBroken record.allowedValues position fault := by
  unfold TermRecord.normalize at first
  split at first <;> split at first
  · exact (first.of_map_repairValue).of_append isMember_syntheticMembers
  · exact first.of_append isMember_syntheticMembers
  · exact first.of_map_repairValue
  · exact first

/-- The values from a position on fail at the first broken one, which is counted from there. -/
theorem membersFrom_eq_error {location : String} {default : Option String} {start : Nat}
    {values : List Json} {error : CompileError}
    (failed : membersFrom location default start values = .error error) :
    ∃ position fault, FirstBroken values position fault ∧
      error = .invalidMember
        (location ++ ".allowedValues[" ++ toString (start + position) ++ "]") fault := by
  induction values generalizing start with
  | nil => cases failed
  | cons value rest ih =>
      rw [membersFrom] at failed
      rcases bind_eq_error.1 failed with broken | ⟨member, read, failed⟩
      · obtain ⟨fault, own, rfl⟩ := mapError_eq_error.1 (bind_pure_eq_error.1 broken)
        exact ⟨0, fault, .head own, rfl⟩
      · obtain ⟨position, fault, first, rfl⟩ := ih (bind_pure_eq_error.1 failed)
        have isMember := (exists_member_iff _ _).1 ⟨member, read⟩
        refine ⟨position + 1, fault, first.cons isMember, ?_⟩
        rw [Nat.add_assoc, Nat.add_comm 1]

theorem membersOf_eq_error {location : String} {default : Option String} {values : List Json}
    {error : CompileError} (failed : membersOf location default values = .error error) :
    ∃ position fault, FirstBroken values position fault ∧
      error = .invalidMember (location ++ ".allowedValues[" ++ toString position ++ "]") fault := by
  obtain ⟨position, fault, first, rfl⟩ := membersFrom_eq_error failed
  exact ⟨position, fault, first, by rw [Nat.zero_add]⟩

namespace Document

variable {α : Type} {document normal : Document} {error : CompileError}

/-- The error names the first broken value of some list in the document that is read as members. -/
def NamesBroken (document : Document) (error : CompileError) : Prop :=
  ∃ place values position fault, document.ListsMembers place ∧
    document.valuesAt? place = some values ∧ FirstBroken values position fault ∧
    error = .invalidMember
      (place.path ++ ".allowedValues[" ++ toString position ++ "]") fault

theorem compileEnumeration_eq_error {location : String} {record : EnumerationRecord}
    (named : record.identifier.isSome = true) (failed : record.compile location = .error error) :
    membersOf location none record.allowedValues = .error error := by
  obtain ⟨identifier, given⟩ := Option.isSome_iff_exists.1 named
  rw [EnumerationRecord.compile, given] at failed
  exact bind_pure_eq_error.1 failed

theorem termEnumeration_eq_error {key : String} {record : TermRecord}
    (declared : document.terms.get? key = some record)
    (failed : document.termEnumeration key = .error error) :
    membersOf ("terms." ++ key) none record.allowedValues = .error error := by
  rw [termEnumeration, declared] at failed
  exact bind_pure_eq_error.1 failed

/-- Where the declared type is known, what fails is a list of members. -/
theorem typed_eq_error {location declaration : String} {values : List Json}
    (typed : ∃ type : DeclaredType, declaration = type.text)
    {default : DeclaredType → Option String} {build : DeclaredType → List AllowedValue → α}
    (failed : (do
      let type ← typeAt location declaration
      let allowed ← allowedValuesOf location type.scalar (default type) values
      return build type allowed) = .error error) :
    DeclaresEnumeration declaration ∧
      ∃ default, membersOf location default values = .error error := by
  obtain ⟨type, declared⟩ := typed
  rcases bind_eq_error.1 failed with unread | ⟨own, read, failed⟩
  · cases (typeAt_eq_ok_iff.2 declared).symm.trans unread
  · have failed := bind_pure_eq_error.1 failed
    cases scalar : own.scalar with
    | enumeration =>
        rw [scalar] at failed
        rw [typeAt_eq_ok_iff.1 read]
        exact ⟨declaresEnumeration_text_iff.2 scalar, _, map_eq_error.1 failed⟩
    | _ =>
        rw [scalar] at failed
        cases failed

theorem compileSection_eq_error {β : Type} {compile : String → α → Except CompileError β}
    {keyed : Keyed α} (failed : compileSection compile keyed = .error error) :
    ∃ key record, keyed.get? key = some record ∧ compile key record = .error error := by
  obtain ⟨⟨key, record⟩, listed, failed⟩ := exists_of_mapM_eq_error failed
  exact ⟨key, record, Keyed.get?_eq_some_iff.2 listed, failed⟩

/-- A part of a document in normal form cannot be compiled, and has the error. -/
inductive PartFails (document : Document) (error : CompileError) : Prop
  | eventType (failed : document.eventType.compile "event.eventType" = .error error)
  | requiredTerm (key : String)
      (required : key ∈ ["contractType", "contractPerformance", "contractRole"])
      (failed : document.termEnumeration key = .error error)
  | referenceRole (failed : document.referenceRole.compile "contractReference.role" = .error error)
  | referenceType (failed : document.referenceType.compile "contractReference.type" = .error error)
  | terms (failed : compileSection TermRecord.compile document.terms = .error error)
  | states (failed : compileSection StateRecord.compile document.states = .error error)
  | taxonomy (failed : compileSection ContractTypeRecord.compile document.taxonomy = .error error)
  | contracts (types : List ContractType) (terms : List Term)
      (htypes : compileSection ContractTypeRecord.compile document.taxonomy = .ok types)
      (hterms : compileSection TermRecord.compile document.terms = .ok terms)
      (failed : contractsOf (.ofRows document.applicabilityRows) (.ofList types)
        (.ofList terms) = .error error)
  | versionDate (failed : versionDateOf document.version.date = .error error)

/-- A document in normal form fails only with the error of one of its parts. -/
theorem partFails_of_build (failed : document.build = .error error) :
    document.PartFails error := by
  unfold Document.build at failed
  rcases bind_eq_error.1 failed with failed | ⟨_, -, failed⟩
  · exact .eventType failed
  rcases bind_eq_error.1 failed with failed | ⟨_, -, failed⟩
  · exact .requiredTerm _ (by decide) failed
  rcases bind_eq_error.1 failed with failed | ⟨_, -, failed⟩
  · exact .requiredTerm _ (by decide) failed
  rcases bind_eq_error.1 failed with failed | ⟨_, -, failed⟩
  · exact .referenceRole failed
  rcases bind_eq_error.1 failed with failed | ⟨_, -, failed⟩
  · exact .referenceType failed
  rcases bind_eq_error.1 failed with failed | ⟨_, -, failed⟩
  · exact .requiredTerm _ (by decide) failed
  rcases bind_eq_error.1 failed with failed | ⟨terms, hterms, failed⟩
  · exact .terms failed
  rcases bind_eq_error.1 failed with failed | ⟨_, -, failed⟩
  · exact .states failed
  rcases bind_eq_error.1 failed with failed | ⟨types, htypes, failed⟩
  · exact .taxonomy failed
  rcases bind_eq_error.1 failed with failed | ⟨_, -, failed⟩
  · exact .contracts types terms htypes hterms failed
  · exact .versionDate (bind_pure_eq_error.1 failed)

theorem namesBroken_of_membersOf {place : ValuesPlace} {values : List Json}
    (lists : document.ListsMembers place) (written : document.valuesAt? place = some values)
    {default : Option String} (failed : membersOf place.path default values = .error error) :
    document.NamesBroken error := by
  obtain ⟨position, fault, first, rfl⟩ := membersOf_eq_error failed
  exact ⟨place, values, position, fault, lists, written, first, rfl⟩

/-- An error in the normal form of a term names a value of the term as it is written. -/
theorem namesBroken_of_term {key : String} {record : TermRecord}
    (lists : document.ListsMembers (.term key)) (declared : document.terms.get? key = some record)
    {default : Option String}
    (failed : membersOf ("terms." ++ key) default
      (record.normalize document.taxonomy key).allowedValues = .error error) :
    document.NamesBroken error := by
  obtain ⟨position, fault, first, rfl⟩ := membersOf_eq_error failed
  exact ⟨.term key, record.allowedValues, position, fault, lists, valuesAt?_term declared,
    firstBroken_of_normalize first, rfl⟩

section

variable (sound : document.withoutValues.IsValid)
include sound

theorem exists_requiredTerm {key : String}
    (required : key ∈ ["contractType", "contractPerformance", "contractRole"]) :
    ∃ record, document.terms.get? key = some record := by
  obtain ⟨_, declared, -⟩ := sound.requiredTerms key required
  rw [withoutValues, Keyed.get?_map, Option.map_eq_some_iff] at declared
  obtain ⟨record, declared, -⟩ := declared
  exact ⟨record, declared⟩

theorem exists_normalize_withoutValues : ∃ normal, document.normalize = .ok normal := by
  have required : contractTypeTerm ∈ ["contractType", "contractPerformance", "contractRole"] :=
    List.mem_cons_self
  obtain ⟨record, declared⟩ := exists_requiredTerm sound required
  rw [Document.normalize, declared]
  exact ⟨_, rfl⟩

theorem namesBroken_of_requiredTerm {key : String}
    (required : key ∈ ["contractType", "contractPerformance", "contractRole"])
    (normalized : document.normalize = .ok normal)
    (failed : normal.termEnumeration key = .error error) : document.NamesBroken error := by
  obtain ⟨record, declared⟩ := exists_requiredTerm sound required
  have normalTerm : normal.terms.get? key = some (record.normalize document.taxonomy key) := by
    rw [eq_of_normalize normalized, Keyed.get?_map, declared]
    rfl
  exact namesBroken_of_term (.inl required) declared (termEnumeration_eq_error normalTerm failed)

theorem namesBroken_of_compileTerms (normalized : document.normalize = .ok normal)
    (failed : compileSection TermRecord.compile normal.terms = .error error) :
    document.NamesBroken error := by
  obtain ⟨key, normalTerm, found, failed⟩ := compileSection_eq_error failed
  rw [eq_of_normalize normalized, Keyed.get?_map, Option.map_eq_some_iff] at found
  obtain ⟨record, declared, rfl⟩ := found
  have typed : ∃ type : DeclaredType,
      (record.normalize document.taxonomy key).type = type.text := by
    rw [type_normalize]
    exact (Keyed.forall_mem_values_map_iff.1 sound.terms key record declared).declared
  obtain ⟨enumerates, default, failed⟩ := typed_eq_error typed failed
  rw [type_normalize] at enumerates
  exact namesBroken_of_term (.inr ⟨record, declared, enumerates⟩) declared failed

theorem namesBroken_of_compileStates
    (failed : compileSection StateRecord.compile document.states = .error error) :
    document.NamesBroken error := by
  obtain ⟨key, record, declared, failed⟩ := compileSection_eq_error failed
  have typed := Keyed.forall_mem_values_map_iff.1 sound.states key record declared
  obtain ⟨enumerates, default, failed⟩ := typed_eq_error typed.declared failed
  have lists : document.ListsMembers (.state key) := ⟨record, declared, enumerates⟩
  exact namesBroken_of_membersOf lists (valuesAt?_state declared) failed

theorem exists_contracts_withoutValues (normalized : document.normalize = .ok normal)
    {types : List ContractType} {terms : List Term}
    (htypes : compileSection ContractTypeRecord.compile normal.taxonomy = .ok types)
    (hterms : compileSection TermRecord.compile normal.terms = .ok terms) :
    ∃ contracts, contractsOf (.ofRows normal.applicabilityRows) (.ofList types)
      (.ofList terms) = .ok contracts := by
  refine (exists_contracts_iff htypes hterms).2 ?_
  rw [eq_of_normalize normalized]
  refine ⟨sound.contractTypes, fun record listed regular termId given => ?_⟩
  have declared := sound.applicableTerms record listed regular termId given
  rw [exists_identifier_withoutValues_iff] at declared
  exact (exists_declaration_normalize_iff fun own _ => own = termId).2 declared

/-- A document that is valid but for its allowed values fails at a broken value. -/
theorem namesBroken_of_compile (failed : document.compile = .error error) :
    document.NamesBroken error := by
  have named : document.eventType.identifier.isSome = true := sound.eventType
  obtain ⟨normal, normalized⟩ := exists_normalize_withoutValues sound
  rw [Document.compile, normalized] at failed
  have fails := partFails_of_build (bind_pure_eq_error.1 failed)
  have whole := eq_of_normalize normalized
  cases fails with
  | requiredTerm key required failed =>
      exact namesBroken_of_requiredTerm sound required normalized failed
  | terms failed => exact namesBroken_of_compileTerms sound normalized failed
  | contracts types terms htypes hterms failed =>
      obtain ⟨contracts, built⟩ := exists_contracts_withoutValues sound normalized htypes hterms
      cases built.symm.trans failed
  | eventType failed =>
      have lists : document.ListsMembers .eventType := trivial
      subst whole
      have members := compileEnumeration_eq_error named failed
      exact namesBroken_of_membersOf lists rfl members
  | referenceRole failed =>
      have lists : document.ListsMembers .referenceRole := trivial
      subst whole
      have members := compileEnumeration_eq_error rfl failed
      exact namesBroken_of_membersOf lists rfl members
  | referenceType failed =>
      have lists : document.ListsMembers .referenceType := trivial
      subst whole
      have members := compileEnumeration_eq_error rfl failed
      exact namesBroken_of_membersOf lists rfl members
  | states failed =>
      subst whole
      exact namesBroken_of_compileStates sound failed
  | taxonomy failed =>
      subst whole
      obtain ⟨types, compiled⟩ := exists_compileTaxonomy_iff.2 sound.statuses
      cases compiled.symm.trans failed
  | versionDate failed =>
      subst whole
      obtain ⟨date, read⟩ := exists_versionDateOf_iff.2 sound.versionDate
      cases read.symm.trans failed

end

/-- The document without the values at a place that are no members. -/
def dropBroken (document : Document) (place : ValuesPlace) : Document :=
  document.changeValues (List.filter fun value => IsMember value) place

end Document

/--
A document that lists values that are no members in one place where members are read, and that
compiles without them, fails with an error about the first of them: the error names the place and
the position of the value in the list, and has the fault with which the value is read.  Documents
that differ in allowed values alone, and list the same where members are read, compile together.
-/
theorem error_of_brokenMembers (document : Document) :
    (∀ place, document.ListsMembers place → ∀ values, document.valuesAt? place = some values →
      (∃ value ∈ values, ¬IsMember value) →
      (∃ compilation, (document.dropBroken place).compile = .ok compilation) →
      ∃ position fault, FirstBroken values position fault ∧
        document.compile = .error (.invalidMember
          (place.path ++ ".allowedValues[" ++ toString position ++ "]") fault)) ∧
    ∀ other : Document, other.withoutValues = document.withoutValues →
      (∀ place, document.ListsMembers place → other.valuesAt? place = document.valuesAt? place) →
      ((∃ compilation, other.compile = .ok compilation) ↔
        ∃ compilation, document.compile = .ok compilation) := by
  constructor
  · intro place lists values written broken compiles
    have valid := (compiles_iff_isValid _).1.1 compiles
    obtain ⟨sound, holds⟩ := (Document.isValid_iff_withoutValues _).1 valid
    have same : (document.dropBroken place).withoutValues = document.withoutValues :=
      Document.withoutValues_changeValues
    have notValid : ¬document.IsValid := by
      intro valid
      obtain ⟨value, listed, noMember⟩ := broken
      have holds := Document.holdsMembers_of_isValid valid
      exact noMember (holds place lists values written value listed)
    obtain ⟨error, failed⟩ := (compiles_iff_isValid document).2.2 notValid
    obtain ⟨found, values', position, fault, listed, written', first, rfl⟩ :=
      Document.namesBroken_of_compile (same ▸ sound) failed
    have own : found = place := by
      by_contra apart
      have listed' := (Document.listsMembers_congr same).2 listed
      refine first.not_holds (holds found listed' values' ?_)
      rw [Document.dropBroken, Document.valuesAt?_changeValues_of_ne apart, written']
    subst own
    cases written.symm.trans written'
    exact ⟨position, fault, first, failed⟩
  · intro other same values
    rw [(compiles_iff_isValid other).1, (compiles_iff_isValid document).1,
      Document.isValid_iff_withoutValues other, Document.isValid_iff_withoutValues document, same]
    refine and_congr_right fun _ => forall_congr' fun place => ?_
    rw [Document.listsMembers_congr same]
    refine forall_congr' fun lists => ?_
    rw [values place lists]

/-- Two scaling effects that are no members behind one that is, and a number with a text. -/
def brokenEffects : Document :=
  .plain [
    { TermRecord.plain scalingEffectTerm "Enum" (some "000") with
      allowedValues := [MemberRecord.toJson ⟨0, "none", "No Scaling", "000", ""⟩,
        .object [("option", .integer 1), ("acronym", .text "I00")], .text "0N0"] },
    { TermRecord.plain "rate" "Real" none with allowedValues := [.text "I00"] }] [] []

def keptEffects : Document :=
  brokenEffects.dropBroken (.term scalingEffectTerm)

theorem not_listsMembers_rate : ¬keptEffects.ListsMembers (.term "rate") := by
  rintro (required | ⟨record, declared, enumerates⟩)
  · revert required
    decide
  · have other : (keptEffects.terms.get? "rate").all
        (fun record => !decide (DeclaresEnumeration record.type)) = true := by decide +kernel
    rw [declared] at other
    simp only [Option.all_some, enumerates, decide_true, Bool.not_true, Bool.false_eq_true] at other

theorem error_of_brokenEffects :
    brokenEffects.compile = .error (.invalidMember "terms.scalingEffect.allowedValues[1]"
      (.shape (.missingField "identifier"))) ∧
    (∃ compilation, keptEffects.compile = .ok compilation) ∧
    ∃ compilation, (keptEffects.changeValues (fun _ => [.null]) (.term "rate")).compile =
      .ok compilation := by
  have compiles : ∃ compilation, keptEffects.compile = .ok compilation :=
    faultOf_eq_none.1 (by decide +kernel)
  have lists : brokenEffects.ListsMembers (.term scalingEffectTerm) := .inr ⟨_, rfl, .inl rfl⟩
  have values : ∃ values, brokenEffects.valuesAt? (.term scalingEffectTerm) = some values ∧
      FirstBroken values 1 (.shape (.missingField "identifier")) :=
    ⟨_, rfl, by decide +kernel, _, rfl, by decide +kernel⟩
  obtain ⟨values, written, first⟩ := values
  have broken : ∃ value ∈ values, ¬IsMember value := by simpa using first.not_holds
  obtain ⟨position, fault, first', failed⟩ :=
    (error_of_brokenMembers brokenEffects).1 _ lists values written broken compiles
  obtain ⟨rfl, rfl⟩ := first'.unique first
  refine ⟨failed, compiles, ?_⟩
  have together := (error_of_brokenMembers keptEffects).2
  refine (together _ Document.withoutValues_changeValues ?_).2 compiles
  intro place lists
  apply Document.valuesAt?_changeValues_of_ne
  rintro rfl
  exact not_listsMembers_rate lists

end ContractDictionary
