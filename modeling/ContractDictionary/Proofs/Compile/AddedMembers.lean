import ContractDictionary.Proofs.Compile.ContractTypes
import ContractDictionary.Proofs.Model.StableSorting

/-!
# The members that are added

The contract types that the declared members lack are taken in stable order of their acronyms, and
each has a member behind the declared ones, with an option one below that of the member before it.
In the compiled enumeration, where members stand in the order of their options, the added ones
come first and in the opposite order.
-/

namespace ContractDictionary

open Text (upper)

/-- One of the allowed values is a record that gives the acronym as a text. -/
def GivesAcronym (values : List Json) (acronym : String) : Prop :=
  ∃ fields, .record fields ∈ values ∧ fields.lookup "acronym" = some (.text acronym)

theorem mem_declaredAcronyms_iff {values : List Json} {acronym : String} :
    acronym ∈ declaredAcronyms values ↔ GivesAcronym values acronym := by
  rw [declaredAcronyms, List.mem_filterMap]
  constructor
  · rintro ⟨value, listed, gives⟩
    obtain ⟨content, written, text⟩ := Option.bind_eq_some_iff.1 gives
    cases content <;> cases text
    cases value with
    | record fields => exact ⟨fields, listed, written⟩
    | _ => cases written
  · rintro ⟨fields, listed, written⟩
    refine ⟨.record fields, listed, Option.bind_eq_some_iff.2 ⟨_, written, rfl⟩⟩

instance (values : List Json) (acronym : String) : Decidable (GivesAcronym values acronym) :=
  decidable_of_iff (acronym ∈ declaredAcronyms values) mem_declaredAcronyms_iff

/-- The types in need of a member are sorted by acronym, and those of one acronym as they were. -/
theorem isStablySorted_lackingTypes (document : Document) :
    IsStablySorted (·.acronym)
      (document.taxonomy.values.filter fun type => type.acronym ≠ "EXOTi" ∧
        ¬ GivesAcronym document.contractTypeValues type.acronym)
      document.lackingTypes := by
  have same : (document.taxonomy.values.filter fun type => type.acronym != experimentalAcronym &&
        !(declaredAcronyms document.contractTypeValues).contains type.acronym) =
      document.taxonomy.values.filter fun type => type.acronym ≠ "EXOTi" ∧
        ¬ GivesAcronym document.contractTypeValues type.acronym := by
    refine List.filter_congr fun type _ => ?_
    rw [Bool.eq_iff_iff, decide_eq_true_iff, Bool.and_eq_true, bne_iff_ne, Bool.not_eq_true',
      ← Bool.not_eq_true, List.contains_iff_mem, mem_declaredAcronyms_iff]
    rfl
  rw [← same]
  exact isStablySorted_sortOn _ _

/-- What a member is like that is added at a position, for a contract type. -/
structure MemberRecord.IsAddedFor (member : MemberRecord) (position : Nat)
    (type : ContractTypeRecord) : Prop where
  /-- Options are signed words, of which there are fewer than positions. -/
  option : position < 9223372036854775808 → member.option = -((position : Int) + 1)
  acronym : member.acronym = upper type.acronym
  identifier : member.identifier = type.identifier
  name : member.name = type.name
  description : member.description = type.description
  /-- The member is read as it is written. -/
  read : MemberRecord.ofJson member.toJson = .ok member

theorem isAddedFor_syntheticMember (position : Nat) (type : ContractTypeRecord) :
    (syntheticMember position type).IsAddedFor position type where
  option small := by
    rw [option_syntheticMember small]
    omega
  acronym := rfl
  identifier := rfl
  name := rfl
  description := rfl
  read := ofJson_toJson (isOrdinal_toInt _)

theorem getElem?_addedMembers (document : Document) (position : Nat) :
    document.addedMembers[position]? =
      document.lackingTypes[position]?.map (syntheticMember position) := by
  rw [Document.addedMembers, List.getElem?_mapIdx]

/-- Each added member has a lower option than those before it. -/
theorem pairwise_addedMembers {document : Document}
    (few : document.lackingTypes.length ≤ 9223372036854775808) :
    document.addedMembers.Pairwise fun first second => second.option < first.option := by
  have options := options_addedMembers few
  refine List.pairwise_map.1 (?_ : (document.addedMembers.map (·.option)).Pairwise (· > ·))
  rw [options, List.pairwise_map]
  refine List.pairwise_lt_range.imp fun {first second} before => ?_
  show -(second : Int) - 1 < -(first : Int) - 1
  omega

theorem negative_of_mem_addedMembers {document : Document}
    (few : document.lackingTypes.length ≤ 9223372036854775808) {member : MemberRecord}
    (added : member ∈ document.addedMembers) : member.option < 0 := by
  have listed : member.option ∈ document.addedMembers.map (·.option) := List.mem_map_of_mem added
  rw [options_addedMembers few, List.mem_map] at listed
  obtain ⟨position, -, same⟩ := listed
  omega

/-- Members with options below those of the declared ones come first, the last one at the front. -/
theorem sortMembers_append_addedMembers {document : Document}
    (few : document.lackingTypes.length ≤ 9223372036854775808) {declared : List MemberRecord}
    (natural : ∀ member ∈ declared, 0 ≤ member.option) :
    sortMembers ((declared ++ document.addedMembers).map (·.member none)) =
      document.addedMembers.reverse.map (·.member none) ++
        sortMembers (declared.map (·.member none)) := by
  rw [List.map_append, sortMembers, sortBy_append, sortBy_of_descending, List.map_reverse]
  · rfl
  · rw [List.pairwise_map]
    refine (pairwise_addedMembers few).imp fun {first second} lower => ?_
    exact decide_eq_false (Int.not_le.2 lower)
  · intro item listed other added
    obtain ⟨member, member_declared, rfl⟩ := List.mem_map.1 listed
    obtain ⟨later, later_added, rfl⟩ := List.mem_map.1 added
    have above := natural member member_declared
    have below := negative_of_mem_addedMembers few later_added
    refine decide_eq_false (Int.not_le.2 ?_)
    exact Int.lt_of_lt_of_le below above

/-- Every contract type but the placeholder has a member, in its own case or in upper case. -/
theorem exists_member_of_type {document : Document} {dictionary : Dictionary}
    {warnings : List Warning} (compiled : document.compile = .ok ⟨dictionary, warnings⟩)
    {type : ContractTypeRecord} (listed : type ∈ document.taxonomy.values)
    (regular : type.acronym ≠ "EXOTi") :
    ∃ member ∈ dictionary.contractType.members,
      member.acronym = type.acronym ∨ member.acronym = upper type.acronym := by
  obtain ⟨declared, read, records⟩ := records_contractType_perm compiled
  have recorded {record : MemberRecord} (among : record ∈ declared ++ document.addedMembers) :
      ∃ member ∈ dictionary.contractType.members, member.acronym = record.acronym := by
    obtain ⟨member, enumerated, rfl⟩ := List.mem_map.1 (records.mem_iff.2 among)
    exact ⟨member, enumerated, rfl⟩
  by_cases given : type.acronym ∈ declaredAcronyms document.contractTypeValues
  · obtain ⟨value, written, gives⟩ := List.mem_filterMap.1 given
    obtain ⟨record, ofDeclared, hrecord⟩ := exists_result_of_mapM_eq_ok read written
    obtain ⟨member, enumerated, same⟩ := recorded (List.mem_append_left _ ofDeclared)
    exact ⟨member, enumerated, .inl (same.trans (acronym_of_ofJson hrecord gives))⟩
  · have lacking : upper type.acronym ∈ document.addedMembers.map (·.acronym) := by
      rw [document.acronyms_addedMembers]
      exact List.mem_map_of_mem (f := fun type : ContractTypeRecord => upper type.acronym)
        (Document.mem_lackingTypes.2 ⟨listed, regular, given⟩)
    obtain ⟨record, added, acronym⟩ := List.mem_map.1 lacking
    obtain ⟨member, enumerated, same⟩ := recorded (List.mem_append_right _ added)
    exact ⟨member, enumerated, .inr (same.trans acronym)⟩

/--
The normal form keeps the declared members of the contract types and adds one for each type that
they lack.  A dictionary that is compiled has a member for every type but the placeholder; if no
declared option is negative, the added members come first, the last one at the front, and the
declared ones follow in the order of their options.
-/
theorem contractType_members_completed {document : Document} {record : TermRecord}
    (term : document.terms.get? contractTypeTerm = some record) :
    IsStablySorted (·.acronym)
      (document.taxonomy.values.filter fun type => type.acronym ≠ "EXOTi" ∧
        ¬ GivesAcronym record.allowedValues type.acronym) document.lackingTypes ∧
    document.addedMembers.length = document.lackingTypes.length ∧
    (∀ position type, document.lackingTypes[position]? = some type →
      ∃ member, document.addedMembers[position]? = some member ∧
        MemberRecord.IsAddedFor member position type) ∧
    (∃ normal completed, document.normalize = .ok normal ∧
      normal.terms.get? contractTypeTerm = some completed ∧
      completed.allowedValues =
        record.allowedValues ++ document.addedMembers.map MemberRecord.toJson) ∧
    ∀ dictionary warnings, document.compile = .ok ⟨dictionary, warnings⟩ →
      (∀ type ∈ document.taxonomy.values, type.acronym ≠ "EXOTi" →
        ∃ member ∈ dictionary.contractType.members,
          member.acronym = type.acronym ∨ member.acronym = upper type.acronym) ∧
      ∃ declared, record.allowedValues.mapM MemberRecord.ofJson = .ok declared ∧
        ((∀ member ∈ declared, 0 ≤ member.option) →
          document.lackingTypes.length ≤ 9223372036854775808 →
          ∃ ordered, IsStablySorted (·.option) (declared.map (·.member none)) ordered ∧
            dictionary.contractType.members =
              document.addedMembers.reverse.map (·.member none) ++ ordered) := by
  obtain ⟨normal, completed, normalized, found, values⟩ := exists_normalize_contractType term
  obtain ⟨_, same, given⟩ := exists_contractTypeTerm normalized
  cases Option.some.inj (term.symm.trans same)
  have sorted := isStablySorted_lackingTypes document
  rw [given] at sorted
  refine ⟨sorted, List.length_mapIdx, ?_, ⟨normal, completed, normalized, found, values⟩, ?_⟩
  · intro position type lacks
    rw [getElem?_addedMembers, lacks]
    exact ⟨_, rfl, isAddedFor_syntheticMember position type⟩
  · intro dictionary warnings compiled
    refine ⟨fun type listed regular => exists_member_of_type compiled listed regular, ?_⟩
    obtain ⟨declared, read, members⟩ := members_contractType compiled
    rw [given] at read
    refine ⟨declared, read, fun natural few => ⟨_, isStablySorted_sortMembers _, ?_⟩⟩
    rw [members, sortMembers_append_addedMembers few natural]

/-- Two members out of order, and two contract types of one acronym that they lack. -/
def unlistedTypes : Document :=
  .ofMembers [.plain 5 "PAM", .plain 0 "LAM"]
    [.plain "nam" "N", .plain "ann" "B", .plain "ann" "A", .plain "EXOTi" "E", .plain "PAM" "P"]

theorem contractType_members_of_unlistedTypes :
    ∃ record, unlistedTypes.terms.get? contractTypeTerm = some record ∧
      ∃ dictionary warnings, unlistedTypes.compile = .ok ⟨dictionary, warnings⟩ ∧
        ∃ ordered,
          IsStablySorted (·.option) [(MemberRecord.plain 5 "PAM").member none,
            (MemberRecord.plain 0 "LAM").member none] ordered ∧
          dictionary.contractType.members =
            ([⟨-3, "N", "N", "NAM", ""⟩, ⟨-2, "B", "B", "ANN", ""⟩, ⟨-1, "A", "A", "ANN", ""⟩] :
              List MemberRecord).map (·.member none) ++ ordered := by
  have term : ∃ record, unlistedTypes.terms.get? contractTypeTerm = some record := ⟨_, rfl⟩
  obtain ⟨record, term⟩ := term
  obtain ⟨⟨dictionary, warnings⟩, compiled⟩ :=
    faultOf_eq_none.1 (show faultOf unlistedTypes.compile = none by decide +kernel)
  obtain ⟨-, -, -, -, whole⟩ := contractType_members_completed term
  obtain ⟨-, declared, read, first⟩ := whole dictionary warnings compiled
  have members : (unlistedTypes.terms.get? contractTypeTerm).all (fun record =>
      record.allowedValues.mapM MemberRecord.ofJson =
        .ok [.plain 5 "PAM", .plain 0 "LAM"]) = true := by decide +kernel
  rw [term] at members
  cases read.symm.trans (of_decide_eq_true members)
  have added : unlistedTypes.addedMembers.reverse =
      [⟨-3, "N", "N", "NAM", ""⟩, ⟨-2, "B", "B", "ANN", ""⟩, ⟨-1, "A", "A", "ANN", ""⟩] := by
    decide +kernel
  have three : unlistedTypes.lackingTypes.length = 3 := by decide +kernel
  rw [added, three] at first
  exact ⟨record, term, dictionary, warnings, compiled, first (by decide) (by decide)⟩

end ContractDictionary
