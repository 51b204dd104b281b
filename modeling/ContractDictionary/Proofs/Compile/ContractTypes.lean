import ContractDictionary.Proofs.Compile.Sections
import ContractDictionary.Proofs.Text.Case
import ContractDictionary.Target.Naming
import Mathlib.Data.List.Nodup
import Mathlib.Data.List.Perm.Basic
import Mathlib.Data.List.Range

/-!
# Members for contract types

The enumeration of contract types has the members that a document declares and one for each
contract type whose acronym no allowed value gives as it is written.  The options of the added
members count down from minus one, and their acronyms are in upper case: they are apart from the
declared ones where no declared option is among them, and where declared acronyms that agree with
those of contract types agree in case as well.
-/

namespace ContractDictionary

open Text (upper sameIgnoringCase sameIgnoringCase_upper)

def Member.record (member : Member) : MemberRecord where
  option := member.option
  identifier := member.identifier
  name := member.name
  acronym := member.acronym
  description := member.description

theorem map_record_member (default : Option String) (records : List MemberRecord) :
    (records.map (·.member default)).map Member.record = records := by
  rw [List.map_map]
  exact List.map_id records

theorem members_of_termEnumeration {document : Document} {key : String}
    {enumeration : Enumeration} (compiled : document.termEnumeration key = .ok enumeration)
    {record : TermRecord} (term : document.terms.get? key = some record) :
    ∃ records, record.allowedValues.mapM MemberRecord.ofJson = .ok records ∧
      enumeration.members = sortMembers (records.map (·.member none)) := by
  rw [Document.termEnumeration, term] at compiled
  simp only [bind_eq_ok, pure_eq_ok] at compiled
  obtain ⟨members, hmembers, rfl⟩ := compiled
  obtain ⟨records, read, rfl⟩ := membersOf_eq_ok.1 hmembers
  exact ⟨records, read, rfl⟩

namespace Document

/-- The allowed values that a document gives for the contract types. -/
def contractTypeValues (document : Document) : List Json :=
  ((document.terms.get? contractTypeTerm).map (·.allowedValues)).getD []

def lackingTypes (document : Document) : List ContractTypeRecord :=
  missingTypes (declaredAcronyms document.contractTypeValues) document.taxonomy.values

def addedMembers (document : Document) : List MemberRecord :=
  document.lackingTypes.mapIdx syntheticMember

/-- A type is lacking if it is not the placeholder and no value gives its acronym. -/
theorem mem_lackingTypes {document : Document} {type : ContractTypeRecord} :
    type ∈ document.lackingTypes ↔
      type ∈ document.taxonomy.values ∧ type.acronym ≠ experimentalAcronym ∧
        type.acronym ∉ declaredAcronyms document.contractTypeValues := by
  rw [lackingTypes, missingTypes, mem_sortOn, List.mem_filter]
  simp

theorem acronyms_addedMembers (document : Document) :
    document.addedMembers.map (·.acronym) =
      document.lackingTypes.map fun type => upper type.acronym := by
  refine List.ext_getElem (by simp [addedMembers]) fun position _ _ => ?_
  simp only [addedMembers, syntheticMember, List.getElem_map, List.getElem_mapIdx]

theorem read_addedMembers (document : Document) :
    (document.addedMembers.map MemberRecord.toJson).mapM MemberRecord.ofJson =
      .ok document.addedMembers := by
  rw [mapM_eq_ok, List.forall₂_map_left_iff, List.forall₂_same]
  intro member added
  obtain ⟨position, _, rfl⟩ := List.mem_mapIdx.1 added
  exact ofJson_toJson (isOrdinal_toInt _)

end Document

/-- The normal form keeps the allowed values of the contract types and adds the members. -/
theorem exists_normalize_contractType {document : Document} {record : TermRecord}
    (term : document.terms.get? contractTypeTerm = some record) :
    ∃ normal completed, document.normalize = .ok normal ∧
      normal.terms.get? contractTypeTerm = some completed ∧
      completed.allowedValues =
        record.allowedValues ++ document.addedMembers.map MemberRecord.toJson := by
  have given : document.contractTypeValues = record.allowedValues := by
    rw [Document.contractTypeValues, term]
    rfl
  have other : contractTypeTerm ≠ scalingEffectTerm := by decide
  refine ⟨_, record.normalize document.taxonomy contractTypeTerm,
    by rw [Document.normalize, term], ?_, ?_⟩
  · rw [Keyed.get?_map, term]
    rfl
  · rw [TermRecord.normalize, if_pos rfl, if_neg other, Document.addedMembers,
      Document.lackingTypes, given]
    rfl

/-- What compiles declares the term of contract types. -/
theorem exists_contractTypeTerm {document normal : Document}
    (normalized : document.normalize = .ok normal) :
    ∃ record, document.terms.get? contractTypeTerm = some record ∧
      document.contractTypeValues = record.allowedValues := by
  unfold Document.contractTypeValues
  cases term : document.terms.get? contractTypeTerm with
  | none =>
      rw [Document.normalize, term] at normalized
      cases normalized
  | some record => exact ⟨record, rfl, rfl⟩

/--
The enumeration of contract types has the declared members and one for each type that these
lack, and no other, in the order of their options.
-/
theorem members_contractType {document : Document} {dictionary : Dictionary}
    {warnings : List Warning} (compiled : document.compile = .ok ⟨dictionary, warnings⟩) :
    ∃ declared, document.contractTypeValues.mapM MemberRecord.ofJson = .ok declared ∧
      dictionary.contractType.members =
        sortMembers ((declared ++ document.addedMembers).map (·.member none)) := by
  obtain ⟨normal, normalized, built, -⟩ := compile_eq_ok_iff.1 compiled
  obtain ⟨record, term, given⟩ := exists_contractTypeTerm normalized
  obtain ⟨_, completed, same, found, values⟩ := exists_normalize_contractType term
  cases normalized.symm.trans same
  obtain ⟨records, read, members⟩ := members_of_termEnumeration built.contractType found
  rw [values, List.mapM_append, document.read_addedMembers, ← given] at read
  obtain ⟨declared, hdeclared, whole⟩ := bind_eq_ok.1 read
  cases pure_eq_ok.1 whole
  exact ⟨declared, hdeclared, members⟩

theorem records_contractType_perm {document : Document} {dictionary : Dictionary}
    {warnings : List Warning} (compiled : document.compile = .ok ⟨dictionary, warnings⟩) :
    ∃ declared, document.contractTypeValues.mapM MemberRecord.ofJson = .ok declared ∧
      (dictionary.contractType.members.map Member.record).Perm
        (declared ++ document.addedMembers) := by
  obtain ⟨declared, read, members⟩ := members_contractType compiled
  refine ⟨declared, read, ?_⟩
  rw [members]
  exact ((sortBy_perm _ _).map Member.record).trans (.of_eq (map_record_member none _))

/-- A document with some members of the contract types, and some contract types. -/
def Document.ofMembers (members : List MemberRecord) (types : List ContractTypeRecord) :
    Document :=
  .plain [{ TermRecord.plain contractTypeTerm "Enum" none with
    allowedValues := members.map MemberRecord.toJson }] types []

/-- A member with an option and an acronym and nothing more. -/
def MemberRecord.plain (option : Int) (acronym : String) : MemberRecord :=
  ⟨option, acronym, acronym, acronym, ""⟩

/-- Within the range of a signed word the options count down from minus one. -/
theorem option_syntheticMember {position : Nat} (small : position < 9223372036854775808)
    (type : ContractTypeRecord) :
    (syntheticMember position type).option = -(position : Int) - 1 := by
  show (-(Int64.ofNat position) - 1).toInt = _
  have fits : position < 9223372036854775808 := Nat.lt_of_lt_of_le small (by decide)
  rw [Int64.toInt_sub, Int64.toInt_neg, Int64.toInt_ofNat_of_lt fits]
  simp only [Int64.toInt_one, Int.bmod_def]
  omega

/-- The options of the added members, of which there are no more than words below zero. -/
theorem options_addedMembers {document : Document}
    (few : document.lackingTypes.length ≤ 9223372036854775808) :
    document.addedMembers.map (·.option) =
      (List.range document.lackingTypes.length).map fun position : Nat =>
        -(position : Int) - 1 := by
  refine List.ext_getElem (by simp [Document.addedMembers]) fun position _ after => ?_
  have bound : position < document.lackingTypes.length := by simpa using after
  simp only [Document.addedMembers, List.getElem_map, List.getElem_mapIdx, List.getElem_range]
  exact option_syntheticMember (Nat.lt_of_lt_of_le bound few) _

/--
The options of the contract types are pairwise distinct exactly if those of the declared members
are and none of these is among the first numbers below zero, of which there are as many as
members to be added.
-/
theorem nodup_options_contractType_iff {document : Document} {dictionary : Dictionary}
    {warnings : List Warning} (compiled : document.compile = .ok ⟨dictionary, warnings⟩)
    (few : document.lackingTypes.length ≤ 9223372036854775808) :
    ∃ declared, document.contractTypeValues.mapM MemberRecord.ofJson = .ok declared ∧
      ((dictionary.contractType.members.map (·.option)).Nodup ↔
        (declared.map (·.option)).Nodup ∧
          ∀ member ∈ declared,
            0 ≤ member.option ∨ member.option < -(document.lackingTypes.length : Int)) := by
  obtain ⟨declared, read, records⟩ := records_contractType_perm compiled
  refine ⟨declared, read, ?_⟩
  have perm := records.map MemberRecord.option
  rw [List.map_map, List.map_append, options_addedMembers few] at perm
  have distinct : ((List.range document.lackingTypes.length).map
      fun position : Nat => -(position : Int) - 1).Nodup := by
    refine List.Nodup.map ?_ List.nodup_range
    intro first second same
    dsimp only at same
    omega
  rw [show dictionary.contractType.members.map (·.option) =
    dictionary.contractType.members.map (MemberRecord.option ∘ Member.record) from rfl,
    perm.nodup_iff, List.nodup_append, and_iff_right distinct]
  refine and_congr_right fun _ => ?_
  rw [List.forall_mem_map]
  refine forall₂_congr fun member _ => ?_
  simp only [List.forall_mem_map, List.mem_range]
  constructor
  · intro apart
    by_contra inside
    exact apart (-member.option - 1).toNat (by omega) (by omega)
  · intro outside position bound
    omega

/-- Two members, one with an option below those of the two members that are added. -/
def optionsApart : Document :=
  .ofMembers [.plain 0 "PAM", .plain (-3) "LAM"]
    [.plain "ANN" "ann", .plain "LAM" "lam", .plain "NAM" "nam", .plain "PAM" "pam"]

theorem nodup_options_of_optionsApart :
    ∃ dictionary warnings, optionsApart.compile = .ok ⟨dictionary, warnings⟩ ∧
      (dictionary.contractType.members.map (·.option)).Nodup := by
  obtain ⟨⟨dictionary, warnings⟩, compiled⟩ :=
    faultOf_eq_none.1 (show faultOf optionsApart.compile = none by decide +kernel)
  have two : optionsApart.lackingTypes.length = 2 := by decide +kernel
  obtain ⟨declared, read, distinct⟩ :=
    nodup_options_contractType_iff compiled (by rw [two]; decide)
  have members : optionsApart.contractTypeValues.mapM MemberRecord.ofJson =
      .ok [.plain 0 "PAM", .plain (-3) "LAM"] := by decide +kernel
  cases read.symm.trans members
  rw [two] at distinct
  exact ⟨dictionary, warnings, compiled, distinct.2 ⟨by decide, by decide⟩⟩

def optionTaken : Document :=
  .ofMembers [.plain (-1) "PAM"] [.plain "ANN" "ann", .plain "PAM" "pam"]

/-- An added member may have the option of a declared one. -/
theorem compiles_with_option_twice :
    ∃ dictionary warnings, optionTaken.compile = .ok ⟨dictionary, warnings⟩ ∧
      ∃ declared, optionTaken.contractTypeValues.mapM MemberRecord.ofJson = .ok declared ∧
        (declared.map (·.option)).Nodup ∧
        ¬(dictionary.contractType.members.map (·.option)).Nodup := by
  obtain ⟨⟨dictionary, warnings⟩, compiled, held⟩ := exists_ok_of_any
    (show optionTaken.compile.toOption.any (fun compilation =>
      decide ¬(compilation.dictionary.contractType.members.map (·.option)).Nodup) = true by
        decide +kernel)
  have members : optionTaken.contractTypeValues.mapM MemberRecord.ofJson =
      .ok [.plain (-1) "PAM"] := by decide +kernel
  exact ⟨dictionary, warnings, compiled, _, members, by decide, of_decide_eq_true held⟩

/-- The acronym that an allowed value gives as a text is the one of the member. -/
theorem acronym_of_ofJson {value : Json} {member : MemberRecord}
    (read : MemberRecord.ofJson value = .ok member) {acronym : String}
    (given : (value.field? "acronym").bind Json.asText? = some acronym) :
    member.acronym = acronym := by
  obtain ⟨content, written, text⟩ := Option.bind_eq_some_iff.1 given
  cases content <;> cases text
  cases value with
  | record fields =>
      obtain ⟨found, scanned, give⟩ := readMember_eq_ok_iff.1 read
      have own := give.acronym
      have tree : (Json.fieldTrees fields).lookup (some acronymField.name) =
          some (.text (some acronym)) :=
        (lookup_fieldTrees fields "acronym").trans (congrArg _ written)
      rw [(finds_of_readFields scanned).2.get_eq (by simp [memberShapes]) tree] at own
      exact (Except.ok.inj own).symm
  | _ => cases written

theorem sameIgnoringCase_iff {left right : String} :
    sameIgnoringCase left right = true ↔ upper left = upper right :=
  beq_iff_eq

/-- Of items that do not differ in case alone no more than one agrees with an acronym. -/
theorem countP_eq_one_of_mem {α : Type} {name : α → String} {items : List α}
    (apart : (items.map (upper <| name ·)).Nodup) {acronym : String} {item : α}
    (listed : item ∈ items) (agrees : sameIgnoringCase (name item) acronym = true) :
    items.countP (fun item => sameIgnoringCase (name item) acronym) = 1 := by
  have once : (items.map (upper <| name ·)).count (upper acronym) = 1 :=
    List.count_eq_one_of_mem apart (sameIgnoringCase_iff.1 agrees ▸ List.mem_map_of_mem listed)
  rw [List.count, List.countP_map] at once
  exact once

/-- How many of the added members are for a type, if no two types differ in case alone. -/
theorem countP_addedMembers {document : Document}
    (apart : (document.taxonomy.values.map (upper ·.acronym)).Nodup) {type : ContractTypeRecord}
    (listed : type ∈ document.taxonomy.values) (regular : type.acronym ≠ experimentalAcronym) :
    document.addedMembers.countP (sameIgnoringCase ·.acronym type.acronym) =
      if type.acronym ∈ declaredAcronyms document.contractTypeValues then 0 else 1 := by
  have ofTypes : document.addedMembers.countP (sameIgnoringCase ·.acronym type.acronym) =
      document.lackingTypes.countP (sameIgnoringCase ·.acronym type.acronym) := by
    have added := congrArg (List.countP (sameIgnoringCase · type.acronym))
      document.acronyms_addedMembers
    rw [List.countP_map, List.countP_map] at added
    refine added.trans (List.countP_congr fun other _ => ?_)
    rw [Function.comp_apply, sameIgnoringCase_upper]
  have distinct : (document.lackingTypes.map (upper ·.acronym)).Nodup :=
    ((sortOn_perm _ _).map _).nodup_iff.2 (apart.sublist (List.filter_sublist.map _))
  rw [ofTypes]
  split
  · next given =>
      refine List.countP_eq_zero.2 fun other lacking agrees => ?_
      obtain ⟨ofOther, -, undeclared⟩ := Document.mem_lackingTypes.1 lacking
      have same := List.inj_on_of_nodup_map apart ofOther listed (sameIgnoringCase_iff.1 agrees)
      exact undeclared (same ▸ given)
  · next undeclared =>
      exact countP_eq_one_of_mem distinct
        (Document.mem_lackingTypes.2 ⟨listed, regular, undeclared⟩) (beq_self_eq_true _)

/--
Where neither declared members nor contract types differ in case alone, a type other than the
placeholder has exactly one member, case aside, if an allowed value gives the acronym of the type
as it is written or no declared member agrees with it in more than case.
-/
theorem countP_contractType_eq_one_iff {document : Document} {dictionary : Dictionary}
    {warnings : List Warning} (compiled : document.compile = .ok ⟨dictionary, warnings⟩) :
    ∃ declared, document.contractTypeValues.mapM MemberRecord.ofJson = .ok declared ∧
      ((declared.map (upper ·.acronym)).Nodup →
        (document.taxonomy.values.map (upper ·.acronym)).Nodup →
        ∀ type ∈ document.taxonomy.values, type.acronym ≠ "EXOTi" →
          (dictionary.contractType.members.countP
              (sameIgnoringCase ·.acronym type.acronym) = 1 ↔
            type.acronym ∈ declaredAcronyms document.contractTypeValues ∨
              ∀ member ∈ declared, sameIgnoringCase member.acronym type.acronym = false)) := by
  obtain ⟨declared, read, records⟩ := records_contractType_perm compiled
  refine ⟨declared, read, fun members types type listed regular => ?_⟩
  have whole : dictionary.contractType.members.countP (sameIgnoringCase ·.acronym type.acronym) =
      declared.countP (sameIgnoringCase ·.acronym type.acronym) +
        if type.acronym ∈ declaredAcronyms document.contractTypeValues then 0 else 1 := by
    rw [← countP_addedMembers types listed regular, ← List.countP_append, ← records.countP_eq,
      List.countP_map]
    rfl
  rw [whole]
  by_cases given : type.acronym ∈ declaredAcronyms document.contractTypeValues
  · -- The value that gives the acronym is read as a declared member, and there is no other.
    have one : declared.countP (sameIgnoringCase ·.acronym type.acronym) = 1 := by
      obtain ⟨value, written, gives⟩ := List.mem_filterMap.1 given
      obtain ⟨member, ofDeclared, hmember⟩ := exists_result_of_mapM_eq_ok read written
      have agrees : sameIgnoringCase member.acronym type.acronym = true := by
        rw [acronym_of_ofJson hmember gives]
        exact beq_self_eq_true _
      exact countP_eq_one_of_mem members ofDeclared agrees
    simp only [given, one, if_true, true_or]
  · simp only [given, if_false, false_or, Nat.add_eq_right, List.countP_eq_zero,
      Bool.not_eq_true]

theorem countP_contractType_of_optionsApart :
    ∃ dictionary warnings, optionsApart.compile = .ok ⟨dictionary, warnings⟩ ∧
      ∀ type ∈ optionsApart.taxonomy.values,
        dictionary.contractType.members.countP (sameIgnoringCase ·.acronym type.acronym) = 1 := by
  obtain ⟨⟨dictionary, warnings⟩, compiled⟩ :=
    faultOf_eq_none.1 (show faultOf optionsApart.compile = none by decide +kernel)
  obtain ⟨declared, read, once⟩ := countP_contractType_eq_one_iff compiled
  have members : optionsApart.contractTypeValues.mapM MemberRecord.ofJson =
      .ok [.plain 0 "PAM", .plain (-3) "LAM"] := by decide +kernel
  cases read.symm.trans members
  have regular : ∀ type ∈ optionsApart.taxonomy.values, type.acronym ≠ "EXOTi" ∧
      (type.acronym ∈ declaredAcronyms optionsApart.contractTypeValues ∨
        ∀ member ∈ [MemberRecord.plain 0 "PAM", .plain (-3) "LAM"],
          sameIgnoringCase member.acronym type.acronym = false) := by decide +kernel
  refine ⟨dictionary, warnings, compiled, fun type listed => ?_⟩
  obtain ⟨notPlaceholder, met⟩ := regular type listed
  exact (once (by decide +kernel) (by decide +kernel) type listed notPlaceholder).2 met

/-- A contract type whose acronym the declared member gives in upper case. -/
def spelledApart : Document :=
  .ofMembers [.plain 0 "PAM"] [.plain "pam" "pam"]

/--
The acronym of a contract type is compared as it is written and added in upper case, so that
there may be two members for one type, of one name in the generated enumeration.
-/
theorem compiles_with_acronym_twice :
    ∃ dictionary warnings, spelledApart.compile = .ok ⟨dictionary, warnings⟩ ∧
      ∃ declared, spelledApart.contractTypeValues.mapM MemberRecord.ofJson = .ok declared ∧
        (declared.map (upper ·.acronym)).Nodup ∧
        (spelledApart.taxonomy.values.map (upper ·.acronym)).Nodup ∧
        ∃ type ∈ spelledApart.taxonomy.values, type.acronym ≠ "EXOTi" ∧
          dictionary.contractType.members.countP (sameIgnoringCase ·.acronym type.acronym) ≠ 1 ∧
          ¬(dictionary.contractType.members.map (memberName ·.acronym)).Nodup := by
  obtain ⟨⟨dictionary, warnings⟩, compiled, held⟩ := exists_ok_of_any
    (show spelledApart.compile.toOption.any (fun compilation => decide
      (compilation.dictionary.contractType.members.countP (sameIgnoringCase ·.acronym "pam") ≠ 1 ∧
        ¬(compilation.dictionary.contractType.members.map (memberName ·.acronym)).Nodup)) = true by
        decide +kernel)
  have members : spelledApart.contractTypeValues.mapM MemberRecord.ofJson =
      .ok [.plain 0 "PAM"] := by decide +kernel
  have listed : ContractTypeRecord.plain "pam" "pam" ∈ spelledApart.taxonomy.values :=
    List.mem_singleton.2 rfl
  exact ⟨dictionary, warnings, compiled, _, members, by decide, by decide +kernel, _, listed,
    by decide, of_decide_eq_true held⟩

end ContractDictionary
