import ContractDictionary.Compile.Normal
import ContractDictionary.Proofs.Document.Scan

/-!
# Allowed values that are members

An allowed value is a member if it can be read as one.  Values that are written from members
are members again, and the repair of the acronyms of scaling effects makes no member of a value
that is none and keeps every member one.
-/

namespace ContractDictionary

open Json (Tree)

theorem distinct_memberShapes : (memberShapes.map FieldShape.name).Nodup := by
  decide

structure Fields.Give (fields : Fields) (member : MemberRecord) : Prop where
  option : optionField.get fields = .ok member.option
  identifier : identifierField.get fields = .ok member.identifier
  name : nameField.get fields = .ok member.name
  acronym : acronymField.get fields = .ok member.acronym
  description : descriptionField.get fields = .ok member.description

theorem readMember_eq_ok_iff {room : Nat} {tree : Tree} {member : MemberRecord} :
    MemberRecord.read room tree = .ok member ↔
      ∃ fields, readFields memberShapes room tree = .ok fields ∧ fields.Give member := by
  constructor
  · intro read
    simp only [MemberRecord.read, bind_eq_ok, pure_eq_ok] at read
    obtain ⟨fields, scanned, _, option, _, identifier, _, name, _, acronym, _, description, rfl⟩ :=
      read
    exact ⟨fields, scanned, option, identifier, name, acronym, description⟩
  · rintro ⟨fields, scanned, option, identifier, name, acronym, description⟩
    simp only [MemberRecord.read, bind_eq_ok, pure_eq_ok]
    exact ⟨fields, scanned, _, option, _, identifier, _, name, _, acronym, _, description, rfl⟩

theorem faultOf_readMember (room : Nat) (tree : Tree) :
    faultOf (MemberRecord.read room tree) = faultOf (readFields memberShapes room tree) := by
  cases scanned : readFields memberShapes room tree with
  | error fault =>
      rw [MemberRecord.read, scanned]
      rfl
  | ok fields =>
      have pass := pass_of_readFields distinct_memberShapes scanned
      obtain ⟨option, hoption⟩ := Field.exists_get optionField (by simp [memberShapes]) pass
      obtain ⟨identifier, hidentifier⟩ :=
        Field.exists_get identifierField (by simp [memberShapes]) pass
      obtain ⟨name, hname⟩ := Field.exists_get nameField (by simp [memberShapes]) pass
      obtain ⟨acronym, hacronym⟩ :=
        Field.exists_get acronymField (by simp [memberShapes]) pass
      obtain ⟨description, hdescription⟩ :=
        Field.exists_get descriptionField (by simp [memberShapes]) pass
      refine faultOf_eq_none.2 ⟨⟨option, identifier, name, acronym, description⟩, ?_⟩
      exact readMember_eq_ok_iff.2
        ⟨fields, scanned, hoption, hidentifier, hname, hacronym, hdescription⟩

/-- The value can be read as a member. -/
def IsMember (value : Json) : Prop :=
  ∃ member, MemberRecord.ofJson value = .ok member

/-- The fields write the member, whose description is empty if none is written. -/
structure WritesMember (fields : List (String × Json)) (member : MemberRecord) : Prop where
  distinct : (fields.map Prod.fst).Nodup
  option : fields.lookup "option" = some (.integer member.option)
  identifier : fields.lookup "identifier" = some (.text member.identifier)
  name : fields.lookup "name" = some (.text member.name)
  acronym : fields.lookup "acronym" = some (.text member.acronym)
  description : fields.lookup "description" = some (.text member.description) ∨
    fields.lookup "description" = none ∧ member.description = ""

section

variable {fields : List (String × Json)} {member : MemberRecord}
  (written : WritesMember fields member) (ordinal : isOrdinal member.option = true) {room : Nat}

include written ordinal

/-- The value under the name of a field passes its check. -/
theorem WritesMember.check {shape : FieldShape} (listed : shape ∈ memberShapes) {value : Json}
    (found : fields.lookup shape.name = some value) :
    shape.check room value.toTree = .ok () := by
  simp only [memberShapes, List.mem_cons, List.not_mem_nil, or_false] at listed
  obtain rfl | rfl | rfl | rfl | rfl := listed
  · cases written.option.symm.trans found
    show (readOrdinal room (.leaf (some (.integer member.option)))).map _ = _
    rw [readOrdinal, if_pos ordinal]
    rfl
  · cases written.identifier.symm.trans found
    rfl
  · cases written.name.symm.trans found
    rfl
  · cases written.acronym.symm.trans found
    rfl
  · obtain text | ⟨none, -⟩ := written.description
    · cases text.symm.trans found
      rfl
    · cases none.symm.trans found

theorem WritesMember.canBeRead : CanBeRead memberShapes room (Json.fieldTrees fields) none := by
  constructor
  case closed => rfl
  case passes =>
    intro field listed
    rw [fieldTrees_eq_map] at listed
    obtain ⟨⟨key, value⟩, among, rfl⟩ := List.mem_map.1 listed
    rw [passes_some_iff]
    cases known : memberShapes.find? (·.name == key) with
    | none => exact Json.skipFault?_toTree value
    | some shape =>
        have own : shape.name = key := by simpa using List.find?_some known
        subst own
        exact written.check ordinal (List.mem_of_find?_eq_some known)
          (lookup_of_mem written.distinct among)
  case distinct =>
    rw [knownKeys, keys_fieldTrees]
    exact written.distinct.filter _
  case complete =>
    intro shape listed required
    rw [lookup_fieldTrees]
    simp only [memberShapes, List.mem_cons, List.not_mem_nil, or_false] at listed
    obtain rfl | rfl | rfl | rfl | rfl := listed
    · exact congrArg (fun found => (found.map Json.toTree).isSome) written.option
    · exact congrArg (fun found => (found.map Json.toTree).isSome) written.identifier
    · exact congrArg (fun found => (found.map Json.toTree).isSome) written.name
    · exact congrArg (fun found => (found.map Json.toTree).isSome) written.acronym
    · cases required

theorem WritesMember.ofJson_eq_ok : MemberRecord.ofJson (.record fields) = .ok member := by
  have can : CanBeRead memberShapes 126 (Json.fieldTrees fields) none := written.canBeRead ordinal
  obtain ⟨found, scanned, finds⟩ := exists_readFields_of_canBeRead can
  have lookup (name : String) {value : Json} (under : fields.lookup name = some value) :
      (Json.fieldTrees fields).lookup (some name) = some value.toTree := by
    rw [lookup_fieldTrees, under]
    rfl
  have text {field : Field String} (listed : field.shape ∈ memberShapes) {value : String}
      (read : field.reader = readText) (under : fields.lookup field.name = some (.text value)) :
      field.get found = .ok value := by
    rw [finds.get_eq listed (lookup _ under), read]
    rfl
  refine readMember_eq_ok_iff.2 ⟨found, scanned, ?_⟩
  constructor
  case option =>
    have listed : optionField.shape ∈ memberShapes := by simp [memberShapes]
    exact (finds.get_eq listed (lookup _ written.option)).trans (if_pos ordinal)
  case identifier => exact text (by simp [memberShapes]) rfl written.identifier
  case name => exact text (by simp [memberShapes]) rfl written.name
  case acronym => exact text (by simp [memberShapes]) rfl written.acronym
  case description =>
    obtain given | ⟨missing, empty⟩ := written.description
    · exact text (by simp [memberShapes]) rfl given
    · have absent : (Json.fieldTrees fields).lookup (some "description") = none := by
        rw [lookup_fieldTrees, missing]
        rfl
      rw [empty]
      exact finds.get_default (by simp [memberShapes]) rfl absent

end

/-- The fields of a written member stand in key order. -/
theorem toJson_eq (member : MemberRecord) :
    member.toJson = .record [("acronym", .text member.acronym),
      ("description", .text member.description), ("identifier", .text member.identifier),
      ("name", .text member.name), ("option", .integer member.option)] := by
  have identifier : "identifier" < "option" := by decide
  have name : ¬"name" < "identifier" ∧ "name" < "option" := by decide
  have acronym : "acronym" < "identifier" := by decide
  have description : ¬"description" < "acronym" ∧ "description" < "identifier" := by decide
  simp only [MemberRecord.toJson, Json.object, Json.sortFields, Json.insertField, List.foldl_cons,
    List.foldl_nil, identifier, name, acronym, description, if_true, if_false, String.reduceEq]

/-- A member whose option is a signed 64-bit word is read as it is written. -/
theorem ofJson_toJson {member : MemberRecord} (ordinal : isOrdinal member.option = true) :
    MemberRecord.ofJson member.toJson = .ok member := by
  rw [toJson_eq]
  have distinct : ["acronym", "description", "identifier", "name", "option"].Nodup := by decide
  exact WritesMember.ofJson_eq_ok ⟨distinct, rfl, rfl, rfl, rfl, .inl rfl⟩ ordinal

theorem isMember_toJson {member : MemberRecord} (ordinal : isOrdinal member.option = true) :
    IsMember member.toJson :=
  ⟨member, ofJson_toJson ordinal⟩

theorem isOrdinal_toInt (word : Int64) : isOrdinal word.toInt = true := by
  have least := Int64.le_toInt word
  have greatest := Int64.toInt_lt word
  unfold isOrdinal
  rw [Bool.and_eq_true, decide_eq_true_iff, decide_eq_true_iff]
  omega

/-- The members that are added for contract types can be read. -/
theorem isMember_syntheticMembers {values : List Json} {taxonomy : Keyed ContractTypeRecord} :
    ∀ value ∈ (syntheticMembers values taxonomy).map MemberRecord.toJson, IsMember value := by
  intro value listed
  obtain ⟨member, synthetic, rfl⟩ := List.mem_map.1 listed
  obtain ⟨position, _, rfl⟩ := List.mem_mapIdx.1 synthetic
  exact isMember_toJson (isOrdinal_toInt _)

theorem forall_isMember_completeTypes_iff {values : List Json}
    {taxonomy : Keyed ContractTypeRecord} :
    (∀ value ∈ completeTypes values taxonomy, IsMember value) ↔
      ∀ value ∈ values, IsMember value := by
  rw [completeTypes, List.forall_mem_append, and_iff_left isMember_syntheticMembers]

/-- The repair leaves the key of a field alone, and a text a text. -/
theorem repairField_eq (field : String × Json) :
    repairField field = field ∨
      ∃ acronym, field = ("acronym", .text acronym) ∧
        repairField field = ("acronym", .text (repairAcronym acronym)) := by
  unfold repairField
  split
  · next acronym => exact .inr ⟨acronym, rfl, rfl⟩
  · exact .inl rfl

theorem alike_repairField (room : Nat) (field : String × Json) :
    AlikeFields memberShapes room (some field.1, field.2.toTree)
      (some (repairField field).1, (repairField field).2.toTree) := by
  rcases repairField_eq field with same | ⟨acronym, rfl, repaired⟩
  · rw [same]
    exact ⟨rfl, rfl, fun _ _ _ => rfl⟩
  · rw [repaired]
    refine ⟨rfl, rfl, fun shape listed named => ?_⟩
    have own : shape = acronymField.shape := by
      have found := find?_shape distinct_memberShapes listed
      rw [Option.some.inj named] at found
      exact (Option.some.inj found).symm
    rw [own]
    rfl

theorem alike_fieldTrees (room : Nat) (fields : List (String × Json)) :
    List.Forall₂ (AlikeFields memberShapes room) (Json.fieldTrees fields)
      (Json.fieldTrees (fields.map repairField)) := by
  induction fields with
  | nil => exact .nil
  | cons field rest ih => exact .cons (alike_repairField room field) ih

theorem faultOf_ofJson_repairValue (value : Json) :
    faultOf (MemberRecord.ofJson (repairValue value)) = faultOf (MemberRecord.ofJson value) := by
  cases value with
  | record fields =>
      rw [MemberRecord.ofJson, MemberRecord.ofJson, faultOf_readMember, faultOf_readMember]
      exact (faultOf_readFields_alike (alike_fieldTrees _ fields)).symm
  | _ => rfl

/-- The repair of acronyms neither makes nor unmakes members. -/
theorem isMember_repairValue_iff {value : Json} :
    IsMember (repairValue value) ↔ IsMember value := by
  rw [IsMember, IsMember, ← faultOf_eq_none, ← faultOf_eq_none, faultOf_ofJson_repairValue]

end ContractDictionary
