import ContractDictionary.Proofs.Document.Rearrangement

/-!
# Reading a rearranged document

A reader carries a change over to what is read: if a tree can be read, so can the changed tree,
and the two values are related.  Readers of records carry the changes of records, readers of
sections those of sections, and so on up to whole documents.
-/

namespace ContractDictionary

open Json (Tree Reordered)

variable {α : Type}

/-- What is read from a changed tree is related to what is read from the tree itself. -/
def Carries (change : Change) (reader : Reader α) (related : α → α → Prop) : Prop :=
  ∀ ⦃room : Nat⦄ ⦃tree tree' : Tree⦄ ⦃value : α⦄, tree.keysDiffer = true → change tree tree' →
    reader room tree = .ok value → ∃ value', reader room tree' = .ok value' ∧ related value value'

/-- A check that a tree passes is passed by the changed tree as well. -/
def FieldShape.Carries (shape : FieldShape) (change : Change) : Prop :=
  ∀ ⦃room : Nat⦄ ⦃tree tree' : Tree⦄, tree.keysDiffer = true → change tree tree' →
    shape.check room tree = .ok () → shape.check room tree' = .ok ()

theorem Carries.shape {change : Change} {field : Field α} {related : α → α → Prop}
    (carries : Carries change field.reader related) : field.shape.Carries change := by
  intro room tree tree' differ changed passes
  obtain ⟨value, read, -⟩ := map_eq_ok.1 passes
  obtain ⟨value', read', -⟩ := carries differ changed read
  exact map_eq_ok.2 ⟨value', read', rfl⟩

/-- Every known key has a change, which its check carries. -/
def FieldsCarry (shapes : List FieldShape) (changes : List (String × Change)) : Prop :=
  List.Forall₂ (fun shape change => change.1 = shape.name ∧ shape.Carries change.2) shapes changes

namespace FieldsCarry

variable {shapes : List FieldShape} {changes : List (String × Change)}

theorem names (carry : FieldsCarry shapes changes) :
    changes.map Prod.fst = shapes.map FieldShape.name :=
  map_eq_of_related carry FieldShape.name Prod.fst fun _ _ entry => entry.1

/-- The check for a known key carries the change of the key. -/
theorem of_find? (carry : FieldsCarry shapes changes) {key : String} {shape : FieldShape}
    (known : shapes.find? (·.name == key) = some shape) :
    shape.Carries (changeOf changes key) := by
  unfold changeOf
  induction carry with
  | nil => cases known
  | @cons first change _ _ own _ ih =>
      rw [List.find?_cons] at known
      rw [List.lookup_cons, own.1]
      by_cases same : first.name = key
      · subst same
        rw [beq_self_eq_true] at known ⊢
        cases known
        exact own.2
      · rw [beq_false_of_ne same] at known
        rw [beq_false_of_ne (Ne.symm same)]
        exact ih known

/-- A value under an unknown key is changed in the order of its records only. -/
theorem changeOf_of_unknown (carry : FieldsCarry shapes changes) {key : String}
    (unknown : shapes.find? (·.name == key) = none) : changeOf changes key = Reordered := by
  unfold changeOf
  induction carry with
  | nil => rfl
  | @cons first change _ _ own _ ih =>
      rw [List.find?_cons] at unknown
      rw [List.lookup_cons, own.1]
      by_cases same : first.name = key
      · rw [beq_iff_eq.2 same] at unknown
        cases unknown
      · rw [beq_false_of_ne same] at unknown
        rw [beq_false_of_ne (Ne.symm same)]
        exact ih unknown

/-- Further fields of a record have unknown keys. -/
theorem find?_of_isExtra (carry : FieldsCarry shapes changes) {field : Option String × Tree}
    (isExtra : IsExtra changes field) : ∃ key text, field = (some key, .text (some text)) ∧
      shapes.find? (·.name == key) = none := by
  obtain ⟨key, text, rfl, fresh⟩ := isExtra
  rw [carry.names] at fresh
  refine ⟨key, text, rfl, List.find?_eq_none.2 fun shape listed same => fresh ?_⟩
  exact List.mem_map.2 ⟨shape, listed, beq_iff_eq.1 same⟩

end FieldsCarry

/-- The value under a listed key is changed as it is listed, if the keys are distinct. -/
theorem changeOf_of_mem {changes : List (String × Change)}
    (distinct : (changes.map Prod.fst).Nodup) {entry : String × Change} (listed : entry ∈ changes) :
    changeOf changes entry.1 = entry.2 := by
  rw [changeOf, lookup_of_mem distinct listed, Option.getD_some]

/-- Of the trees that were found, each is changed as its key allows. -/
structure Fields.Changed (changes : List (String × Change)) (found found' : Fields) : Prop where
  room_eq : found'.room = found.room
  lookup : ∀ entry ∈ changes, Option.Rel
    (fun tree tree' => tree.keysDiffer = true ∧ entry.2 tree tree')
    (found.found.lookup entry.1) (found'.found.lookup entry.1)

section

variable {changes : List (String × Change)}
  {fields changed extra fields' : List (Option String × Tree)}

theorem keys_of_fieldChange (each : List.Forall₂ (FieldChange changes) fields changed) :
    changed.map Prod.fst = fields.map Prod.fst :=
  map_eq_of_related each Prod.fst Prod.fst fun _ _ field => field.key

theorem count_some (fields : List (Option String × Tree)) (key : String) :
    (fields.map Prod.fst).count (some key) = (fields.filterMap Prod.fst).count key := by
  induction fields with
  | nil => rfl
  | cons field rest ih =>
      obtain ⟨own, tree⟩ := field
      cases own with
      | none => simpa using ih
      | some own => simpa [List.count_cons] using ih

/-- Under a key with a change a rearranged record has the changed tree, if it has any. -/
theorem rel_lookup_of_named (distinct : (changes.map Prod.fst).Nodup)
    (keys : (fields.filterMap Prod.fst).Nodup)
    (differ : ∀ field ∈ fields, field.2.keysDiffer = true)
    (each : List.Forall₂ (FieldChange changes) fields changed)
    (unknown : ∀ field ∈ extra, IsExtra changes field) (order : (changed ++ extra).Perm fields')
    {entry : String × Change} (listed : entry ∈ changes) :
    Option.Rel (fun tree tree' => tree.keysDiffer = true ∧ entry.2 tree tree')
      (fields.lookup (some entry.1)) (fields'.lookup (some entry.1)) := by
  have noExtra : some entry.1 ∉ extra.map Prod.fst := by
    intro member
    obtain ⟨field, added, same⟩ := List.mem_map.1 member
    obtain ⟨key, text, rfl, fresh⟩ := unknown field added
    exact fresh (Option.some.inj same ▸ List.mem_map_of_mem listed)
  have once : ((changed ++ extra).map Prod.fst).count (some entry.1) ≤ 1 := by
    rw [List.map_append, List.count_append, List.count_eq_zero.2 noExtra, keys_of_fieldChange each,
      count_some]
    exact List.nodup_iff_count_le_one.1 keys entry.1
  have own : fields'.lookup (some entry.1) = changed.lookup (some entry.1) := by
    rw [← lookup_perm order once, List.lookup_append, lookup_eq_none_of_notMem noExtra,
      Option.or_none]
  have pairs := (List.forall₂_and_left fields changed).2 ⟨differ, each⟩
  have found := rel_lookup (fun own tree tree' =>
      ∀ key, own = some key → tree.keysDiffer = true ∧ changeOf changes key tree tree')
    (pairs.imp fun _ _ field =>
      ⟨field.2.key, fun key own => ⟨field.1, field.2.value key own⟩⟩) (some entry.1)
  rw [own, ← changeOf_of_mem distinct listed]
  exact rel_imp (fun _ _ change => change _ rfl) found

/-- A rearranged record has the known keys of the record. -/
theorem knownKeys_perm {shapes : List FieldShape} (carry : FieldsCarry shapes changes)
    (each : List.Forall₂ (FieldChange changes) fields changed)
    (unknown : ∀ field ∈ extra, IsExtra changes field) (order : (changed ++ extra).Perm fields') :
    (knownKeys shapes fields').Perm (knownKeys shapes fields) := by
  have none : knownKeys shapes extra = [] := by
    refine List.filter_eq_nil_iff.2 fun key member known => ?_
    obtain ⟨field, added, own⟩ := List.mem_filterMap.1 member
    obtain ⟨key', text, rfl, isNew⟩ := carry.find?_of_isExtra (unknown field added)
    cases own
    rw [isNew] at known
    cases known
  have same : changed.filterMap Prod.fst = fields.filterMap Prod.fst := by
    have kept := congrArg (List.filterMap id) (keys_of_fieldChange each)
    rw [List.filterMap_map, List.filterMap_map] at kept
    exact kept
  have whole : knownKeys shapes (changed ++ extra) = knownKeys shapes fields := by
    rw [knownKeys, List.filterMap_append, List.filter_append, same]
    exact (congrArg (knownKeys shapes fields ++ ·) none).trans (List.append_nil _)
  exact whole ▸ ((order.filterMap _).filter _).symm

/-- A rearranged record can be read if the record can. -/
theorem canBeRead_of_named {shapes : List FieldShape} (carry : FieldsCarry shapes changes)
    (distinct : (shapes.map FieldShape.name).Nodup) {room : Nat} {fault : Option Json.Break}
    (keys : (fields.filterMap Prod.fst).Nodup)
    (differ : ∀ field ∈ fields, field.2.keysDiffer = true)
    (each : List.Forall₂ (FieldChange changes) fields changed)
    (unknown : ∀ field ∈ extra, IsExtra changes field) (order : (changed ++ extra).Perm fields')
    (can : CanBeRead shapes room fields fault) : CanBeRead shapes room fields' fault := by
  constructor
  case closed => exact can.closed
  case passes =>
    intro field' member
    rcases List.mem_append.1 (order.mem_iff.2 member) with kept | added
    · obtain ⟨field, listed, change⟩ := exists_of_mem_right each kept
      obtain ⟨key, own, passes⟩ := can.passes field listed
      refine ⟨key, change.key.trans own, ?_⟩
      cases known : shapes.find? (·.name == key) with
      | some shape =>
          rw [known] at passes
          exact carry.of_find? known (differ field listed) (change.value key own) passes
      | none =>
          rw [known] at passes
          have reordered := change.value key own
          rw [carry.changeOf_of_unknown known] at reordered
          exact reordered.skips passes
    · obtain ⟨key, text, rfl, isNew⟩ := carry.find?_of_isExtra (unknown field' added)
      rw [passes_some_iff, isNew]
      rfl
  case distinct => exact (knownKeys_perm carry each unknown order).nodup_iff.2 can.distinct
  case complete =>
    intro shape listed required
    have named : shape.name ∈ changes.map Prod.fst :=
      carry.names ▸ List.mem_map_of_mem listed
    obtain ⟨entry, ofChanges, own⟩ := List.mem_map.1 named
    have found := rel_lookup_of_named (carry.names ▸ distinct) keys differ each unknown order
      ofChanges
    rw [own] at found
    exact isSome_of_rel found (can.complete shape listed required)

end

theorem eq_nil_of_scanListed_nil {shapes : List FieldShape} {room : Nat}
    {fault : Option Json.Break} {found : List (String × Tree)}
    (scanned : scanListed room fault shapes [] = .ok found) : found = [] := by
  induction shapes with
  | nil =>
      obtain ⟨-, -, nothing⟩ := bind_eq_ok.1 scanned
      exact pure_eq_ok.1 nothing
  | cons shape shapes ih =>
      rw [scanListed] at scanned
      obtain ⟨-, -, scanned⟩ := bind_eq_ok.1 scanned
      split at scanned
      · cases scanned
      · exact ih scanned

/-- The scan of changed items finds what it finds of the items, changed by its key. -/
theorem exists_scanListed_of_listed {shapes : List FieldShape} {changes : List (String × Change)}
    (carry : FieldsCarry shapes changes) {items items' : List Tree}
    (differ : ∀ item ∈ items, item.keysDiffer = true) (each : ItemsChange changes items items')
    {room : Nat} {fault : Option Json.Break} {found : List (String × Tree)}
    (scanned : scanListed room fault shapes items = .ok found) :
    ∃ found', scanListed room fault shapes items' = .ok found' ∧
      List.Forall₂ (fun tree tree' => tree'.1 = tree.1 ∧ tree.2.keysDiffer = true ∧
        ∃ change, (tree.1, change) ∈ changes ∧ change tree.2 tree'.2) found found' := by
  induction each generalizing shapes found with
  | nil =>
      cases eq_nil_of_scanListed_nil scanned
      exact ⟨[], scanned, .nil⟩
  | @cons name change changes item item' rest rest' first _ ih =>
      cases carry with
      | @cons shape _ shapes _ own carry =>
          obtain ⟨rfl, carries⟩ := own
          rw [List.forall_mem_cons] at differ
          simp only [scanListed, bind_eq_ok, pure_eq_ok] at scanned ⊢
          obtain ⟨⟨⟩, passes, later, hlater, rfl⟩ := scanned
          obtain ⟨later', hlater', related⟩ := ih carry differ.2 hlater
          refine ⟨_, ⟨(), carries differ.1 first passes, later', hlater', rfl⟩, ?_⟩
          refine .cons ⟨rfl, differ.1, change, List.mem_cons_self, first⟩ (related.imp ?_)
          rintro tree tree' ⟨same, differ, change, listed, changed⟩
          exact ⟨same, differ, change, List.mem_cons_of_mem _ listed, changed⟩

/-- Records carry their changes to what is found of them. -/
theorem readFields_carries {shapes : List FieldShape} {changes : List (String × Change)}
    (distinct : (shapes.map FieldShape.name).Nodup) (carry : FieldsCarry shapes changes) :
    Carries (RecordChange changes) (readFields shapes) (Fields.Changed changes) := by
  intro room tree tree' found differ changed read
  have names : (changes.map Prod.fst).Nodup := carry.names ▸ distinct
  cases room with
  | zero => cases changed <;> cases read
  | succ room =>
      cases changed with
      | named each unknown order =>
          obtain ⟨keys, differ⟩ := Json.keysDiffer_record.1 differ
          obtain ⟨can, finds⟩ := finds_of_readFields read
          obtain ⟨found', read', finds'⟩ := exists_readFields_of_canBeRead
            (canBeRead_of_named carry distinct keys differ each unknown order can)
          refine ⟨found', read', finds'.room_eq.trans finds.room_eq.symm, fun entry listed => ?_⟩
          have named : entry.1 ∈ shapes.map FieldShape.name :=
            carry.names ▸ List.mem_map_of_mem listed
          obtain ⟨shape, known, own⟩ := List.mem_map.1 named
          rw [← own, finds.lookup shape known, finds'.lookup shape known, own]
          exact rel_lookup_of_named names keys differ each unknown order listed
      | listed each =>
          rw [Json.Tree.keysDiffer, Json.itemsDiffer_iff] at differ
          simp only [readFields, bind_eq_ok, pure_eq_ok] at read ⊢
          obtain ⟨trees, scanned, rfl⟩ := read
          obtain ⟨trees', scanned', related⟩ :=
            exists_scanListed_of_listed carry differ each scanned
          refine ⟨⟨room, trees'⟩, ⟨trees', scanned', rfl⟩, rfl, fun entry listed => ?_⟩
          have found := rel_lookup (fun key tree tree' => tree.keysDiffer = true ∧
            ∃ change, (key, change) ∈ changes ∧ change tree tree') related entry.1
          refine rel_imp ?_ found
          rintro tree tree' ⟨differ, change, among, changed⟩
          have own : change = entry.2 :=
            (changeOf_of_mem names among).symm.trans (changeOf_of_mem names listed)
          exact ⟨differ, own ▸ changed⟩

theorem Fields.Changed.get {changes : List (String × Change)} {found found' : Fields}
    (changed : found.Changed changes found') {field : Field α} {change : Change}
    {related : α → α → Prop} (listed : (field.name, change) ∈ changes)
    (carries : Carries change field.reader related)
    (default : ∀ value, field.default = some value → related value value) {value : α}
    (read : field.get found = .ok value) :
    ∃ value', field.get found' = .ok value' ∧ related value value' := by
  have trees := changed.lookup _ listed
  unfold Field.get at read ⊢
  rw [changed.room_eq]
  generalize found.found.lookup field.name = tree? at trees read
  generalize found'.found.lookup field.name = tree?' at trees ⊢
  cases trees with
  | some both => exact carries both.1 both.2 read
  | none =>
      cases given : field.default with
      | none =>
          rw [given] at read
          cases read
      | some standard =>
          rw [given] at read
          cases read
          exact ⟨value, rfl, default value given⟩

theorem Fields.Changed.get_required {changes : List (String × Change)} {found found' : Fields}
    (changed : found.Changed changes found') {field : Field α} {change : Change}
    {related : α → α → Prop} (listed : (field.name, change) ∈ changes)
    (carries : Carries change field.reader related) (required : field.default = none) {value : α}
    (read : field.get found = .ok value) :
    ∃ value', field.get found' = .ok value' ∧ related value value' :=
  changed.get listed carries (fun _ given => nomatch required.symm.trans given) read

/-- A field that does not depend on the order of records is read as before. -/
theorem Fields.Changed.get_eq {changes : List (String × Change)} {found found' : Fields}
    (changed : found.Changed changes found') {field : Field α}
    (listed : (field.name, (Reordered : Change)) ∈ changes)
    (carries : Carries Reordered field.reader Eq) {value : α}
    (read : field.get found = .ok value) : field.get found' = .ok value := by
  obtain ⟨_, read', rfl⟩ := changed.get listed carries (fun _ _ => rfl) read
  exact read'

theorem readText_carries : Carries Reordered readText Eq := by
  intro room tree tree' value _ changed read
  cases changed with
  | leaf | text | broken => exact ⟨value, read, rfl⟩
  | list | record => cases read

theorem readOptionalText_carries : Carries Reordered readOptionalText Eq := by
  intro room tree tree' value _ changed read
  cases changed with
  | leaf | text | broken => exact ⟨value, read, rfl⟩
  | list | record => cases read

theorem readValues_eq_ok {room : Nat} {items : List Tree} {fault : Option Json.Break}
    {values : List Json} :
    readValues (room + 1) (.list items fault) = .ok values ↔
      Json.itemValues room items = .ok values ∧ closed fault = .ok () := by
  simp only [readValues, bind_eq_ok, pure_eq_ok, mapError_eq_ok]
  constructor
  · rintro ⟨_, hvalues, ⟨⟩, closes, rfl⟩
    exact ⟨hvalues, closes⟩
  · rintro ⟨hvalues, closes⟩
    exact ⟨values, hvalues, (), closes, rfl⟩

theorem readValues_carries : Carries Reordered readValues Eq := by
  intro room tree tree' values differ changed read
  cases changed with
  | leaf | text | broken => exact ⟨values, read, rfl⟩
  | record => cases room <;> cases read
  | list each =>
      cases room with
      | zero => cases read
      | succ room =>
          obtain ⟨hvalues, closes⟩ := readValues_eq_ok.1 read
          exact ⟨values, readValues_eq_ok.2 ⟨each.values differ hvalues, closes⟩, rfl⟩

@[simp]
theorem mem_reordered {name : String} {names : List String} :
    (name, (Reordered : Change)) ∈ reordered names ↔ name ∈ names := by
  simp [reordered]

@[simp] theorem textField_name (name : String) : (textField name).name = name := rfl

@[simp]
theorem textFieldWithDefault_name (name default : String) :
    (textFieldWithDefault name default).name = name := rfl

@[simp] theorem optionalTextField_name (name : String) : (optionalTextField name).name = name := rfl

@[simp] theorem identifierField_name : identifierField.name = "identifier" := rfl

@[simp] theorem nameField_name : nameField.name = "name" := rfl

@[simp] theorem acronymField_name : acronymField.name = "acronym" := rfl

@[simp] theorem descriptionField_name : descriptionField.name = "description" := rfl

@[simp] theorem allowedValuesField_name : allowedValuesField.name = "allowedValues" := rfl

theorem readVersion_carries : Carries VersionChange VersionRecord.read Eq := by
  intro room tree tree' version differ changed read
  simp only [VersionRecord.read, bind_eq_ok, pure_eq_ok] at read ⊢
  obtain ⟨found, scanned, number, hnumber, date, hdate, rfl⟩ := read
  obtain ⟨found', scanned', same⟩ := readFields_carries (by decide)
    (.cons ⟨rfl, readText_carries.shape⟩ (.cons ⟨rfl, readText_carries.shape⟩ .nil))
    differ changed scanned
  exact ⟨_, ⟨found', scanned', _, same.get_eq (by simp) readText_carries hnumber, _,
    same.get_eq (by simp) readText_carries hdate, rfl⟩, rfl⟩

theorem readContractType_carries : Carries ContractTypeChange ContractTypeRecord.read Eq := by
  intro room tree tree' record differ changed read
  simp only [ContractTypeRecord.read, bind_eq_ok, pure_eq_ok] at read ⊢
  obtain ⟨found, scanned, acronym, hacronym, classification, hclass, coverage, hcoverage,
    description, hdescription, family, hfamily, identifier, hidentifier, name, hname, status,
    hstatus, rfl⟩ := read
  obtain ⟨found', scanned', same⟩ := readFields_carries (by decide)
    (.cons ⟨rfl, readText_carries.shape⟩ <| .cons ⟨rfl, readText_carries.shape⟩ <|
      .cons ⟨rfl, readOptionalText_carries.shape⟩ <| .cons ⟨rfl, readText_carries.shape⟩ <|
      .cons ⟨rfl, readText_carries.shape⟩ <| .cons ⟨rfl, readText_carries.shape⟩ <|
      .cons ⟨rfl, readText_carries.shape⟩ <| .cons ⟨rfl, readOptionalText_carries.shape⟩ .nil)
    differ changed scanned
  refine ⟨_, ⟨found', scanned', _, same.get_eq (by simp) readText_carries hacronym, _,
    same.get_eq (by simp) readText_carries hclass, _,
    same.get_eq (by simp) readOptionalText_carries hcoverage, _,
    same.get_eq (by simp) readText_carries hdescription, _,
    same.get_eq (by simp) readText_carries hfamily, _,
    same.get_eq (by simp) readText_carries hidentifier, _,
    same.get_eq (by simp) readText_carries hname, _,
    same.get_eq (by simp) readOptionalText_carries hstatus, rfl⟩, rfl⟩

end ContractDictionary
