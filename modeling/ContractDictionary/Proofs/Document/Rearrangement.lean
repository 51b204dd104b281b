import ContractDictionary.Proofs.Compile.Sections

/-!
# Rearrangements of a document

A document may be written with the keys of its records in another order, with further texts under
keys that its records do not have, and with the members of its own enumerations in another order,
where their options tell the members apart.  Terms and states have members only if their types are
enumerated: the values of other ones are kept as they are, unknown keys and all, and only the order
of keys may differ in them, however deep.
-/

namespace ContractDictionary.Json

mutual

def Tree.keysDiffer : Tree → Bool
  | .leaf _ | .text _ | .broken _ => true
  | .list items _ => itemsDiffer items
  | .record fields _ => decide (fields.filterMap Prod.fst).Nodup && fieldsDiffer fields

def itemsDiffer : List Tree → Bool
  | [] => true
  | item :: rest => item.keysDiffer && itemsDiffer rest

def fieldsDiffer : List (Option String × Tree) → Bool
  | [] => true
  | (_, value) :: rest => value.keysDiffer && fieldsDiffer rest

end

theorem itemsDiffer_iff {items : List Tree} :
    itemsDiffer items = true ↔ ∀ item ∈ items, item.keysDiffer = true := by
  induction items with
  | nil => simp [itemsDiffer]
  | cons item rest ih => rw [itemsDiffer, Bool.and_eq_true, List.forall_mem_cons, ih]

theorem fieldsDiffer_iff {fields : List (Option String × Tree)} :
    fieldsDiffer fields = true ↔ ∀ field ∈ fields, field.2.keysDiffer = true := by
  induction fields with
  | nil => simp [fieldsDiffer]
  | cons field rest ih => rw [fieldsDiffer, Bool.and_eq_true, List.forall_mem_cons, ih]

theorem keysDiffer_record {fields : List (Option String × Tree)} {fault : Option Break} :
    (Tree.record fields fault).keysDiffer = true ↔
      (fields.filterMap Prod.fst).Nodup ∧ ∀ field ∈ fields, field.2.keysDiffer = true := by
  rw [Tree.keysDiffer, Bool.and_eq_true, decide_eq_true_iff, fieldsDiffer_iff]

mutual

/-- The second tree is the first one with the fields of its records reordered. -/
inductive Reordered : Tree → Tree → Prop
  | leaf (value : Option Json) : Reordered (.leaf value) (.leaf value)
  | text (value : Option String) : Reordered (.text value) (.text value)
  | broken (fault : Break) : Reordered (.broken fault) (.broken fault)
  | list {items items' : List Tree} {fault : Option Break} (each : ReorderedItems items items') :
      Reordered (.list items fault) (.list items' fault)
  | record {fields changed fields' : List (Option String × Tree)} {fault : Option Break}
      (each : ReorderedFields fields changed) (order : changed.Perm fields') :
      Reordered (.record fields fault) (.record fields' fault)

inductive ReorderedItems : List Tree → List Tree → Prop
  | nil : ReorderedItems [] []
  | cons {item item' : Tree} {rest rest' : List Tree} (first : Reordered item item')
      (others : ReorderedItems rest rest') : ReorderedItems (item :: rest) (item' :: rest')

inductive ReorderedFields : List (Option String × Tree) → List (Option String × Tree) → Prop
  | nil : ReorderedFields [] []
  | cons {key : Option String} {value value' : Tree} {rest rest' : List (Option String × Tree)}
      (first : Reordered value value') (others : ReorderedFields rest rest') :
      ReorderedFields ((key, value) :: rest) ((key, value') :: rest')

end

mutual

theorem Reordered.refl : ∀ tree : Tree, Reordered tree tree
  | .leaf value => .leaf value
  | .text value => .text value
  | .broken fault => .broken fault
  | .list items _ => .list (ReorderedItems.refl items)
  | .record fields _ => .record (ReorderedFields.refl fields) (.refl fields)

theorem ReorderedItems.refl : ∀ items : List Tree, ReorderedItems items items
  | [] => .nil
  | item :: rest => .cons (Reordered.refl item) (ReorderedItems.refl rest)

theorem ReorderedFields.refl : ∀ fields : List (Option String × Tree),
    ReorderedFields fields fields
  | [] => .nil
  | (_, value) :: rest => .cons (Reordered.refl value) (ReorderedFields.refl rest)

end

theorem skipFields?_eq_none {fields : List (Option String × Tree)} :
    skipFields? fields = none ↔ ∀ field ∈ fields, field.2.skipFault? = none := by
  induction fields with
  | nil => simp [skipFields?]
  | cons field rest ih => rw [skipFields?, Option.or_eq_none_iff, List.forall_mem_cons, ih]

mutual

/-- A tree with reordered records can be passed over if the tree can. -/
theorem Reordered.skips {tree tree' : Tree} (reordered : Reordered tree tree')
    (skips : tree.skipFault? = none) : tree'.skipFault? = none := by
  cases reordered with
  | leaf | text | broken => exact skips
  | list each =>
      rw [Tree.skipFault?, Option.or_eq_none_iff] at skips ⊢
      exact ⟨each.skips skips.1, skips.2⟩
  | record each order =>
      rw [Tree.skipFault?, Option.or_eq_none_iff] at skips ⊢
      refine ⟨skipFields?_eq_none.2 fun field member => ?_, skips.2⟩
      exact skipFields?_eq_none.1 (each.skips skips.1) field (order.mem_iff.2 member)

theorem ReorderedItems.skips {items items' : List Tree} (reordered : ReorderedItems items items')
    (skips : skipItems? items = none) : skipItems? items' = none := by
  cases reordered with
  | nil => exact skips
  | cons first others =>
      rw [skipItems?, Option.or_eq_none_iff] at skips ⊢
      exact ⟨first.skips skips.1, others.skips skips.2⟩

theorem ReorderedFields.skips {fields fields' : List (Option String × Tree)}
    (reordered : ReorderedFields fields fields') (skips : skipFields? fields = none) :
    skipFields? fields' = none := by
  cases reordered with
  | nil => exact skips
  | cons first others =>
      rw [skipFields?, Option.or_eq_none_iff] at skips ⊢
      exact ⟨first.skips skips.1, others.skips skips.2⟩

end

theorem fieldValues_eq_ok {room : Nat} {fields : List (Option String × Tree)}
    {entries : List (String × Json)} :
    fieldValues room fields = .ok entries ↔
      List.Forall₂ (fun field entry => field.1 = some entry.1 ∧ field.2.value room = .ok entry.2)
        fields entries := by
  refine recursion_eq_ok (fieldValues room) rfl ?_
  rintro ⟨own, tree⟩ rest results
  cases own with
  | none => simp [fieldValues]
  | some key =>
      simp only [fieldValues, bind_eq_ok, pure_eq_ok]
      constructor
      · rintro ⟨value, hvalue, values, hvalues, rfl⟩
        exact ⟨(key, value), ⟨rfl, hvalue⟩, values, hvalues, rfl⟩
      · rintro ⟨⟨_, value⟩, ⟨⟨⟩, hvalue⟩, values, hvalues, rfl⟩
        exact ⟨value, hvalue, values, hvalues, rfl⟩

theorem keys_of_fieldValues {room : Nat} {fields : List (Option String × Tree)}
    {entries : List (String × Json)} (read : fieldValues room fields = .ok entries) :
    entries.map Prod.fst = fields.filterMap Prod.fst :=
  keys_of_entries (fieldValues_eq_ok.1 read)

/-- Fields in another order are read in that order. -/
theorem fieldValues_perm {room : Nat} {fields fields' : List (Option String × Tree)}
    {entries : List (String × Json)} (order : fields.Perm fields')
    (read : fieldValues room fields = .ok entries) :
    ∃ entries', fieldValues room fields' = .ok entries' ∧ entries.Perm entries' := by
  obtain ⟨entries', each, perm⟩ := List.perm_comp_forall₂ order.symm (fieldValues_eq_ok.1 read)
  exact ⟨entries', fieldValues_eq_ok.2 each, perm.symm⟩

mutual

/-- A tree without repeated keys has its value also with its records reordered. -/
theorem Reordered.value {tree tree' : Tree} (reordered : Reordered tree tree')
    (differ : tree.keysDiffer = true) {room : Nat} {value : Json}
    (read : tree.value room = .ok value) : tree'.value room = .ok value := by
  cases reordered with
  | leaf | text | broken => exact read
  | list each =>
      cases room with
      | zero => cases read
      | succ room =>
          simp only [Tree.value, bind_eq_ok, pure_eq_ok] at read ⊢
          obtain ⟨values, hvalues, ends⟩ := read
          exact ⟨values, each.values differ hvalues, ends⟩
  | record each order =>
      cases room with
      | zero => cases read
      | succ room =>
          rw [Tree.keysDiffer, Bool.and_eq_true, decide_eq_true_iff] at differ
          simp only [Tree.value, bind_eq_ok, pure_eq_ok] at read ⊢
          obtain ⟨entries, hentries, ends, closes, rfl⟩ := read
          obtain ⟨entries', hentries', perm⟩ :=
            fieldValues_perm order (each.values differ.2 hentries)
          rw [object_perm perm (keys_of_fieldValues hentries ▸ differ.1)]
          exact ⟨entries', hentries', ends, closes, rfl⟩

theorem ReorderedItems.values {items items' : List Tree} (reordered : ReorderedItems items items')
    (differ : itemsDiffer items = true) {room : Nat} {values : List Json}
    (read : itemValues room items = .ok values) : itemValues room items' = .ok values := by
  cases reordered with
  | nil => exact read
  | cons first others =>
      rw [itemsDiffer, Bool.and_eq_true] at differ
      simp only [itemValues, bind_eq_ok, pure_eq_ok] at read ⊢
      obtain ⟨value, hvalue, rest, hrest, rfl⟩ := read
      exact ⟨value, first.value differ.1 hvalue, rest, others.values differ.2 hrest, rfl⟩

theorem ReorderedFields.values {fields fields' : List (Option String × Tree)}
    (reordered : ReorderedFields fields fields') (differ : fieldsDiffer fields = true) {room : Nat}
    {entries : List (String × Json)} (read : fieldValues room fields = .ok entries) :
    fieldValues room fields' = .ok entries := by
  cases reordered with
  | nil => exact read
  | @cons key _ _ _ _ first others =>
      rw [fieldsDiffer, Bool.and_eq_true] at differ
      cases key with
      | none => cases read
      | some key =>
          simp only [fieldValues, bind_eq_ok, pure_eq_ok] at read ⊢
          obtain ⟨value, hvalue, rest, hrest, rfl⟩ := read
          exact ⟨value, first.value differ.1 hvalue, rest, others.values differ.2 hrest, rfl⟩

end

end ContractDictionary.Json

/-! ## Documents -/

namespace ContractDictionary

open Json (Tree Reordered)

abbrev Change : Type := Tree → Tree → Prop

/-- The change of the value under a key; under a key without one only records are reordered. -/
def changeOf (changes : List (String × Change)) (key : String) : Change :=
  (changes.lookup key).getD Reordered

/-- The field keeps its key, and its value is changed as the key allows. -/
structure FieldChange (changes : List (String × Change)) (field field' : Option String × Tree) :
    Prop where
  key : field'.1 = field.1
  value : ∀ key, field.1 = some key → changeOf changes key field.2 field'.2

/-- The field gives a text under a key without a change. -/
def IsExtra (changes : List (String × Change)) (field : Option String × Tree) : Prop :=
  ∃ key text, field = (some key, .text (some text)) ∧ key ∉ changes.map Prod.fst

inductive ItemsChange : List (String × Change) → List Tree → List Tree → Prop
  | nil {changes : List (String × Change)} : ItemsChange changes [] []
  | cons {name : String} {change : Change} {changes : List (String × Change)}
      {item item' : Tree} {rest rest' : List Tree} (first : change item item')
      (others : ItemsChange changes rest rest') :
      ItemsChange ((name, change) :: changes) (item :: rest) (item' :: rest')

/--
The values of a record are changed as their keys allow, the fields are reordered, and there may be
further ones; a record that is written as a list keeps its order.
-/
inductive RecordChange (changes : List (String × Change)) : Change
  | named {fields changed extra fields' : List (Option String × Tree)} {fault : Option Json.Break}
      (each : List.Forall₂ (FieldChange changes) fields changed)
      (unknown : ∀ field ∈ extra, IsExtra changes field)
      (order : (changed ++ extra).Perm fields') :
      RecordChange changes (.record fields fault) (.record fields' fault)
  | listed {items items' : List Tree} {fault : Option Json.Break}
      (each : ItemsChange changes items items') :
      RecordChange changes (.list items fault) (.list items' fault)

/-- The values of a section are changed, and its entries are reordered. -/
inductive SectionChange (change : Change) : Change
  | entries {fields changed fields' : List (Option String × Tree)} {fault : Option Json.Break}
      (each : List.Forall₂ (fun field field' => field'.1 = field.1 ∧ change field.2 field'.2)
        fields changed)
      (order : changed.Perm fields') :
      SectionChange change (.record fields fault) (.record fields' fault)

/-- The keys whose values are changed in the order of their records only. -/
def reordered (names : List String) : List (String × Change) :=
  names.map fun name => (name, Reordered)

def memberNames : List String :=
  ["option", "identifier", "name", "acronym", "description"]

def MemberChange : Change :=
  RecordChange (reordered memberNames)

inductive MembersChange : Change
  | list {items items' : List Tree} {fault : Option Json.Break}
      (each : List.Forall₂ MemberChange items items') :
      MembersChange (.list items fault) (.list items' fault)

/-- If the items can be read as members, no two of these have one option. -/
def OptionsDiffer (items : List Tree) : Prop :=
  ∀ room values members, Json.itemValues room items = .ok values →
    values.mapM MemberRecord.ofJson = .ok members → (members.map (·.option)).Nodup

/-- The members of a list are changed, and reordered if they have options of their own. -/
inductive MembersRearranged : Change
  | list {items changed items' : List Tree} {fault : Option Json.Break}
      (each : List.Forall₂ MemberChange items changed)
      (order : changed = items' ∨ OptionsDiffer items ∧ changed.Perm items') :
      MembersRearranged (.list items fault) (.list items' fault)

def termRecordChange (values : Change) : Change :=
  RecordChange (reordered ["identifier", "name", "acronym", "type"] ++
    ("allowedValues", values) :: reordered ["default", "group", "description"])

def TermChange (tree tree' : Tree) : Prop :=
  termRecordChange Reordered tree tree' ∨
    (∀ room record, TermRecord.read room tree = .ok record → DeclaresEnumeration record.type) ∧
      termRecordChange MembersChange tree tree'

def stateRecordChange (values : Change) : Change :=
  RecordChange (reordered ["identifier", "name", "acronym", "type"] ++
    ("allowedValues", values) :: reordered ["description"])

def StateChange (tree tree' : Tree) : Prop :=
  stateRecordChange Reordered tree tree' ∨
    (∀ room record, StateRecord.read room tree = .ok record → DeclaresEnumeration record.type) ∧
      stateRecordChange MembersChange tree tree'

def EnumerationChange : Change :=
  RecordChange (reordered ["identifier", "name", "acronym", "description"] ++
    [("allowedValues", MembersRearranged)])

def VersionChange : Change :=
  RecordChange (reordered ["Version", "Date"])

def ContractTypeChange : Change :=
  RecordChange (reordered
    ["acronym", "class", "coverage", "description", "family", "identifier", "name", "status"])

def EventChange : Change :=
  RecordChange [("eventType", EnumerationChange)]

def ReferenceChange : Change :=
  RecordChange [("role", EnumerationChange), ("type", EnumerationChange)]

def DocumentChange : Change :=
  RecordChange [("version", VersionChange), ("terms", SectionChange TermChange),
    ("states", SectionChange StateChange), ("taxonomy", SectionChange ContractTypeChange),
    ("applicability", SectionChange (SectionChange Reordered)), ("event", EventChange),
    ("contractReference", ReferenceChange)]

end ContractDictionary
