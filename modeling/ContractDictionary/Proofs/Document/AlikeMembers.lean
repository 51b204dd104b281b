import ContractDictionary.Proofs.Document.Rearrangement

/-!
# Values that write one member

A changed member is written by a value of its own, which has the same under the keys that a member
has.  Such values are read as one member, before and after the repair of acronyms.
-/

namespace ContractDictionary

open Json (Tree Reordered)

/-- The two values are the same, or records that have the same under the keys of a member. -/
inductive AlikeMember : Json → Json → Prop
  | same (value : Json) : AlikeMember value value
  | record {fields fields' : List (String × Json)} (keys : (fields.map Prod.fst).Nodup)
      (keys' : (fields'.map Prod.fst).Nodup)
      (agree : ∀ name ∈ memberNames, fields.lookup name = fields'.lookup name) :
      AlikeMember (.record fields) (.record fields')

namespace Json

theorem nodup_keys_sortFields (fields : List (String × Json)) :
    ((sortFields fields).map Prod.fst).Nodup := by
  rw [sortFields_eq]
  refine List.Pairwise.map _ (fun _ _ less => ?_) (Keyed.ofList fields).ordered
  exact String.ne_of_lt less

end Json

theorem changeOf_reordered (names : List String) (key : String) :
    changeOf (reordered names) key = Reordered := by
  unfold changeOf
  cases found : (reordered names).lookup key with
  | none => rfl
  | some change =>
      obtain ⟨name, -, same⟩ := List.mem_map.1 (mem_of_lookup found)
      cases same
      rfl

theorem reorderedItems_of_itemsChange {changes : List (String × Change)}
    (all : ∀ entry ∈ changes, entry.2 = Reordered) {items items' : List Tree}
    (each : ItemsChange changes items items') : Json.ReorderedItems items items' := by
  induction each with
  | nil => exact .nil
  | cons first _ ih =>
      rw [List.forall_mem_cons] at all
      obtain ⟨rfl, all⟩ := all
      exact .cons first (ih all)

section

variable {names : List String} {room : Nat} {fields changed extra : List (Option String × Tree)}

/-- Fields of which only the records are reordered are read as before. -/
theorem fieldValues_of_fieldChange (differ : ∀ field ∈ fields, field.2.keysDiffer = true)
    (each : List.Forall₂ (FieldChange (reordered names)) fields changed)
    {entries : List (String × Json)} (read : Json.fieldValues room fields = .ok entries) :
    Json.fieldValues room changed = .ok entries := by
  have step : ∀ (field field' : Option String × Tree) (entry : String × Json),
      (field.2.keysDiffer = true ∧ FieldChange (reordered names) field field') →
      (field.1 = some entry.1 ∧ field.2.value room = .ok entry.2) →
      ∃ entry' : String × Json, (field'.1 = some entry'.1 ∧ field'.2.value room = .ok entry'.2) ∧
        entry = entry' := by
    rintro field field' ⟨key, value⟩ ⟨differ, changed⟩ ⟨own, hvalue⟩
    have reordered := changed.value key own
    rw [changeOf_reordered] at reordered
    exact ⟨(key, value), ⟨changed.key.trans own, reordered.value differ hvalue⟩, rfl⟩
  obtain ⟨entries', each', same⟩ := exists_of_steps step
    ((List.forall₂_and_left _ _).2 ⟨differ, each⟩) (Json.fieldValues_eq_ok.1 read)
  rw [List.forall₂_eq_eq_eq] at same
  exact Json.fieldValues_eq_ok.2 (same ▸ each')

theorem exists_fieldValues_of_extra (room : Nat) {changes : List (String × Change)}
    (unknown : ∀ field ∈ extra, IsExtra changes field) :
    ∃ entries, Json.fieldValues room extra = .ok entries ∧
      ∀ name ∈ changes.map Prod.fst, name ∉ entries.map Prod.fst := by
  induction extra with
  | nil => exact ⟨[], rfl, fun _ _ => List.not_mem_nil⟩
  | cons field rest ih =>
      rw [List.forall_mem_cons] at unknown
      obtain ⟨⟨key, text, rfl, fresh⟩, unknown⟩ := unknown
      obtain ⟨entries, read, apart⟩ := ih unknown
      refine ⟨(key, .text text) :: entries, ?_, fun name known => ?_⟩
      · rw [Json.fieldValues, read]
        rfl
      · rw [List.map_cons, List.mem_cons, not_or]
        refine ⟨?_, apart name known⟩
        rintro rfl
        exact fresh known

end

theorem exists_value_of_memberChange {tree tree' : Tree} (differ : tree.keysDiffer = true)
    (changed : MemberChange tree tree') {room : Nat} {value : Json}
    (read : tree.value room = .ok value) :
    ∃ value', tree'.value room = .ok value' ∧ AlikeMember value value' := by
  cases changed with
  | listed each =>
      have items := reorderedItems_of_itemsChange (by simp [reordered]) each
      exact ⟨value, (Json.Reordered.list items).value differ read, .same value⟩
  | named each unknown order =>
      cases room with
      | zero => cases read
      | succ room =>
          obtain ⟨keys, differ⟩ := Json.keysDiffer_record.1 differ
          simp only [Tree.value, bind_eq_ok, pure_eq_ok] at read ⊢
          obtain ⟨entries, hentries, ends, closes, rfl⟩ := read
          obtain ⟨added, hadded, apart⟩ := exists_fieldValues_of_extra room unknown
          have kept := Json.fieldValues_eq_ok.1 (fieldValues_of_fieldChange differ each hentries)
          have whole := Json.fieldValues_eq_ok.2
            (List.rel_append kept (Json.fieldValues_eq_ok.1 hadded))
          obtain ⟨entries', hentries', perm⟩ := Json.fieldValues_perm order whole
          refine ⟨_, ⟨entries', hentries', ends, closes, rfl⟩, ?_⟩
          refine .record (Json.nodup_keys_sortFields _) (Json.nodup_keys_sortFields _) ?_
          intro name known
          have absent : name ∉ added.map Prod.fst := apart name (by simpa [reordered] using known)
          have once : (entries.map Prod.fst).count name ≤ 1 := by
            rw [Json.keys_of_fieldValues hentries]
            exact List.nodup_iff_count_le_one.1 keys name
          have once' : ((entries ++ added).map Prod.fst).count name ≤ 1 := by
            rw [List.map_append, List.count_append, List.count_eq_zero.2 absent]
            exact once
          rw [Json.lookup_sortFields_eq once,
            Json.lookup_sortFields_eq ((perm.map Prod.fst).count_eq name ▸ once'),
            ← lookup_perm perm once', List.lookup_append, lookup_eq_none_of_notMem absent,
            Option.or_none]

/-- A record that has the same under the keys of a member can be read as one if the other can. -/
theorem canBeRead_of_agree {fields fields' : List (String × Json)}
    (keys' : (fields'.map Prod.fst).Nodup)
    (agree : ∀ name ∈ memberNames, fields.lookup name = fields'.lookup name) {room : Nat}
    (can : CanBeRead memberShapes room (Json.fieldTrees fields) none) :
    CanBeRead memberShapes room (Json.fieldTrees fields') none := by
  constructor
  case closed => rfl
  case passes =>
    intro field listed
    rw [fieldTrees_eq_map] at listed
    obtain ⟨⟨key, value⟩, member, rfl⟩ := List.mem_map.1 listed
    rw [passes_some_iff]
    cases known : memberShapes.find? (·.name == key) with
    | none => exact Json.skipFault?_toTree value
    | some shape =>
        have named : key ∈ memberNames := by
          have own : shape.name = key := by simpa using List.find?_some known
          exact own ▸ List.mem_map_of_mem (List.mem_of_find?_eq_some known)
        have there : fields.lookup key = some value := by
          rw [agree key named]
          exact lookup_of_mem keys' member
        have written : (some key, value.toTree) ∈ Json.fieldTrees fields := by
          rw [fieldTrees_eq_map]
          exact List.mem_map.2 ⟨_, mem_of_lookup there, rfl⟩
        have passes := passes_some_iff.1 (can.passes _ written)
        rw [known] at passes
        exact passes
  case distinct =>
    rw [knownKeys, keys_fieldTrees]
    exact keys'.filter _
  case complete =>
    intro shape listed required
    have named : shape.name ∈ memberNames := List.mem_map_of_mem listed
    have present := can.complete shape listed required
    rw [lookup_fieldTrees] at present ⊢
    rw [← agree _ named]
    exact present

theorem ofJson_of_alike {value value' : Json} (alike : AlikeMember value value')
    {member : MemberRecord} (read : MemberRecord.ofJson value = .ok member) :
    MemberRecord.ofJson value' = .ok member := by
  cases alike with
  | same => exact read
  | @record fields fields' keys keys' agree =>
      obtain ⟨found, scanned, give⟩ := readMember_eq_ok_iff.1 read
      obtain ⟨can, finds⟩ := finds_of_readFields scanned
      obtain ⟨found', scanned', finds'⟩ :=
        exists_readFields_of_canBeRead (canBeRead_of_agree keys' agree can)
      have same {α : Type} {field : Field α} (listed : field.shape ∈ memberShapes) :
          field.get found' = field.get found := by
        refine finds.get_congr finds' listed ?_
        have named : field.name ∈ memberNames := List.mem_map_of_mem (f := FieldShape.name) listed
        rw [lookup_fieldTrees, lookup_fieldTrees, agree _ named]
      refine readMember_eq_ok_iff.2 ⟨found', scanned', ?_⟩
      constructor
      case option => exact (same (by simp [memberShapes])).trans give.option
      case identifier => exact (same (by simp [memberShapes])).trans give.identifier
      case name => exact (same (by simp [memberShapes])).trans give.name
      case acronym => exact (same (by simp [memberShapes])).trans give.acronym
      case description => exact (same (by simp [memberShapes])).trans give.description

theorem mapM_ofJson_of_alike {values values' : List Json}
    (alike : List.Forall₂ AlikeMember values values') {members : List MemberRecord}
    (read : values.mapM MemberRecord.ofJson = .ok members) :
    values'.mapM MemberRecord.ofJson = .ok members := by
  induction alike generalizing members with
  | nil => exact read
  | cons first _ ih =>
      obtain _ | ⟨own, others⟩ := mapM_eq_ok.1 read
      have later := ih (mapM_eq_ok.2 others)
      exact mapM_eq_ok.2 (.cons (ofJson_of_alike first own) (mapM_eq_ok.1 later))

theorem declaredAcronyms_of_alike {values values' : List Json}
    (alike : List.Forall₂ AlikeMember values values') :
    declaredAcronyms values' = declaredAcronyms values := by
  have acronym : "acronym" ∈ memberNames := by decide
  unfold declaredAcronyms
  induction alike with
  | nil => rfl
  | cons first _ ih =>
      rw [List.filterMap_cons, List.filterMap_cons, ih]
      cases first with
      | same => rfl
      | record keys keys' agree => rw [Json.field?, Json.field?, agree _ acronym]

theorem key_repairField (field : String × Json) : (repairField field).1 = field.1 := by
  obtain same | ⟨acronym, rfl, repaired⟩ := repairField_eq field
  · rw [same]
  · rw [repaired]

theorem keys_repairField (fields : List (String × Json)) :
    (fields.map repairField).map Prod.fst = fields.map Prod.fst := by
  rw [List.map_map]
  exact List.map_congr_left fun field _ => key_repairField field

/-- What stands under a key is repaired as the key tells. -/
theorem lookup_map_repairField (fields : List (String × Json)) (key : String) :
    (fields.map repairField).lookup key =
      (fields.lookup key).map fun value => (repairField (key, value)).2 := by
  have kept : fields.map repairField =
      fields.map fun field => (field.1, (repairField field).2) :=
    List.map_congr_left fun field _ => Prod.ext (key_repairField field) rfl
  rw [kept]
  exact lookup_map (fun _ _ same => same) (fun key value => (repairField (key, value)).2) fields key

theorem AlikeMember.repair {value value' : Json} (alike : AlikeMember value value') :
    AlikeMember (repairValue value) (repairValue value') := by
  cases alike with
  | same => exact .same _
  | record keys keys' agree =>
      refine .record (by rwa [keys_repairField]) (by rwa [keys_repairField]) fun name known => ?_
      rw [lookup_map_repairField, lookup_map_repairField, agree name known]

end ContractDictionary
