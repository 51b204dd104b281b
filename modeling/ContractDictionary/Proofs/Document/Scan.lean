import ContractDictionary.Proofs.Document.Entries
import ContractDictionary.Proofs.Document.Fields

/-!
# What the scan of a record accepts

The scan of a record succeeds exactly if every field passes and no known key is repeated, and
it finds under each known key what the record has under it.  So neither the order of the fields
nor what stands under unknown keys matters to what is read.
-/

namespace ContractDictionary

open Json (Tree)

def knownKeys (shapes : List FieldShape) (fields : List (Option String × Tree)) : List String :=
  (fields.filterMap Prod.fst).filter fun key => (shapes.find? (·.name == key)).isSome

/-- The field has a key, and its value passes the check for the key or can be passed over. -/
def Passes (shapes : List FieldShape) (room : Nat) (field : Option String × Tree) : Prop :=
  ∃ key, field.1 = some key ∧
    match shapes.find? (·.name == key) with
    | some shape => shape.check room field.2 = .ok ()
    | none => field.2.skipFault? = none

theorem passes_some_iff {shapes : List FieldShape} {room : Nat} {key : String} {tree : Tree} :
    Passes shapes room (some key, tree) ↔
      match shapes.find? (·.name == key) with
      | some shape => shape.check room tree = .ok ()
      | none => tree.skipFault? = none := by
  constructor
  · rintro ⟨_, ⟨⟩, passes⟩
    exact passes
  · intro passes
    exact ⟨key, rfl, passes⟩

theorem lookup_append_singleton_eq_none {α : Type} {found : List (String × α)} {key other : String}
    {value : α} : (found ++ [(key, value)]).lookup other = none ↔
      found.lookup other = none ∧ other ≠ key := by
  simp only [List.lookup_eq_none_iff, List.forall_mem_append, List.forall_mem_singleton, bne_iff_ne,
    ne_eq]

/-- The scan goes through if all fields pass and each known key is found once. -/
theorem exists_scanNamed_iff {shapes : List FieldShape} {room : Nat}
    {fields : List (Option String × Tree)} {found : List (String × Tree)} :
    (∃ result, scanNamed shapes room found fields = .ok result) ↔
      (∀ field ∈ fields, Passes shapes room field) ∧ (knownKeys shapes fields).Nodup ∧
        ∀ key ∈ knownKeys shapes fields, found.lookup key = none := by
  induction fields generalizing found with
  | nil => simp [scanNamed, knownKeys]
  | cons field rest ih =>
      obtain ⟨key, tree⟩ := field
      cases key with
      | none =>
          have keyless : ¬Passes shapes room (none, tree) := by
            rintro ⟨key, ⟨⟩, -⟩
          simp [scanNamed, malformed, keyless]
      | some key =>
          rw [scanNamed, List.forall_mem_cons, passes_some_iff]
          cases known : shapes.find? (·.name == key) with
          | some shape =>
              have keys : knownKeys shapes ((some key, tree) :: rest) =
                  key :: knownKeys shapes rest := by
                simp [knownKeys, known]
              simp only [keys, List.nodup_cons, List.forall_mem_cons]
              split
              · next repeated =>
                  rw [Option.isSome_iff_ne_none] at repeated
                  simp [repeated]
              · next fresh =>
                  rw [Bool.not_eq_true, Option.isSome_eq_false_iff, Option.isNone_iff_eq_none]
                    at fresh
                  rw [exists_bind_iff]
                  simp only [ih, lookup_append_singleton_eq_none, fresh]
                  grind
          | none =>
              have keys : knownKeys shapes ((some key, tree) :: rest) = knownKeys shapes rest := by
                simp [knownKeys, known]
              simp only [keys]
              cases skipped : tree.skipFault? with
              | some fault => simp
              | none => simp [ih]

/-- Under a known key the scan finds what was found before or what the record has under it. -/
theorem lookup_of_scanNamed {shapes : List FieldShape} {room : Nat}
    {fields : List (Option String × Tree)} {found result : List (String × Tree)}
    (scanned : scanNamed shapes room found fields = .ok result) {shape : FieldShape}
    (listed : shape ∈ shapes) :
    result.lookup shape.name = (found.lookup shape.name).or (fields.lookup (some shape.name)) := by
  induction fields generalizing found with
  | nil =>
      rw [scanNamed] at scanned
      cases scanned
      rw [List.lookup_nil, Option.or_none]
  | cons field rest ih =>
      obtain ⟨key, tree⟩ := field
      cases key with
      | none => cases scanned
      | some key =>
          rw [scanNamed] at scanned
          rw [List.lookup_cons]
          split at scanned
          · next known =>
              split at scanned
              · cases scanned
              · next fresh =>
                  rw [Bool.not_eq_true, Option.isSome_eq_false_iff, Option.isNone_iff_eq_none]
                    at fresh
                  obtain ⟨⟨⟩, -, scanned⟩ := bind_eq_ok.1 scanned
                  rw [ih scanned, List.lookup_append, List.lookup_cons]
                  by_cases same : shape.name = key
                  · subst same
                    rw [fresh, beq_self_eq_true, beq_self_eq_true]
                    rfl
                  · have other : some shape.name ≠ some key := fun equal =>
                      same (Option.some.inj equal)
                    rw [beq_false_of_ne same, beq_false_of_ne other, List.lookup_nil,
                      Option.or_none]
          · next unknown =>
              have other : some shape.name ≠ some key := by
                rintro ⟨⟩
                have differs := List.find?_eq_none.1 unknown shape listed
                rw [beq_self_eq_true] at differs
                exact differs rfl
              rw [beq_false_of_ne other]
              split at scanned
              · cases scanned
              · exact ih scanned

theorem lookup_of_scanRecord {shapes : List FieldShape} {room : Nat}
    {fields : List (Option String × Tree)} {result : List (String × Tree)}
    (scanned : scanNamed shapes room [] fields = .ok result) :
    ∀ shape ∈ shapes, result.lookup shape.name = fields.lookup (some shape.name) := by
  intro shape listed
  rw [lookup_of_scanNamed scanned listed, List.lookup_nil, Option.none_or]

structure FindsRecord (shapes : List FieldShape) (room : Nat)
    (fields : List (Option String × Tree)) (found : Fields) : Prop where
  room_eq : found.room = room
  lookup : ∀ shape ∈ shapes, found.found.lookup shape.name = fields.lookup (some shape.name)

/-- A record can be read if it is closed, its fields pass and no required one is missing. -/
structure CanBeRead (shapes : List FieldShape) (room : Nat)
    (fields : List (Option String × Tree)) (fault : Option Json.Break) : Prop where
  closed : fault = none
  passes : ∀ field ∈ fields, Passes shapes room field
  distinct : (knownKeys shapes fields).Nodup
  complete : ∀ shape ∈ shapes, shape.isRequired = true →
    (fields.lookup (some shape.name)).isSome = true

theorem closed_eq_ok {fault : Option Json.Break} : closed fault = .ok () ↔ fault = none := by
  cases fault <;> simp [closed]

theorem finds_of_readFields {shapes : List FieldShape} {room : Nat}
    {fields : List (Option String × Tree)} {fault : Option Json.Break} {found : Fields}
    (read : readFields shapes (room + 1) (.record fields fault) = .ok found) :
    CanBeRead shapes room fields fault ∧ FindsRecord shapes room fields found := by
  rw [readFields] at read
  obtain ⟨trees, scanned, rest⟩ := bind_eq_ok.1 read
  obtain ⟨⟨⟩, ends, rest⟩ := bind_eq_ok.1 rest
  obtain ⟨⟨⟩, required, whole⟩ := bind_eq_ok.1 rest
  cases pure_eq_ok.1 whole
  have lookup := lookup_of_scanRecord scanned
  obtain ⟨passes, distinct, -⟩ := exists_scanNamed_iff.1 ⟨trees, scanned⟩
  refine ⟨⟨closed_eq_ok.1 ends, passes, distinct, fun shape listed isRequired => ?_⟩, rfl, lookup⟩
  rw [← lookup shape listed]
  exact requireFields_eq_ok.1 required shape listed isRequired

/-- A field that the record has is read from its tree there. -/
theorem FindsRecord.get_eq {α : Type} {shapes : List FieldShape} {room : Nat}
    {fields : List (Option String × Tree)} {found : Fields}
    (finds : FindsRecord shapes room fields found) {field : Field α}
    (listed : field.shape ∈ shapes) {tree : Tree}
    (written : fields.lookup (some field.name) = some tree) :
    field.get found = field.reader room tree := by
  have kept : found.found.lookup field.name = some tree :=
    (finds.lookup field.shape listed).trans written
  rw [Field.get, kept, finds.room_eq]

theorem FindsRecord.get_default {α : Type} {shapes : List FieldShape} {room : Nat}
    {fields : List (Option String × Tree)} {found : Fields}
    (finds : FindsRecord shapes room fields found) {field : Field α}
    (listed : field.shape ∈ shapes) {value : α} (default : field.default = some value)
    (absent : fields.lookup (some field.name) = none) : field.get found = .ok value := by
  have kept : found.found.lookup field.name = none :=
    (finds.lookup field.shape listed).trans absent
  rw [Field.get, kept, default]

/-- Records that have the same under the key of a field have one value of the field. -/
theorem FindsRecord.get_congr {α : Type} {shapes : List FieldShape} {room : Nat}
    {fields fields' : List (Option String × Tree)} {found found' : Fields}
    (finds : FindsRecord shapes room fields found)
    (finds' : FindsRecord shapes room fields' found') {field : Field α}
    (listed : field.shape ∈ shapes)
    (same : fields.lookup (some field.name) = fields'.lookup (some field.name)) :
    field.get found' = field.get found := by
  have kept : found'.found.lookup field.name = found.found.lookup field.name :=
    (finds'.lookup field.shape listed).trans
      (same.symm.trans (finds.lookup field.shape listed).symm)
  rw [Field.get, Field.get, kept, finds.room_eq, finds'.room_eq]

theorem exists_readFields_of_canBeRead {shapes : List FieldShape} {room : Nat}
    {fields : List (Option String × Tree)} {fault : Option Json.Break}
    (can : CanBeRead shapes room fields fault) :
    ∃ found, readFields shapes (room + 1) (.record fields fault) = .ok found ∧
      FindsRecord shapes room fields found := by
  obtain ⟨trees, scanned⟩ :=
    exists_scanNamed_iff.2 ⟨can.passes, can.distinct, fun _ _ => List.lookup_nil⟩
  have lookup := lookup_of_scanRecord scanned
  have required : requireFields shapes trees = .ok () :=
    requireFields_eq_ok.2 fun shape listed isRequired => by
      rw [lookup shape listed]
      exact can.complete shape listed isRequired
  refine ⟨⟨room, trees⟩, ?_, rfl, lookup⟩
  rw [readFields]
  exact bind_eq_ok.2 ⟨trees, scanned, bind_eq_ok.2 ⟨(), closed_eq_ok.2 can.closed,
    bind_eq_ok.2 ⟨(), required, rfl⟩⟩⟩

namespace Json

mutual

/-- A tree that writes a value can be passed over. -/
theorem skipFault?_toTree : ∀ value : Json, value.toTree.skipFault? = none
  | .null | .bool _ | .integer _ | .real _ | .text _ => rfl
  | .list items => by rw [toTree, Tree.skipFault?, skipItems?_itemTrees items]; rfl
  | .record fields => by rw [toTree, Tree.skipFault?, skipFields?_fieldTrees fields]; rfl

theorem skipItems?_itemTrees : ∀ items : List Json, skipItems? (itemTrees items) = none
  | [] => rfl
  | item :: rest => by
      rw [itemTrees, skipItems?, skipFault?_toTree item, skipItems?_itemTrees rest]
      rfl

theorem skipFields?_fieldTrees : ∀ fields : List (String × Json),
    skipFields? (fieldTrees fields) = none
  | [] => rfl
  | (_, value) :: rest => by
      rw [fieldTrees, skipFields?, skipFault?_toTree value, skipFields?_fieldTrees rest]
      rfl

end

end Json

theorem fieldTrees_eq_map (fields : List (String × Json)) :
    Json.fieldTrees fields = fields.map fun field => (some field.1, field.2.toTree) := by
  induction fields with
  | nil => rfl
  | cons field rest ih => rw [Json.fieldTrees, ih, List.map_cons]

theorem keys_fieldTrees (fields : List (String × Json)) :
    (Json.fieldTrees fields).filterMap Prod.fst = fields.map Prod.fst := by
  rw [fieldTrees_eq_map, List.filterMap_map]
  exact congrFun List.filterMap_eq_map' fields

theorem lookup_fieldTrees (fields : List (String × Json)) (key : String) :
    (Json.fieldTrees fields).lookup (some key) = (fields.lookup key).map Json.toTree := by
  rw [fieldTrees_eq_map]
  exact lookup_map (fun _ _ => Option.some.inj) (fun _ => Json.toTree) fields key

end ContractDictionary
