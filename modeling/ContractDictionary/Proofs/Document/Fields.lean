import ContractDictionary.Document.Reader
import ContractDictionary.Proofs.Outcome

/-!
# Fields of records

The scan of a record checks the fields that it keeps, so that each of them can be read once the
scan has succeeded.  What the scan keeps depends on the keys of a record and on the outcomes of
the checks, and on nothing else of the values.
-/

namespace ContractDictionary

open Json (Tree)

/-- Every tree that was kept passes the check of its field, and no required field is missing. -/
structure Fields.Pass (fields : Fields) (shapes : List FieldShape) : Prop where
  checked : ∀ entry ∈ fields.found, ∀ shape ∈ shapes, shape.name = entry.1 →
    shape.check fields.room entry.2 = .ok ()
  complete : ∀ shape ∈ shapes, shape.isRequired = true →
    (fields.found.lookup shape.name).isSome = true

/-- Under names of their own, the shape of a name is the one that is found by it. -/
theorem find?_shape {shapes : List FieldShape} (distinct : (shapes.map FieldShape.name).Nodup)
    {shape : FieldShape} (member : shape ∈ shapes) :
    shapes.find? (·.name == shape.name) = some shape := by
  induction shapes with
  | nil => cases member
  | cons first rest ih =>
      rw [List.map_cons, List.nodup_cons] at distinct
      rw [List.find?_cons]
      rcases List.mem_cons.1 member with rfl | member
      · rw [beq_self_eq_true]
      · have other : first.name ≠ shape.name := fun same =>
          distinct.1 (same ▸ List.mem_map_of_mem member)
        rw [beq_false_of_ne other]
        exact ih distinct.2 member

theorem mem_of_lookup {α : Type} {key : String} {entries : List (String × α)} {value : α}
    (found : entries.lookup key = some value) : (key, value) ∈ entries := by
  induction entries with
  | nil => cases found
  | cons entry rest ih =>
      rw [List.lookup_cons] at found
      by_cases same : key = entry.1
      · subst same
        rw [beq_self_eq_true] at found
        cases found
        exact List.mem_cons_self
      · rw [beq_false_of_ne same] at found
        exact List.mem_cons_of_mem _ (ih found)

/-- The scan of a record keeps what it has found before, and adds only what passes. -/
theorem checked_of_scanNamed {shapes : List FieldShape}
    (distinct : (shapes.map FieldShape.name).Nodup) {room : Nat}
    {fields : List (Option String × Tree)} {found result : List (String × Tree)}
    (scanned : scanNamed shapes room found fields = .ok result)
    (before : ∀ entry ∈ found, ∀ shape ∈ shapes, shape.name = entry.1 →
      shape.check room entry.2 = .ok ()) :
    ∀ entry ∈ result, ∀ shape ∈ shapes, shape.name = entry.1 →
      shape.check room entry.2 = .ok () := by
  induction fields generalizing found with
  | nil =>
      rw [scanNamed] at scanned
      cases scanned
      exact before
  | cons field rest ih =>
      obtain ⟨key, tree⟩ := field
      cases key with
      | none => cases scanned
      | some key =>
          rw [scanNamed] at scanned
          split at scanned
          · next known hknown =>
              split at scanned
              · cases scanned
              · obtain ⟨⟨⟩, passes, scanned⟩ := bind_eq_ok.1 scanned
                refine ih scanned fun entry member shape listed named => ?_
                rcases List.mem_append.1 member with member | member
                · exact before entry member shape listed named
                · cases List.mem_singleton.1 member
                  have itself := find?_shape distinct listed
                  rw [named, hknown] at itself
                  cases itself
                  exact passes
          · split at scanned
            · cases scanned
            · exact ih scanned before

/-- The kept trees pass, and each of them is kept under the name of one of the fields. -/
structure Fields.PassNamed (fields : Fields) (shapes : List FieldShape) : Prop
    extends fields.Pass shapes where
  named : ∀ entry ∈ fields.found, entry.1 ∈ shapes.map FieldShape.name

/-- A field that may be missing may come before those that were scanned. -/
theorem Fields.PassNamed.skip {fields : Fields} {shape : FieldShape} {shapes : List FieldShape}
    (fresh : shape.name ∉ shapes.map FieldShape.name) (optional : ¬shape.isRequired = true)
    (pass : fields.PassNamed shapes) : fields.PassNamed (shape :: shapes) where
  named entry member := List.mem_cons_of_mem _ (pass.named entry member)
  checked entry member other listed same := by
    rcases List.mem_cons.1 listed with rfl | listed
    · exact absurd (same ▸ pass.named entry member) fresh
    · exact pass.checked entry member other listed same
  complete other listed required := by
    rcases List.mem_cons.1 listed with rfl | listed
    · exact absurd required optional
    · exact pass.complete other listed required

/-- A field with a tree that passes may come before those that were scanned. -/
theorem Fields.PassNamed.keep {room : Nat} {found : List (String × Tree)} {shape : FieldShape}
    {shapes : List FieldShape} {tree : Tree} (fresh : shape.name ∉ shapes.map FieldShape.name)
    (passes : shape.check room tree = .ok ()) (pass : Fields.PassNamed ⟨room, found⟩ shapes) :
    Fields.PassNamed ⟨room, (shape.name, tree) :: found⟩ (shape :: shapes) := by
  have apart : ∀ other ∈ shapes, other.name ≠ shape.name := fun other listed same =>
    fresh (same ▸ List.mem_map_of_mem listed)
  constructor
  case named =>
    intro entry member
    rcases List.mem_cons.1 member with rfl | member
    · exact List.mem_cons_self
    · exact List.mem_cons_of_mem _ (pass.named entry member)
  case toPass =>
    constructor
    · intro entry member other listed same
      rcases List.mem_cons.1 member with rfl | kept <;>
        rcases List.mem_cons.1 listed with rfl | listed
      · exact passes
      · exact absurd same (apart other listed)
      · exact absurd (same ▸ pass.named entry kept) fresh
      · exact pass.checked entry kept other listed same
    · intro other listed required
      rcases List.mem_cons.1 listed with rfl | listed
      · rw [List.lookup_cons_self]
        rfl
      · rw [List.lookup_cons, beq_false_of_ne (apart other listed)]
        exact pass.complete other listed required

/-- The scan of a list keeps the items under the names of the fields, and only what passes. -/
theorem passNamed_of_scanListed {shapes : List FieldShape}
    (distinct : (shapes.map FieldShape.name).Nodup) {room : Nat} {fault : Option Json.Break}
    {items : List Tree} {found : List (String × Tree)}
    (scanned : scanListed room fault shapes items = .ok found) :
    Fields.PassNamed ⟨room, found⟩ shapes := by
  induction shapes generalizing items found with
  | nil =>
      cases items with
      | nil =>
          rw [scanListed] at scanned
          obtain ⟨-, -, nothing⟩ := bind_eq_ok.1 scanned
          cases pure_eq_ok.1 nothing
          exact ⟨⟨by simp, by simp⟩, by simp⟩
      | cons item rest => cases scanned
  | cons shape shapes ih =>
      rw [List.map_cons, List.nodup_cons] at distinct
      cases items with
      | nil =>
          rw [scanListed] at scanned
          obtain ⟨-, -, scanned⟩ := bind_eq_ok.1 scanned
          split at scanned
          · cases scanned
          · next optional => exact (ih distinct.2 scanned).skip distinct.1 optional
      | cons item rest =>
          rw [scanListed] at scanned
          obtain ⟨⟨⟩, passes, scanned⟩ := bind_eq_ok.1 scanned
          obtain ⟨later, hlater, whole⟩ := bind_eq_ok.1 scanned
          cases pure_eq_ok.1 whole
          exact (ih distinct.2 hlater).keep distinct.1 passes

theorem requireFields_eq_ok {shapes : List FieldShape} {found : List (String × Tree)} :
    requireFields shapes found = .ok () ↔
      ∀ shape ∈ shapes, shape.isRequired = true → (found.lookup shape.name).isSome = true := by
  unfold requireFields
  cases missing : shapes.find? fun shape =>
      shape.isRequired && (found.lookup shape.name).isNone with
  | some shape =>
      have absent := List.find?_some missing
      have listed := List.mem_of_find?_eq_some missing
      constructor
      · intro h
        cases h
      · intro complete
        rw [Bool.and_eq_true] at absent
        have present := complete shape listed absent.1
        rw [Option.isNone_iff_eq_none.1 absent.2] at present
        cases present
  | none =>
      refine ⟨fun _ shape listed required => ?_, fun _ => rfl⟩
      have present := List.find?_eq_none.1 missing shape listed
      rw [required, Bool.true_and, Option.isNone_iff_eq_none] at present
      exact Option.isSome_iff_ne_none.2 present

theorem mismatch_ne_ok {α : Type} {tree : Tree} {value : α} :
    (mismatch tree : Except ReadFault α) ≠ .ok value := by
  intro read
  unfold mismatch at read
  split at read <;> cases read

/-- A record with fields of some shapes, if it can be read at all, has fields that pass. -/
theorem pass_of_readFields {shapes : List FieldShape}
    (distinct : (shapes.map FieldShape.name).Nodup) {room : Nat} {tree : Tree} {fields : Fields}
    (read : readFields shapes room tree = .ok fields) : fields.Pass shapes := by
  unfold readFields at read
  split at read
  · cases read
  · cases read
  · obtain ⟨found, scanned, rest⟩ := bind_eq_ok.1 read
    obtain ⟨-, -, rest⟩ := bind_eq_ok.1 rest
    obtain ⟨⟨⟩, required, whole⟩ := bind_eq_ok.1 rest
    cases pure_eq_ok.1 whole
    exact ⟨checked_of_scanNamed distinct scanned (by simp), requireFields_eq_ok.1 required⟩
  · obtain ⟨found, scanned, whole⟩ := bind_eq_ok.1 read
    cases pure_eq_ok.1 whole
    exact (passNamed_of_scanListed distinct scanned).toPass
  · exact absurd read mismatch_ne_ok

/-- A field whose shape is among those of a record can be read from what was kept of it. -/
theorem Field.exists_get {α : Type} (field : Field α) {fields : Fields}
    {shapes : List FieldShape} (listed : field.shape ∈ shapes) (pass : fields.Pass shapes) :
    ∃ value, field.get fields = .ok value := by
  unfold Field.get
  cases kept : fields.found.lookup field.name with
  | some tree =>
      have passes := pass.checked _ (mem_of_lookup kept) field.shape listed rfl
      obtain ⟨value, read, -⟩ := map_eq_ok.1 passes
      exact ⟨value, read⟩
  | none =>
      cases given : field.default with
      | some value => exact ⟨value, rfl⟩
      | none =>
          have required : field.shape.isRequired = true := by rw [Field.shape, given]; rfl
          have present := pass.complete field.shape listed required
          rw [Field.shape, kept] at present
          cases present

/-- The two fields have one key, and no check tells their values apart. -/
structure AlikeFields (shapes : List FieldShape) (room : Nat)
    (left right : Option String × Tree) : Prop where
  key : left.1 = right.1
  skipped : left.2.skipFault? = right.2.skipFault?
  checked : ∀ shape ∈ shapes, some shape.name = left.1 →
    shape.check room left.2 = shape.check room right.2

theorem isSome_lookup_iff {α : Type} {key : String} {entries : List (String × α)} :
    (entries.lookup key).isSome = true ↔ key ∈ entries.map Prod.fst := by
  induction entries with
  | nil => simp
  | cons entry rest ih =>
      rw [List.lookup_cons, List.map_cons, List.mem_cons]
      by_cases same : key = entry.1
      · simp [same]
      · rw [beq_false_of_ne same, or_iff_right same]
        exact ih

/-- The scans of records that differ in values alone keep fields of the same keys, or have the same
fault. -/
theorem keys_scanNamed_alike {shapes : List FieldShape} {room : Nat}
    {left right : List (Option String × Tree)}
    (alike : List.Forall₂ (AlikeFields shapes room) left right)
    {found found' : List (String × Tree)} (same : found.map Prod.fst = found'.map Prod.fst) :
    (scanNamed shapes room found left).map (List.map Prod.fst) =
      (scanNamed shapes room found' right).map (List.map Prod.fst) := by
  induction alike generalizing found found' with
  | nil => exact congrArg Except.ok same
  | @cons field field' rest rest' first _ ih =>
      obtain ⟨key, tree⟩ := field
      obtain ⟨key', tree'⟩ := field'
      obtain ⟨rfl, skipped, checked⟩ := first
      cases key with
      | none => rfl
      | some key =>
          rw [scanNamed, scanNamed]
          cases known : shapes.find? (·.name == key) with
          | some shape =>
              have named : shape.name = key := by simpa using List.find?_some known
              have agree : shape.check room tree = shape.check room tree' :=
                checked shape (List.mem_of_find?_eq_some known) (congrArg some named)
              have repeated : (found.lookup key).isSome = (found'.lookup key).isSome := by
                rw [Bool.eq_iff_iff, isSome_lookup_iff, isSome_lookup_iff, same]
              simp only [← repeated, ← agree]
              split
              · rfl
              · cases shape.check room tree with
                | error fault => rfl
                | ok checked => exact ih (by rw [List.map_append, List.map_append, same]; rfl)
          | none =>
              simp only [← skipped]
              cases tree.skipFault? with
              | some fault => rfl
              | none => exact ih same

/-- Which fields are missing depends on the keys that were kept. -/
theorem requireFields_congr {shapes : List FieldShape} {found found' : List (String × Tree)}
    (same : found.map Prod.fst = found'.map Prod.fst) :
    requireFields shapes found = requireFields shapes found' := by
  have missing (shape : FieldShape) :
      (found.lookup shape.name).isNone = (found'.lookup shape.name).isNone := by
    rw [← Option.not_isSome, ← Option.not_isSome, Bool.not_inj_iff, Bool.eq_iff_iff,
      isSome_lookup_iff, isSome_lookup_iff, same]
  simp only [requireFields, missing]

/-- Records that differ in values alone can both be read, or have the same fault. -/
theorem faultOf_readFields_alike {shapes : List FieldShape} {room : Nat}
    {fault : Option Json.Break} {left right : List (Option String × Tree)}
    (alike : List.Forall₂ (AlikeFields shapes room) left right) :
    faultOf (readFields shapes (room + 1) (.record left fault)) =
      faultOf (readFields shapes (room + 1) (.record right fault)) := by
  have same : (scanNamed shapes room [] left).map (List.map Prod.fst) =
      (scanNamed shapes room [] right).map (List.map Prod.fst) := keys_scanNamed_alike alike rfl
  rw [readFields, readFields, faultOf_bind, faultOf_bind]
  cases scanned : scanNamed shapes room [] left with
  | error own =>
      rw [scanned] at same
      rw [map_eq_error.1 same.symm]
  | ok found =>
      rw [scanned] at same
      obtain ⟨found', scanned', keys⟩ := map_eq_ok.1 same.symm
      rw [scanned']
      simp only [faultOf_bind, requireFields_congr keys]
      rfl

end ContractDictionary
