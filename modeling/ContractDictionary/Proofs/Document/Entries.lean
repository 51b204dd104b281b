import ContractDictionary.Json.Value
import ContractDictionary.Keyed
import Mathlib.Data.List.Forall2
import Mathlib.Data.List.Nodup
import Mathlib.Data.List.Perm.Basic

/-!
# Entries and fields of records

Under keys of their own, the order of entries matters neither to what is found under a key nor to
a section or a record that is built from them.  A shape states which fields a record has for
certain and what their values are like; it says nothing about further fields, nor about the value
of a field of any shape.
-/

namespace ContractDictionary

section

variable {α β γ κ : Type}

theorem rel_imp {related weaker : α → β → Prop} (imp : ∀ a b, related a b → weaker a b)
    {left : Option α} {right : Option β} (rel : Option.Rel related left right) :
    Option.Rel weaker left right := by
  cases rel with
  | none => exact .none
  | some values => exact .some (imp _ _ values)

theorem isSome_of_rel {related : α → β → Prop} {left : Option α} {right : Option β}
    (rel : Option.Rel related left right) (given : left.isSome = true) : right.isSome = true := by
  cases rel with
  | none => exact given
  | some _ => rfl

theorem exists_of_mem_right {related : α → β → Prop} {left : List α} {right : List β}
    (each : List.Forall₂ related left right) {b : β} (listed : b ∈ right) :
    ∃ a ∈ left, related a b := by
  induction each with
  | nil => cases listed
  | cons first _ ih =>
      rcases List.mem_cons.1 listed with rfl | later
      · exact ⟨_, List.mem_cons_self, first⟩
      · obtain ⟨a, member, values⟩ := ih later
        exact ⟨a, List.mem_cons_of_mem _ member, values⟩

/-- A step that makes related things of changed ones does so for a whole list. -/
theorem exists_of_steps {α' β' : Type} {changed : α → α' → Prop} {made : α → β → Prop}
    {made' : α' → β' → Prop} {related : β → β' → Prop}
    (step : ∀ a a' b, changed a a' → made a b → ∃ b', made' a' b' ∧ related b b')
    {left : List α} {left' : List α'} {right : List β}
    (each : List.Forall₂ changed left left') (all : List.Forall₂ made left right) :
    ∃ right', List.Forall₂ made' left' right' ∧ List.Forall₂ related right right' := by
  induction each generalizing right with
  | nil =>
      cases all
      exact ⟨[], .nil, .nil⟩
  | cons first _ ih =>
      obtain _ | ⟨own, others⟩ := all
      obtain ⟨b', own', values⟩ := step _ _ _ first own
      obtain ⟨rest', others', later⟩ := ih others
      exact ⟨b' :: rest', .cons own' others', .cons values later⟩

/-- What related values have in common is listed alike. -/
theorem map_eq_of_related {related : α → β → Prop} {left : List α} {right : List β}
    (each : List.Forall₂ related left right) (before : α → γ) (after : β → γ)
    (same : ∀ a b, related a b → after b = before a) : right.map after = left.map before := by
  induction each with
  | nil => rfl
  | cons first _ ih => rw [List.map_cons, List.map_cons, same _ _ first, ih]

theorem keys_of_entries {made : Option κ × β → κ × α → Prop} {fields : List (Option κ × β)}
    {entries : List (κ × α)} (each : List.Forall₂ (fun field entry =>
      field.1 = some entry.1 ∧ made field entry) fields entries) :
    entries.map Prod.fst = fields.filterMap Prod.fst := by
  induction each with
  | nil => rfl
  | cons first _ ih => rw [List.map_cons, List.filterMap_cons_some first.1, ih]

section

variable [BEq κ] [LawfulBEq κ]

/-- What is found under a key does not depend on the order, if no two entries have the key. -/
theorem lookup_perm {key : κ} {entries entries' : List (κ × α)} (perm : entries.Perm entries')
    (once : (entries.map Prod.fst).count key ≤ 1) :
    entries.lookup key = entries'.lookup key := by
  induction perm with
  | nil => rfl
  | cons entry _ ih =>
      rw [List.map_cons, List.count_cons] at once
      rw [List.lookup_cons, List.lookup_cons]
      split
      · rfl
      · exact ih (by omega)
  | swap first second rest =>
      simp only [List.map_cons, List.count_cons] at once
      rw [List.lookup_cons, List.lookup_cons, List.lookup_cons, List.lookup_cons]
      by_cases isFirst : first.1 = key
      · by_cases isSecond : second.1 = key
        · simp only [isFirst, isSecond, beq_self_eq_true, if_true] at once
          omega
        · rw [beq_false_of_ne (Ne.symm isSecond)]
      · rw [beq_false_of_ne (Ne.symm isFirst)]
  | trans first _ ih ih' =>
      rw [ih once]
      exact ih' ((first.map Prod.fst).count_eq key ▸ once)

theorem lookup_eq_none_of_notMem {entries : List (κ × α)} {key : κ}
    (absent : key ∉ entries.map Prod.fst) : entries.lookup key = none := by
  refine List.lookup_eq_none_iff.2 fun entry listed => bne_iff_ne.2 fun same => absent ?_
  exact same ▸ List.mem_map_of_mem listed

/-- An entry is found under its key, if no other one has the key. -/
theorem lookup_of_mem {entries : List (κ × α)} (distinct : (entries.map Prod.fst).Nodup)
    {key : κ} {value : α} (listed : (key, value) ∈ entries) :
    entries.lookup key = some value := by
  induction entries with
  | nil => cases listed
  | cons first rest ih =>
      rw [List.map_cons, List.nodup_cons] at distinct
      rcases List.mem_cons.1 listed with rfl | listed
      · exact List.lookup_cons_self
      · have other : key ≠ first.1 := by
          rintro rfl
          exact distinct.1 (List.mem_map.2 ⟨_, listed, rfl⟩)
        rw [List.lookup_cons, beq_false_of_ne other]
        exact ih distinct.2 listed

/-- A value that is changed under its key is found under what becomes of the key. -/
theorem lookup_map {ι : Type} [BEq ι] [LawfulBEq ι] {rename : κ → ι}
    (injective : ∀ key key', rename key = rename key' → key = key') (change : κ → α → β)
    (entries : List (κ × α)) (key : κ) :
    (entries.map fun entry => (rename entry.1, change entry.1 entry.2)).lookup (rename key) =
      (entries.lookup key).map (change key) := by
  induction entries with
  | nil => rfl
  | cons entry rest ih =>
      rw [List.map_cons, List.lookup_cons, List.lookup_cons, ih]
      by_cases own : key = entry.1
      · subst own
        rw [beq_self_eq_true, beq_self_eq_true]
        rfl
      · rw [beq_false_of_ne own, beq_false_of_ne fun same => own (injective _ _ same)]

/-- Entries of the same keys have related values under each of them. -/
theorem rel_lookup (related : κ → α → β → Prop) {entries : List (κ × α)}
    {entries' : List (κ × β)}
    (each : List.Forall₂ (fun entry entry' => entry'.1 = entry.1 ∧ related entry.1 entry.2 entry'.2)
      entries entries') (key : κ) :
    Option.Rel (related key) (entries.lookup key) (entries'.lookup key) := by
  induction each with
  | nil => exact .none
  | @cons entry entry' _ _ first _ ih =>
      obtain ⟨same, values⟩ := first
      rw [List.lookup_cons, List.lookup_cons, same]
      by_cases own : key = entry.1
      · subst own
        rw [beq_self_eq_true]
        exact .some values
      · rw [beq_false_of_ne own]
        exact ih

end

/-- Two entries under different keys may be put in place in either order. -/
theorem insertEntry_comm {key key' : String} (apart : key ≠ key') (value value' : α)
    (entries : List (String × α)) :
    insertEntry key' value' (insertEntry key value entries) =
      insertEntry key value (insertEntry key' value' entries) := by
  induction entries with
  | nil => grind [insertEntry]
  | cons entry rest ih => grind [insertEntry]

namespace Keyed

/-- A section built from entries with keys of their own does not depend on their order. -/
theorem ofList_perm {entries entries' : List (String × α)} (perm : entries.Perm entries')
    (distinct : (entries.map Prod.fst).Nodup) : ofList entries = ofList entries' := by
  refine perm.foldl_eq' (fun first member second member' keyed => ?_) empty
  by_cases same : first.1 = second.1
  · rw [List.inj_on_of_nodup_map distinct member member' same]
  · obtain ⟨held, ordered⟩ := keyed
    simp only [insert, Keyed.mk.injEq]
    exact insertEntry_comm same first.2 second.2 held

end Keyed

/-- The entries have the same keys in one order, and the values of each key are related. -/
def RelatedEntries (related : α → β → Prop) (entries : List (String × α))
    (entries' : List (String × β)) : Prop :=
  List.Forall₂ (fun entry entry' => entry'.1 = entry.1 ∧ related entry.2 entry'.2) entries entries'

theorem keys_of_related {related : α → β → Prop} {entries : List (String × α)}
    {entries' : List (String × β)} (each : RelatedEntries related entries entries') :
    entries'.map Prod.fst = entries.map Prod.fst :=
  map_eq_of_related each Prod.fst Prod.fst fun _ _ entry => entry.1

theorem insertEntry_related {related : α → β → Prop} {entries : List (String × α)}
    {entries' : List (String × β)} (each : RelatedEntries related entries entries') {value : α}
    {value' : β} (values : related value value') (key : String) :
    RelatedEntries related (insertEntry key value entries) (insertEntry key value' entries') := by
  induction each with
  | nil => exact .cons ⟨rfl, values⟩ .nil
  | cons first others ih =>
      rw [insertEntry, insertEntry, first.1]
      split
      · exact .cons ⟨rfl, values⟩ (.cons first others)
      · split
        · exact .cons ⟨rfl, values⟩ others
        · exact .cons first ih

namespace Keyed

/-- The sections have the same keys, and the values of each key are related. -/
def Related (related : α → β → Prop) (keyed : Keyed α) (keyed' : Keyed β) : Prop :=
  RelatedEntries related keyed.entries keyed'.entries

theorem ofList_related {related : α → β → Prop} {entries : List (String × α)}
    {entries' : List (String × β)} (each : RelatedEntries related entries entries') :
    (ofList entries).Related related (ofList entries') := by
  have built : ∀ (keyed : Keyed α) (keyed' : Keyed β), keyed.Related related keyed' →
      Related related (entries.foldl (fun keyed entry => keyed.insert entry.1 entry.2) keyed)
        (entries'.foldl (fun keyed entry => keyed.insert entry.1 entry.2) keyed') := by
    induction each with
    | nil => exact fun _ _ before => before
    | @cons entry entry' _ _ first _ ih =>
        intro keyed keyed' before
        rw [List.foldl_cons, List.foldl_cons, first.1]
        exact ih _ _ (insertEntry_related before first.2 entry.1)
  exact built empty empty .nil

/-- Related sections have related values under a key. -/
theorem rel_get? {related : α → β → Prop} {keyed : Keyed α} {keyed' : Keyed β}
    (each : keyed.Related related keyed') (key : String) :
    Option.Rel related (keyed.get? key) (keyed'.get? key) :=
  rel_lookup (fun _ => related) each key

theorem map_related {γ δ : Type} {related : α → β → Prop} {weaker : γ → δ → Prop}
    {keyed : Keyed α} {keyed' : Keyed β} {change : String → α → γ} {change' : String → β → δ}
    (each : keyed.Related related keyed')
    (carry : ∀ key value value', related value value' →
      weaker (change key value) (change' key value')) :
    (keyed.map change).Related weaker (keyed'.map change') := by
  unfold Related RelatedEntries map
  rw [List.forall₂_map_left_iff, List.forall₂_map_right_iff]
  refine each.imp fun entry entry' both => ⟨both.1, ?_⟩
  rw [both.1]
  exact carry entry.1 entry.2 entry'.2 both.2

/-- Sections with the same values under the same keys are the same. -/
theorem eq_of_related {keyed keyed' : Keyed α} (each : keyed.Related Eq keyed') :
    keyed = keyed' := by
  obtain ⟨entries, ordered⟩ := keyed
  obtain ⟨entries', ordered'⟩ := keyed'
  have same : entries = entries' := by
    refine List.forall₂_eq_eq_eq ▸ List.Forall₂.imp (fun entry entry' both => ?_) each
    exact Prod.ext both.1.symm both.2
  subst same
  rfl

end Keyed

namespace Json

theorem insertField_eq (key : String) (value : Json) (fields : List (String × Json)) :
    insertField key value fields = insertEntry key value fields := by
  induction fields with
  | nil => rfl
  | cons field rest ih => rw [insertField, insertEntry, ih]

/-- The fields of a record are kept as the entries of a section are. -/
theorem sortFields_eq (fields : List (String × Json)) :
    sortFields fields = (Keyed.ofList fields).entries := by
  have kept : ∀ keyed : Keyed Json,
      fields.foldl (fun sorted field => insertField field.1 field.2 sorted) keyed.entries =
        (fields.foldl (fun keyed entry => keyed.insert entry.1 entry.2) keyed).entries := by
    induction fields with
    | nil => exact fun _ => rfl
    | cons field rest ih =>
        intro keyed
        rw [List.foldl_cons, List.foldl_cons, insertField_eq]
        exact ih (keyed.insert field.1 field.2)
  exact kept Keyed.empty

theorem object_perm {fields fields' : List (String × Json)} (perm : fields.Perm fields')
    (distinct : (fields.map Prod.fst).Nodup) : object fields = object fields' := by
  rw [object, object, sortFields_eq, sortFields_eq, Keyed.ofList_perm perm distinct]

end Json

end

/-! ## Shapes -/

/-- What is known of a data value. -/
inductive Shape where
  | any
  /-- A list whose items are all of one shape. -/
  | list (item : Shape)
  /-- A record with fields of some shapes among its fields. -/
  | record (fields : List (String × Shape))

namespace Shape

/-- The shape of a field, if values of the shape are sure to have it. -/
def field? (key : String) : Shape → Option Shape
  | .record fields => fields.lookup key
  | _ => none

def fieldsAt? : List String → Shape → Option Shape
  | [], shape => some shape
  | key :: rest, shape => (shape.field? key).bind (fieldsAt? rest)

/-- The shape of a record with the given fields, whatever their values. -/
def ofKeys (keys : List String) : Shape :=
  .record (keys.map fun key => (key, .any))

end Shape

mutual

inductive Json.HasShape : Json → Shape → Prop where
  | any {value : Json} : HasShape value .any
  | list {items : List Json} {item : Shape} (each : ∀ value ∈ items, HasShape value item) :
      HasShape (.list items) (.list item)
  | record {fields : List (String × Json)} {shapes : List (String × Shape)}
      (found : HasFields fields shapes) : HasShape (.record fields) (.record shapes)

/-- The fields have values of the given shapes under their keys. -/
inductive Json.HasFields : List (String × Json) → List (String × Shape) → Prop where
  | nil {fields : List (String × Json)} : HasFields fields []
  | cons {fields : List (String × Json)} {shapes : List (String × Shape)} {key : String}
      {value : Json} {shape : Shape} (found : fields.lookup key = some value)
      (shaped : HasShape value shape) (rest : HasFields fields shapes) :
      HasFields fields ((key, shape) :: shapes)

end

namespace Json

theorem HasFields.lookup {fields : List (String × Json)} {shapes : List (String × Shape)}
    (has : HasFields fields shapes) {key : String} {shape : Shape}
    (listed : shapes.lookup key = some shape) :
    ∃ value, fields.lookup key = some value ∧ HasShape value shape := by
  induction shapes with
  | nil => cases listed
  | cons first rest ih =>
      cases has with
      | @cons _ _ firstKey value firstShape found shaped others =>
          rw [List.lookup_cons] at listed
          by_cases same : key = firstKey
          · subst same
            rw [beq_self_eq_true] at listed
            cases listed
            exact ⟨value, found, shaped⟩
          · rw [beq_false_of_ne same] at listed
            exact ih others listed

theorem HasShape.field {value : Json} {shape inner : Shape} {key : String}
    (has : HasShape value shape) (promised : shape.field? key = some inner) :
    ∃ fields found, value = .record fields ∧ fields.lookup key = some found ∧
      HasShape found inner := by
  cases has with
  | any => cases promised
  | list each => cases promised
  | record found =>
      obtain ⟨value, hvalue, shaped⟩ := found.lookup promised
      exact ⟨_, value, rfl, hvalue, shaped⟩

/-- In a record that is built from fields the value of a field stands under its key. -/
theorem lookup_sortFields_eq {fields : List (String × Json)} {key : String}
    (once : (fields.map Prod.fst).count key ≤ 1) :
    (sortFields fields).lookup key = fields.lookup key := by
  have found : ∀ sorted : List (String × Json),
      (fields.foldl (fun sorted field => insertField field.1 field.2 sorted) sorted).lookup key =
        (fields.lookup key).or (sorted.lookup key) := by
    induction fields with
    | nil => exact fun _ => rfl
    | cons field rest ih =>
        intro sorted
        rw [List.map_cons, List.count_cons] at once
        rw [List.foldl_cons, ih (by omega), List.lookup_cons]
        by_cases own : key = field.1
        · subst own
          have absent : field.1 ∉ rest.map Prod.fst := by
            refine List.count_eq_zero.1 ?_
            rw [beq_self_eq_true, if_pos rfl] at once
            omega
          rw [lookup_eq_none_of_notMem absent, lookup_insertField_self, beq_self_eq_true]
          rfl
        · rw [beq_false_of_ne own, lookup_insertField_of_ne _ _ own]
  exact (found []).trans (Option.or_none)

/-- Under keys of their own, fields are found in the record that is built from them. -/
theorem lookup_sortFields {fields : List (String × Json)}
    (distinct : (fields.map Prod.fst).Nodup) {key : String} {value : Json}
    (member : (key, value) ∈ fields) : (sortFields fields).lookup key = some value := by
  rw [lookup_sortFields_eq (List.nodup_iff_count_le_one.1 distinct key)]
  exact lookup_of_mem distinct member

def FieldFits (field : String × Json) (shape : String × Shape) : Prop :=
  field.1 = shape.1 ∧ HasShape field.2 shape.2

theorem keys_of_fieldFits {fields : List (String × Json)} {shapes : List (String × Shape)}
    (fit : List.Forall₂ FieldFits fields shapes) :
    fields.map Prod.fst = shapes.map Prod.fst := by
  induction fit with
  | nil => rfl
  | cons first _ ih => rw [List.map_cons, List.map_cons, first.1, ih]

theorem hasShape_object {fields : List (String × Json)} {shapes : List (String × Shape)}
    (distinct : (shapes.map Prod.fst).Nodup) (fit : List.Forall₂ FieldFits fields shapes) :
    HasShape (.object fields) (.record shapes) := by
  rw [← keys_of_fieldFits fit] at distinct
  have found : ∀ {part : List (String × Json)} {shapes : List (String × Shape)},
      List.Forall₂ FieldFits part shapes → (∀ field ∈ part, field ∈ fields) →
        HasFields (sortFields fields) shapes := by
    intro part shapes fit within
    induction fit with
    | nil => exact .nil
    | @cons field shape _ _ first _ ih =>
        obtain ⟨key, value⟩ := field
        obtain ⟨name, inner⟩ := shape
        obtain ⟨rfl, shaped⟩ := first
        have member : (key, value) ∈ fields := within _ List.mem_cons_self
        exact .cons (lookup_sortFields distinct member) shaped
          (ih fun other later => within other (List.mem_cons_of_mem _ later))
  exact .record (found fit fun _ member => member)

theorem forall₂_fieldFits_ofKeys (fields : List (String × Json)) :
    List.Forall₂ FieldFits fields ((fields.map Prod.fst).map fun key => (key, Shape.any)) := by
  induction fields with
  | nil => exact .nil
  | cons field rest ih => exact .cons ⟨rfl, .any⟩ ih

theorem hasShape_object_ofKeys {fields : List (String × Json)} {keys : List String}
    (named : fields.map Prod.fst = keys) (distinct : keys.Nodup) :
    HasShape (.object fields) (.ofKeys keys) := by
  subst named
  refine hasShape_object ?_ (forall₂_fieldFits_ofKeys fields)
  rw [List.map_map]
  exact (List.map_id _).symm ▸ distinct

theorem hasShape_list_map {α : Type} {data : α → Json} {shape : Shape}
    (each : ∀ view, HasShape (data view) shape) (views : List α) :
    HasShape (.list (views.map data)) (.list shape) := by
  refine .list fun value member => ?_
  obtain ⟨view, -, rfl⟩ := List.mem_map.1 member
  exact each view

end Json

end ContractDictionary
