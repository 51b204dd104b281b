import ContractDictionary.Proofs.Document.AlikeMembers
import ContractDictionary.Proofs.Document.Rereading

/-!
# Documents that declare the same

A rearranged document is read as one that declares the same: its sections hold the same records
under the same keys, and only allowed values that write members may differ.
-/

namespace ContractDictionary

open Json (Tree Reordered)

variable {α : Type}

/-- The allowed values for a type are the same, or alike if they write members. -/
def AlikeValues (declaration : String) (values values' : List Json) : Prop :=
  values = values' ∨ DeclaresEnumeration declaration ∧ List.Forall₂ AlikeMember values values'

/-- If the values can be read as members, no two of these have one option. -/
def OptionsApart (values : List Json) : Prop :=
  ∀ members, values.mapM MemberRecord.ofJson = .ok members → (members.map (·.option)).Nodup

/-- The values write the same members, in another order only if options tell these apart. -/
def AlikeMembers (values values' : List Json) : Prop :=
  ∃ kept, List.Forall₂ AlikeMember values kept ∧
    (kept = values' ∨ OptionsApart values ∧ kept.Perm values')

theorem itemValues_eq_ok {room : Nat} {items : List Tree} {values : List Json} :
    Json.itemValues room items = .ok values ↔
      List.Forall₂ (fun item value => item.value room = .ok value) items values := by
  refine recursion_eq_ok (Json.itemValues room) rfl fun item rest results => ?_
  simp only [Json.itemValues, bind_eq_ok, pure_eq_ok]

theorem exists_itemValues_of_memberChange {room : Nat} {items items' : List Tree}
    (differ : ∀ item ∈ items, item.keysDiffer = true)
    (each : List.Forall₂ MemberChange items items') {values : List Json}
    (read : Json.itemValues room items = .ok values) :
    ∃ values', Json.itemValues room items' = .ok values' ∧
      List.Forall₂ AlikeMember values values' := by
  obtain ⟨values', each', alike⟩ := exists_of_steps
    (fun _ _ _ item hvalue => exists_value_of_memberChange item.1 item.2 hvalue)
    ((List.forall₂_and_left _ _).2 ⟨differ, each⟩) (itemValues_eq_ok.1 read)
  exact ⟨values', itemValues_eq_ok.2 each', alike⟩

theorem readMembers_carries : Carries MembersChange readValues (List.Forall₂ AlikeMember) := by
  rintro room _ _ values differ ⟨each⟩ read
  cases room with
  | zero => cases read
  | succ room =>
      rw [Json.Tree.keysDiffer, Json.itemsDiffer_iff] at differ
      obtain ⟨hvalues, closes⟩ := readValues_eq_ok.1 read
      obtain ⟨values', hvalues', alike⟩ := exists_itemValues_of_memberChange differ each hvalues
      exact ⟨values', readValues_eq_ok.2 ⟨hvalues', closes⟩, alike⟩

/-- Members are read from a list in another order, if they are told apart by their options. -/
theorem readRearranged_carries : Carries MembersRearranged readValues AlikeMembers := by
  rintro room _ _ values differ ⟨each, order⟩ read
  cases room with
  | zero => cases read
  | succ room =>
      rw [Json.Tree.keysDiffer, Json.itemsDiffer_iff] at differ
      obtain ⟨hvalues, closes⟩ := readValues_eq_ok.1 read
      obtain ⟨kept, hkept, alike⟩ := exists_itemValues_of_memberChange differ each hvalues
      rcases order with rfl | ⟨apart, perm⟩
      · exact ⟨kept, readValues_eq_ok.2 ⟨hkept, closes⟩, kept, alike, .inl rfl⟩
      · obtain ⟨values', each', perm'⟩ :=
          List.perm_comp_forall₂ perm.symm (itemValues_eq_ok.1 hkept)
        refine ⟨values', readValues_eq_ok.2 ⟨itemValues_eq_ok.2 each', closes⟩, kept, alike,
          .inr ⟨fun members => apart room values members hvalues, perm'.symm⟩⟩

/-- The two records differ in their allowed values only, which are alike. -/
structure TermRecord.Alike (record record' : TermRecord) : Prop where
  same : record' = { record with allowedValues := record'.allowedValues }
  values : AlikeValues record.type record.allowedValues record'.allowedValues

/-- The two records differ in their allowed values only, which are alike. -/
structure StateRecord.Alike (record record' : StateRecord) : Prop where
  same : record' = { record with allowedValues := record'.allowedValues }
  values : AlikeValues record.type record.allowedValues record'.allowedValues

/-- The two records differ in their allowed values only, which write the same members. -/
structure EnumerationRecord.Alike (record record' : EnumerationRecord) : Prop where
  same : record' = { record with allowedValues := record'.allowedValues }
  values : AlikeMembers record.allowedValues record'.allowedValues

theorem readTerm_carries_values {change : Change} {related : List Json → List Json → Prop}
    (carries : Carries change readValues related) (none : related [] []) :
    Carries (termRecordChange change) TermRecord.read fun record record' =>
      record' = { record with allowedValues := record'.allowedValues } ∧
        related record.allowedValues record'.allowedValues := by
  intro room tree tree' record differ changed read
  simp only [TermRecord.read, bind_eq_ok, pure_eq_ok] at read ⊢
  obtain ⟨found, scanned, identifier, hidentifier, name, hname, acronym, hacronym, type, htype,
    values, hvalues, default, hdefault, group, hgroup, description, hdescription, rfl⟩ := read
  have allowed : allowedValuesField.shape.Carries change := Carries.shape carries
  obtain ⟨found', scanned', same⟩ := readFields_carries (by decide)
    (.cons ⟨rfl, readText_carries.shape⟩ <| .cons ⟨rfl, readText_carries.shape⟩ <|
      .cons ⟨rfl, readText_carries.shape⟩ <| .cons ⟨rfl, readText_carries.shape⟩ <|
      .cons ⟨rfl, allowed⟩ <| .cons ⟨rfl, readOptionalText_carries.shape⟩ <|
      .cons ⟨rfl, readText_carries.shape⟩ <| .cons ⟨rfl, readOptionalText_carries.shape⟩ .nil)
    differ changed scanned
  obtain ⟨values', hvalues', alike⟩ := same.get (by simp) carries
    (fun _ given => by cases given; exact none) hvalues
  refine ⟨_, ⟨found', scanned', _, same.get_eq (by simp) readText_carries hidentifier, _,
    same.get_eq (by simp) readText_carries hname, _,
    same.get_eq (by simp) readText_carries hacronym, _,
    same.get_eq (by simp) readText_carries htype, _, hvalues', _,
    same.get_eq (by simp) readOptionalText_carries hdefault, _,
    same.get_eq (by simp) readText_carries hgroup, _,
    same.get_eq (by simp) readOptionalText_carries hdescription, rfl⟩, rfl, alike⟩

theorem readTerm_carries : Carries TermChange TermRecord.read TermRecord.Alike := by
  intro room tree tree' record differ changed read
  rcases changed with changed | ⟨enumerated, changed⟩
  · obtain ⟨record', read', same, values⟩ :=
      readTerm_carries_values readValues_carries rfl differ changed read
    exact ⟨record', read', same, .inl values⟩
  · obtain ⟨record', read', same, values⟩ :=
      readTerm_carries_values readMembers_carries .nil differ changed read
    exact ⟨record', read', same, .inr ⟨enumerated room record read, values⟩⟩

theorem readState_carries_values {change : Change} {related : List Json → List Json → Prop}
    (carries : Carries change readValues related) (none : related [] []) :
    Carries (stateRecordChange change) StateRecord.read fun record record' =>
      record' = { record with allowedValues := record'.allowedValues } ∧
        related record.allowedValues record'.allowedValues := by
  intro room tree tree' record differ changed read
  simp only [StateRecord.read, bind_eq_ok, pure_eq_ok] at read ⊢
  obtain ⟨found, scanned, identifier, hidentifier, name, hname, acronym, hacronym, type, htype,
    values, hvalues, description, hdescription, rfl⟩ := read
  have allowed : allowedValuesField.shape.Carries change := Carries.shape carries
  obtain ⟨found', scanned', same⟩ := readFields_carries (by decide)
    (.cons ⟨rfl, readText_carries.shape⟩ <| .cons ⟨rfl, readText_carries.shape⟩ <|
      .cons ⟨rfl, readText_carries.shape⟩ <| .cons ⟨rfl, readText_carries.shape⟩ <|
      .cons ⟨rfl, allowed⟩ <| .cons ⟨rfl, readText_carries.shape⟩ .nil)
    differ changed scanned
  obtain ⟨values', hvalues', alike⟩ := same.get (by simp) carries
    (fun _ given => by cases given; exact none) hvalues
  refine ⟨_, ⟨found', scanned', _, same.get_eq (by simp) readText_carries hidentifier, _,
    same.get_eq (by simp) readText_carries hname, _,
    same.get_eq (by simp) readText_carries hacronym, _,
    same.get_eq (by simp) readText_carries htype, _, hvalues', _,
    same.get_eq (by simp) readText_carries hdescription, rfl⟩, rfl, alike⟩

theorem readState_carries : Carries StateChange StateRecord.read StateRecord.Alike := by
  intro room tree tree' record differ changed read
  rcases changed with changed | ⟨enumerated, changed⟩
  · obtain ⟨record', read', same, values⟩ :=
      readState_carries_values readValues_carries rfl differ changed read
    exact ⟨record', read', same, .inl values⟩
  · obtain ⟨record', read', same, values⟩ :=
      readState_carries_values readMembers_carries .nil differ changed read
    exact ⟨record', read', same, .inr ⟨enumerated room record read, values⟩⟩

theorem readEnumeration_carries :
    Carries EnumerationChange EnumerationRecord.read EnumerationRecord.Alike := by
  intro room tree tree' record differ changed read
  simp only [EnumerationRecord.read, bind_eq_ok, pure_eq_ok] at read ⊢
  obtain ⟨found, scanned, identifier, hidentifier, name, hname, acronym, hacronym, description,
    hdescription, values, hvalues, rfl⟩ := read
  have allowed : allowedValuesField.shape.Carries MembersRearranged :=
    Carries.shape readRearranged_carries
  obtain ⟨found', scanned', same⟩ := readFields_carries (by decide)
    (.cons ⟨rfl, readOptionalText_carries.shape⟩ <| .cons ⟨rfl, readText_carries.shape⟩ <|
      .cons ⟨rfl, readText_carries.shape⟩ <| .cons ⟨rfl, readText_carries.shape⟩ <|
      .cons ⟨rfl, allowed⟩ .nil)
    differ changed scanned
  obtain ⟨values', hvalues', alike⟩ := same.get (by simp) readRearranged_carries
    (fun _ given => by cases given; exact ⟨[], .nil, .inl rfl⟩) hvalues
  refine ⟨_, ⟨found', scanned', _, same.get_eq (by simp) readOptionalText_carries hidentifier, _,
    same.get_eq (by simp) readText_carries hname, _,
    same.get_eq (by simp) readText_carries hacronym, _,
    same.get_eq (by simp) readText_carries hdescription, _, hvalues', rfl⟩, rfl, alike⟩

theorem readEntries_eq_ok {reader : Reader α} {room : Nat} {fields : List (Option String × Tree)}
    {entries : List (String × α)} :
    readEntries reader room fields = .ok entries ↔
      List.Forall₂ (fun field entry => field.1 = some entry.1 ∧
        reader room field.2 = .ok entry.2) fields entries := by
  refine recursion_eq_ok (readEntries reader room) rfl ?_
  rintro ⟨own, tree⟩ rest results
  cases own with
  | none => simp [readEntries, malformed]
  | some key =>
      simp only [readEntries, bind_eq_ok, pure_eq_ok]
      constructor
      · rintro ⟨value, hvalue, others, hothers, rfl⟩
        exact ⟨(key, value), ⟨rfl, hvalue⟩, others, hothers, rfl⟩
      · rintro ⟨⟨_, value⟩, ⟨⟨⟩, hvalue⟩, others, hothers, rfl⟩
        exact ⟨value, hvalue, others, hothers, rfl⟩

theorem exists_readEntries_of_change {change : Change} {reader : Reader α}
    {related : α → α → Prop} (carries : Carries change reader related) {room : Nat}
    {fields changed : List (Option String × Tree)}
    (differ : ∀ field ∈ fields, field.2.keysDiffer = true)
    (each : List.Forall₂ (fun field field' => field'.1 = field.1 ∧ change field.2 field'.2)
      fields changed) {entries : List (String × α)}
    (read : readEntries reader room fields = .ok entries) :
    ∃ entries', readEntries reader room changed = .ok entries' ∧
      RelatedEntries related entries entries' := by
  have step : ∀ (field field' : Option String × Tree) (entry : String × α),
      (field.2.keysDiffer = true ∧ field'.1 = field.1 ∧ change field.2 field'.2) →
      (field.1 = some entry.1 ∧ reader room field.2 = .ok entry.2) →
      ∃ entry' : String × α, (field'.1 = some entry'.1 ∧ reader room field'.2 = .ok entry'.2) ∧
        entry'.1 = entry.1 ∧ related entry.2 entry'.2 := by
    rintro field field' ⟨key, value⟩ ⟨differ, same, changed⟩ ⟨own, hvalue⟩
    obtain ⟨value', hvalue', values⟩ := carries differ changed hvalue
    exact ⟨(key, value'), ⟨same.trans own, hvalue'⟩, rfl, values⟩
  obtain ⟨entries', each', alike⟩ := exists_of_steps step
    ((List.forall₂_and_left _ _).2 ⟨differ, each⟩) (readEntries_eq_ok.1 read)
  exact ⟨entries', readEntries_eq_ok.2 each', alike⟩

/-- A section carries the change of its values; the order of its entries does not matter. -/
theorem readSection_carries {change : Change} {reader : Reader α} {related : α → α → Prop}
    (carries : Carries change reader related) :
    Carries (SectionChange change) (readSection reader) (Keyed.Related related) := by
  rintro room _ _ keyed differ ⟨each, order⟩ read
  cases room with
  | zero => cases read
  | succ room =>
      obtain ⟨keys, differ⟩ := Json.keysDiffer_record.1 differ
      simp only [readSection, bind_eq_ok, pure_eq_ok] at read ⊢
      obtain ⟨entries, hentries, ends, closes, rfl⟩ := read
      obtain ⟨kept, hkept, related⟩ := exists_readEntries_of_change carries differ each hentries
      obtain ⟨entries', each', perm⟩ :=
        List.perm_comp_forall₂ order.symm (readEntries_eq_ok.1 hkept)
      refine ⟨_, ⟨entries', readEntries_eq_ok.2 each', ends, closes, rfl⟩, ?_⟩
      -- Only entries with keys of their own may be put into the section in any order.
      have distinct : (kept.map Prod.fst).Nodup := by
        rw [keys_of_related related, keys_of_entries (readEntries_eq_ok.1 hentries)]
        exact keys
      rw [← Keyed.ofList_perm perm.symm distinct]
      exact Keyed.ofList_related related

theorem readSection_carries_eq {change : Change} {reader : Reader α}
    (carries : Carries change reader Eq) :
    Carries (SectionChange change) (readSection reader) Eq := by
  intro room tree tree' keyed differ changed read
  obtain ⟨keyed', read', related⟩ := readSection_carries carries differ changed read
  exact ⟨keyed', read', Keyed.eq_of_related related⟩

theorem readEvent_carries : Carries EventChange readEvent EnumerationRecord.Alike := by
  intro room tree tree' record differ changed read
  simp only [readEvent, bind_eq_ok] at read ⊢
  obtain ⟨found, scanned, hrecord⟩ := read
  obtain ⟨found', scanned', same⟩ := readFields_carries (by decide)
    (.cons ⟨rfl, readEnumeration_carries.shape⟩ .nil) differ changed scanned
  obtain ⟨record', hrecord', alike⟩ := same.get_required (by simp) readEnumeration_carries rfl
    hrecord
  exact ⟨record', ⟨found', scanned', hrecord'⟩, alike⟩

theorem readReference_carries : Carries ReferenceChange readReference fun both both' =>
    both.1.Alike both'.1 ∧ both.2.Alike both'.2 := by
  intro room tree tree' both differ changed read
  simp only [readReference, bind_eq_ok, pure_eq_ok] at read ⊢
  obtain ⟨found, scanned, role, hrole, type, htype, rfl⟩ := read
  obtain ⟨found', scanned', same⟩ := readFields_carries (by decide)
    (.cons ⟨rfl, readEnumeration_carries.shape⟩ <|
      .cons ⟨rfl, readEnumeration_carries.shape⟩ .nil) differ changed scanned
  obtain ⟨role', hrole', roles⟩ := same.get_required (by simp) readEnumeration_carries rfl hrole
  obtain ⟨type', htype', types⟩ := same.get_required (by simp) readEnumeration_carries rfl htype
  exact ⟨_, ⟨found', scanned', role', hrole', type', htype', rfl⟩, roles, types⟩

/-- The two documents declare the same. -/
structure Document.Alike (document document' : Document) : Prop where
  version : document'.version = document.version
  terms : document.terms.Related TermRecord.Alike document'.terms
  states : document.states.Related StateRecord.Alike document'.states
  taxonomy : document'.taxonomy = document.taxonomy
  applicability : document'.applicability = document.applicability
  eventType : document.eventType.Alike document'.eventType
  referenceRole : document.referenceRole.Alike document'.referenceRole
  referenceType : document.referenceType.Alike document'.referenceType

/-- A rearranged document declares the same. -/
theorem readDocument_carries : Carries DocumentChange Document.read Document.Alike := by
  intro room tree tree' document differ changed read
  have terms := readSection_carries readTerm_carries
  have states := readSection_carries readState_carries
  have taxonomy := readSection_carries_eq readContractType_carries
  have applicability := readSection_carries_eq (readSection_carries_eq readText_carries)
  simp only [Document.read, bind_eq_ok, pure_eq_ok] at read ⊢
  obtain ⟨found, scanned, ⟨role, type⟩, hreference, version, hversion, ofTerms, hterms, ofStates,
    hstates, types, htypes, rows, hrows, event, hevent, rfl⟩ := read
  obtain ⟨found', scanned', same⟩ := readFields_carries (by decide)
    (.cons ⟨rfl, readVersion_carries.shape⟩ <| .cons ⟨rfl, terms.shape⟩ <|
      .cons ⟨rfl, states.shape⟩ <| .cons ⟨rfl, taxonomy.shape⟩ <|
      .cons ⟨rfl, applicability.shape⟩ <| .cons ⟨rfl, readEvent_carries.shape⟩ <|
      .cons ⟨rfl, readReference_carries.shape⟩ .nil) differ changed scanned
  obtain ⟨⟨role', type'⟩, hreference', alikeRole, alikeType⟩ :=
    same.get_required (by simp) readReference_carries rfl hreference
  obtain ⟨_, hversion', rfl⟩ :=
    same.get_required (by simp) readVersion_carries rfl hversion
  obtain ⟨terms', hterms', alikeTerms⟩ :=
    same.get_required (by simp) terms rfl hterms
  obtain ⟨states', hstates', alikeStates⟩ :=
    same.get_required (by simp) states rfl hstates
  obtain ⟨_, htypes', rfl⟩ :=
    same.get_required (by simp) taxonomy rfl htypes
  obtain ⟨_, hrows', rfl⟩ :=
    same.get_required (by simp) applicability rfl hrows
  obtain ⟨event', hevent', alikeEvent⟩ :=
    same.get_required (by simp) readEvent_carries rfl hevent
  refine ⟨_, ⟨found', scanned', _, hreference', _, hversion', _, hterms', _, hstates', _, htypes',
    _, hrows', _, hevent', rfl⟩, ?_⟩
  exact ⟨rfl, alikeTerms, alikeStates, rfl, rfl, alikeEvent, alikeRole, alikeType⟩

end ContractDictionary
