import ContractDictionary.Proofs.Document.AlikeDocuments

/-!
# Compiling a rearranged document

Documents that declare the same have normal forms that do so as well, and these compile to one
dictionary with the same warnings: no stage of the compilation sees how a document is laid out.
-/

namespace ContractDictionary

open Json (Tree)

variable {α β : Type}

/-- Members with options of their own have one order by their options. -/
theorem sortMembers_perm {members members' : List Member} (perm : members.Perm members')
    (apart : (members.map (·.option)).Nodup) : sortMembers members = sortMembers members' := by
  have sorted : (sortMembers members).Perm members := sortBy_perm _ members
  have sorted' : (sortMembers members').Perm members' := sortBy_perm _ members'
  refine List.Perm.eq_of_pairwise (fun first second listed listed' before after => ?_)
    (pairwise_sortMembers members) (pairwise_sortMembers members')
    (sorted.trans (perm.trans sorted'.symm))
  have member : first ∈ members := sorted.mem_iff.1 listed
  have member' : second ∈ members := perm.mem_iff.2 (sorted'.mem_iff.1 listed')
  exact List.inj_on_of_nodup_map apart member member' (by omega)

theorem membersOf_of_alike {location : String} {default : Option String}
    {values values' : List Json} (alike : List.Forall₂ AlikeMember values values')
    {members : List Member} (compiled : membersOf location default values = .ok members) :
    membersOf location default values' = .ok members := by
  obtain ⟨records, read, rfl⟩ := membersOf_eq_ok.1 compiled
  exact membersOf_eq_ok.2 ⟨records, mapM_ofJson_of_alike alike read, rfl⟩

/-- Values that write the same members make one enumeration. -/
theorem exists_membersOf_of_alike {location : String} {default : Option String}
    {values values' : List Json} (alike : AlikeMembers values values') {members : List Member}
    (compiled : membersOf location default values = .ok members) :
    ∃ members', membersOf location default values' = .ok members' ∧
      sortMembers members = sortMembers members' := by
  obtain ⟨kept, each, rfl | ⟨apart, perm⟩⟩ := alike
  · exact ⟨members, membersOf_of_alike each compiled, rfl⟩
  · obtain ⟨records, read, rfl⟩ := membersOf_eq_ok.1 compiled
    have reread := mapM_eq_ok.1 (mapM_ofJson_of_alike each read)
    obtain ⟨records', read', order⟩ := List.perm_comp_forall₂ perm.symm reread
    refine ⟨_, membersOf_eq_ok.2 ⟨records', mapM_eq_ok.2 read', rfl⟩, ?_⟩
    refine sortMembers_perm (order.symm.map _) ?_
    rw [List.map_map]
    exact apart records read

theorem compileEnumeration_of_alike {location : String} {record record' : EnumerationRecord}
    (alike : record.Alike record') {enumeration : Enumeration}
    (compiled : record.compile location = .ok enumeration) :
    record'.compile location = .ok enumeration := by
  obtain ⟨same, values⟩ := alike
  rw [same]
  unfold EnumerationRecord.compile at compiled ⊢
  dsimp only
  cases named : record.identifier with
  | none =>
      rw [named] at compiled
      cases compiled
  | some identifier =>
      rw [named] at compiled
      simp only [bind_eq_ok, pure_eq_ok] at compiled ⊢
      obtain ⟨members, hmembers, rfl⟩ := compiled
      obtain ⟨members', hmembers', sorted⟩ := exists_membersOf_of_alike values hmembers
      exact ⟨members', hmembers', by simp only [Enumeration.ofMembers, sorted]⟩

namespace AlikeValues

variable {declaration : String} {values values' : List Json}

theorem members (alike : AlikeValues declaration values values') :
    List.Forall₂ AlikeMember values values' := by
  rcases alike with rfl | ⟨-, each⟩
  · exact List.forall₂_same.2 fun value _ => .same value
  · exact each

/-- Alike values lack the same contract types. -/
theorem complete (alike : AlikeValues declaration values values')
    (taxonomy : Keyed ContractTypeRecord) :
    AlikeValues declaration (completeTypes values taxonomy) (completeTypes values' taxonomy) := by
  rcases alike with rfl | ⟨enumerated, each⟩
  · exact .inl rfl
  · refine .inr ⟨enumerated, ?_⟩
    unfold completeTypes syntheticMembers
    rw [declaredAcronyms_of_alike each]
    exact List.rel_append each (List.forall₂_same.2 fun value _ => .same value)

theorem repair (alike : AlikeValues declaration values values') :
    AlikeValues declaration (values.map repairValue) (values'.map repairValue) := by
  rcases alike with rfl | ⟨enumerated, each⟩
  · exact .inl rfl
  · exact .inr ⟨enumerated, List.rel_map (fun _ _ alike => AlikeMember.repair alike) each⟩

end AlikeValues

theorem allowedValuesOf_of_alike {location : String} {type : DeclaredType}
    {default : Option String} {values values' : List Json}
    (alike : AlikeValues type.text values values') {allowed : List AllowedValue}
    (compiled : allowedValuesOf location type.scalar default values = .ok allowed) :
    allowedValuesOf location type.scalar default values' = .ok allowed := by
  rcases alike with rfl | ⟨enumerated, each⟩
  · exact compiled
  · rw [declaresEnumeration_text_iff.1 enumerated] at compiled ⊢
    obtain ⟨members, hmembers, rfl⟩ := map_eq_ok.1 compiled
    exact map_eq_ok.2 ⟨members, membersOf_of_alike each hmembers, rfl⟩

/-- Alike terms stay so if their values do, whatever is made of their defaults. -/
theorem TermRecord.Alike.update {record record' : TermRecord} (alike : record.Alike record')
    (change : Option String → Option String) {values values' : List Json}
    (each : AlikeValues record.type values values') :
    TermRecord.Alike { record with allowedValues := values, default := change record.default }
      { record' with allowedValues := values', default := change record'.default } := by
  refine ⟨?_, each⟩
  rw [alike.same]

theorem TermRecord.Alike.normalize {record record' : TermRecord} (alike : record.Alike record')
    (taxonomy : Keyed ContractTypeRecord) (key : String) :
    (record.normalize taxonomy key).Alike (record'.normalize taxonomy key) := by
  unfold TermRecord.normalize
  split
  · split
    · exact (alike.update trimDefault (alike.values.complete taxonomy)).update _
        (alike.values.complete taxonomy).repair
    · exact alike.update trimDefault (alike.values.complete taxonomy)
  · split
    · exact (alike.update trimDefault alike.values).update _ alike.values.repair
    · exact alike.update trimDefault alike.values

theorem compileTerm_of_alike {key : String} {record record' : TermRecord} {term : Term}
    (alike : record.Alike record') (compiled : record.compile key = .ok term) :
    record'.compile key = .ok term := by
  obtain ⟨same, values⟩ := alike
  rw [same]
  simp only [TermRecord.compile, bind_eq_ok, pure_eq_ok] at compiled ⊢
  obtain ⟨type, htype, allowed, hallowed, rfl⟩ := compiled
  rw [typeAt_eq_ok_iff.1 htype] at values
  exact ⟨type, htype, allowed, allowedValuesOf_of_alike values hallowed, rfl⟩

theorem warning?_of_alike {record record' : TermRecord} (alike : record.Alike record') :
    record'.warning? = record.warning? := by
  rw [alike.same]
  rfl

theorem compileState_of_alike {key : String} {record record' : StateRecord} {state : State}
    (alike : record.Alike record') (compiled : record.compile key = .ok state) :
    record'.compile key = .ok state := by
  obtain ⟨same, values⟩ := alike
  rw [same]
  simp only [StateRecord.compile, bind_eq_ok, pure_eq_ok] at compiled ⊢
  obtain ⟨type, htype, allowed, hallowed, rfl⟩ := compiled
  rw [typeAt_eq_ok_iff.1 htype] at values
  exact ⟨type, htype, allowed, allowedValuesOf_of_alike values hallowed, rfl⟩

/-- Related sections compile alike, if related records do. -/
theorem compileSection_of_related {compile : String → α → Except CompileError β}
    {related : α → α → Prop} {keyed keyed' : Keyed α} {results : List β}
    (compiled : compileSection compile keyed = .ok results)
    (sections : keyed.Related related keyed')
    (each : ∀ key record record' result, related record record' →
      compile key record = .ok result → compile key record' = .ok result) :
    compileSection compile keyed' = .ok results := by
  have step : ∀ (entry entry' : String × α) (result : β),
      (entry'.1 = entry.1 ∧ related entry.2 entry'.2) → compile entry.1 entry.2 = .ok result →
      ∃ result', compile entry'.1 entry'.2 = .ok result' ∧ result = result' := by
    rintro entry entry' result ⟨same, values⟩ own
    rw [same]
    exact ⟨result, each _ _ _ _ values own, rfl⟩
  obtain ⟨results', recompiled, same⟩ := exists_of_steps step sections (mapM_eq_ok.1 compiled)
  rw [List.forall₂_eq_eq_eq] at same
  exact mapM_eq_ok.2 (same ▸ recompiled)

theorem termEnumeration_of_alike {document document' : Document}
    (alike : document.terms.Related TermRecord.Alike document'.terms) {key : String}
    {enumeration : Enumeration} (compiled : document.termEnumeration key = .ok enumeration) :
    document'.termEnumeration key = .ok enumeration := by
  have found := Keyed.rel_get? alike key
  unfold Document.termEnumeration at compiled ⊢
  generalize document.terms.get? key = record?, document'.terms.get? key = record?' at *
  cases found with
  | none => cases compiled
  | some alike =>
      obtain ⟨same, values⟩ := alike
      simp only [bind_eq_ok, pure_eq_ok] at compiled ⊢
      obtain ⟨members, hmembers, rfl⟩ := compiled
      refine ⟨members, membersOf_of_alike values.members hmembers, ?_⟩
      rw [same]

theorem warnings_of_alike {document document' : Document}
    (alike : document.terms.Related TermRecord.Alike document'.terms) :
    document'.warnings = document.warnings := by
  have same := map_eq_of_related alike (fun entry => entry.2.warning?)
    (fun entry => entry.2.warning?) fun _ _ entry => warning?_of_alike entry.2
  have listed := congrArg (List.filterMap id) same
  rw [List.filterMap_map, List.filterMap_map] at listed
  rw [Document.warnings, Document.warnings, Keyed.values, Keyed.values, List.filterMap_map,
    List.filterMap_map]
  exact listed

/-- Alike enumerations stay so if they get one identifier. -/
theorem EnumerationRecord.Alike.identified {record record' : EnumerationRecord}
    (alike : record.Alike record') (identifier : Option String) :
    EnumerationRecord.Alike { record with identifier } { record' with identifier } := by
  refine ⟨?_, alike.values⟩
  rw [alike.same]

theorem exists_normalize_of_alike {document document' : Document}
    (alike : document.Alike document') {normal : Document}
    (normalized : document.normalize = .ok normal) :
    ∃ normal', document'.normalize = .ok normal' ∧ normal.Alike normal' := by
  have found := Keyed.rel_get? alike.terms contractTypeTerm
  rw [eq_of_normalize normalized]
  unfold Document.normalize at normalized ⊢
  generalize document.terms.get? contractTypeTerm = record? at found normalized
  generalize document'.terms.get? contractTypeTerm = record?' at found ⊢
  cases found with
  | none => cases normalized
  | some _ =>
      refine ⟨_, rfl, ?_⟩
      exact {
        version := alike.version
        terms := by
          rw [alike.taxonomy]
          exact Keyed.map_related alike.terms fun key _ _ each => each.normalize _ key
        states := alike.states
        taxonomy := alike.taxonomy
        applicability := alike.applicability
        eventType := alike.eventType
        referenceRole := alike.referenceRole.identified _
        referenceType := alike.referenceType.identified _ }

/-- Documents that declare the same build one dictionary. -/
theorem buildsTo_of_alike {document document' : Document} (alike : document.Alike document')
    {dictionary : Dictionary} (built : document.BuildsTo dictionary) :
    document'.BuildsTo dictionary where
  version := by rw [alike.version, built.version]
  versionDate := by rw [alike.version, built.versionDate]
  applicability := by
    rw [built.applicability, Document.applicabilityRows, Document.applicabilityRows,
      alike.applicability]
  eventType := compileEnumeration_of_alike alike.eventType built.eventType
  contractPerformance := termEnumeration_of_alike alike.terms built.contractPerformance
  contractRole := termEnumeration_of_alike alike.terms built.contractRole
  referenceRole := compileEnumeration_of_alike alike.referenceRole built.referenceRole
  referenceType := compileEnumeration_of_alike alike.referenceType built.referenceType
  contractType := termEnumeration_of_alike alike.terms built.contractType
  terms := by
    obtain ⟨terms, compiled, whole⟩ := built.terms
    exact ⟨terms, compileSection_of_related compiled alike.terms fun _ _ _ _ each =>
      compileTerm_of_alike each, whole⟩
  states := by
    obtain ⟨states, compiled, whole⟩ := built.states
    exact ⟨states, compileSection_of_related compiled alike.states fun _ _ _ _ each =>
      compileState_of_alike each, whole⟩
  taxonomy := by
    rw [alike.taxonomy]
    exact built.taxonomy
  contracts := built.contracts

theorem compile_of_alike {document document' : Document} (alike : document.Alike document')
    {compilation : Compilation} (compiled : document.compile = .ok compilation) :
    document'.compile = .ok compilation := by
  obtain ⟨normal, normalized, built, warnings⟩ := compile_eq_ok_iff.1 compiled
  obtain ⟨normal', normalized', same⟩ := exists_normalize_of_alike alike normalized
  refine compile_eq_ok_iff.2 ⟨normal', normalized', buildsTo_of_alike same built, ?_⟩
  rw [warnings_of_alike same.terms, warnings]

theorem ofText_eq_ok {text : String} {document : Document} :
    Document.ofText text = .ok document ↔
      Document.read Json.greatestDepth (Tree.ofText text).root = .ok document ∧
        (Tree.ofText text).hasMore = false := by
  simp only [Document.ofText, bind_eq_ok]
  cases (Tree.ofText text).hasMore with
  | true => simp [malformed]
  | false => simp [pure_eq_ok]

/--
A text whose records have keys of their own compiles to the same dictionary and the same warnings
if the document that it writes is rearranged.
-/
theorem compileText_of_documentChange {text text' : String} {compilation : Compilation}
    (compiled : compileText text = .ok compilation)
    (differ : (Tree.ofText text).root.keysDiffer = true)
    (changed : DocumentChange (Tree.ofText text).root (Tree.ofText text').root)
    (whole : (Tree.ofText text').hasMore = false) :
    compileText text' = .ok compilation := by
  simp only [compileText, bind_eq_ok, mapError_eq_ok] at compiled ⊢
  obtain ⟨document, read, compiled⟩ := compiled
  obtain ⟨document', read', alike⟩ :=
    readDocument_carries differ changed (ofText_eq_ok.1 read).1
  exact ⟨document', ofText_eq_ok.2 ⟨read', whole⟩, compile_of_alike alike compiled⟩

def textRecord (fields : List (String × String)) : Json :=
  .record (fields.map fun field => (field.1, .text field.2))

def sampleMember (option acronym : String) (further : List (String × String)) : Json :=
  textRecord ([("option", option), ("identifier", acronym), ("name", acronym),
    ("acronym", acronym), ("description", "")] ++ further)

def sampleTerm (identifier : String) (values : List Json) : Json :=
  .record [("identifier", .text identifier), ("name", .text ""), ("acronym", .text ""),
    ("type", .text "Enum"), ("allowedValues", .list values)]

/-- The terms of the sample, where the member of the contract role has further texts. -/
def sampleTerms (further : List (String × String)) : List (String × Json) :=
  [("contractPerformance", sampleTerm "contractPerformance" []),
    ("contractRole", sampleTerm "contractRole" [sampleMember "0" "RPA" further]),
    ("contractType", sampleTerm "contractType" [])]

def sampleEvent (values : List Json) : Json :=
  .record [("eventType", .record [("identifier", .text "eventType"),
    ("allowedValues", .list values)])]

def sampleFields (version : List (String × String)) (terms : List (String × Json))
    (events : List Json) : List (String × Json) :=
  [("version", textRecord version), ("terms", .record terms), ("states", .record []),
    ("taxonomy", .record []), ("applicability", .record []), ("event", sampleEvent events),
    ("contractReference", .record [("role", .record []), ("type", .record [])])]

def sampleDocument : Json :=
  .record (sampleFields [("Version", "1"), ("Date", "2021-04-19")] (sampleTerms [])
    [sampleMember "1" "IP" [], sampleMember "0" "PR" []])

/-- The sample with keys and events in another order, and with unknown keys. -/
def rearrangedSample : Json :=
  .record (sampleFields [("Date", "2021-04-19"), ("Version", "1")]
    (sampleTerms [("remark", "asset")]).reverse
    [sampleMember "0" "PR" [], sampleMember "1" "IP" []] ++
      [("source", Json.text "registry")]).reverse

set_option maxRecDepth 20000 in
theorem ofText_sampleDocument :
    Tree.ofText sampleDocument.write = ⟨sampleDocument.toTree, false⟩ := by
  simp only [Tree.ofText, Json.tokens, sampleDocument, sampleFields, sampleTerms, sampleEvent,
    sampleTerm, sampleMember, textRecord, Json.write, Json.writeFields, Json.writeItems,
    Json.writeText, List.map_cons, List.map_nil, List.append_nil, String.toList_append,
    String.toList_intercalate, String.toList_ofList]
  rfl

set_option maxRecDepth 20000 in
theorem ofText_rearrangedSample :
    Tree.ofText rearrangedSample.write = ⟨rearrangedSample.toTree, false⟩ := by
  simp only [Tree.ofText, Json.tokens, rearrangedSample, sampleFields, sampleTerms, sampleEvent,
    sampleTerm, sampleMember, textRecord, Json.write, Json.writeFields, Json.writeItems,
    Json.writeText, List.reverse_cons, List.reverse_nil, List.nil_append,
    List.cons_append, List.map_cons, List.map_nil, List.append_nil, String.toList_append,
    String.toList_intercalate, String.toList_ofList]
  rfl

/-- Keys in another order and further texts rearrange a record. -/
theorem recordChange_reordered {names : List String} {fields : List (Option String × Tree)}
    (extra : List (Option String × Tree)) {fields' : List (Option String × Tree)}
    {fault : Option Json.Break} (unknown : ∀ field ∈ extra, IsExtra (reordered names) field)
    (order : (fields ++ extra).Perm fields') :
    RecordChange (reordered names) (.record fields fault) (.record fields' fault) := by
  refine .named (List.forall₂_same.2 fun field _ => ⟨rfl, fun key _ => ?_⟩) unknown order
  rw [changeOf_reordered]
  exact Json.Reordered.refl _

theorem fieldChange_of {changes : List (String × Change)} {key : String} {tree tree' : Tree}
    (change : changeOf changes key tree tree') :
    FieldChange changes (some key, tree) (some key, tree') := by
  refine ⟨rfl, ?_⟩
  rintro _ ⟨⟩
  exact change

theorem type_of_readTerm {room : Nat} {fields : List (Option String × Tree)}
    {fault : Option Json.Break} {record : TermRecord}
    (read : TermRecord.read room (.record fields fault) = .ok record) {type : String}
    (written : fields.lookup (some "type") = some (.text (some type))) : record.type = type := by
  cases room with
  | zero => cases read
  | succ room =>
      simp only [TermRecord.read, bind_eq_ok, pure_eq_ok] at read
      obtain ⟨found, scanned, -, -, -, -, -, -, own, hown, -, -, -, -, -, -, -, -, rfl⟩ := read
      obtain ⟨-, finds⟩ := finds_of_readFields scanned
      rw [finds.get_eq (by simp) written] at hown
      cases hown
      rfl

/-- A term may be written with its keys in another order. -/
theorem termChange_of_perm {fields fields' : List (Option String × Tree)}
    {fault : Option Json.Break} (order : fields.Perm fields') :
    TermChange (.record fields fault) (.record fields' fault) := by
  have names : termRecordChange Json.Reordered = RecordChange (reordered ["identifier", "name",
    "acronym", "type", "allowedValues", "default", "group", "description"]) := rfl
  refine .inl ?_
  rw [names]
  exact recordChange_reordered [] (by simp) (by rwa [List.append_nil])

theorem memberChange_sample (option acronym : String) :
    MemberChange (sampleMember option acronym []).toTree (sampleMember option acronym []).toTree :=
  recordChange_reordered [] (by simp) (.refl _)

theorem termsChange_sample :
    SectionChange TermChange (Json.record (sampleTerms [])).toTree
      (Json.record (sampleTerms [("remark", "asset")]).reverse).toTree := by
  have member : MemberChange (sampleMember "0" "RPA" []).toTree
      (sampleMember "0" "RPA" [("remark", "asset")]).toTree :=
    recordChange_reordered [(some "remark", .text (some "asset"))]
      (by simp [IsExtra, reordered, memberNames]) (.refl _)
  have order : (Json.fieldTrees (sampleTerms [("remark", "asset")])).Perm
      (Json.fieldTrees (sampleTerms [("remark", "asset")]).reverse) := (List.reverse_perm _).symm
  refine .entries ?_ order
  refine .cons ⟨rfl, ?plain⟩ <| .cons ⟨rfl, .inr ⟨?enumerated, ?members⟩⟩ <|
    .cons ⟨rfl, ?last⟩ .nil
  case plain => exact termChange_of_perm (.refl _)
  case last => exact termChange_of_perm (.refl _)
  case enumerated =>
    intro room record read
    rw [type_of_readTerm read rfl]
    exact .inl rfl
  case members =>
    refine .named (.cons (fieldChange_of (Json.Reordered.refl _)) <|
      .cons (fieldChange_of (Json.Reordered.refl _)) <|
      .cons (fieldChange_of (Json.Reordered.refl _)) <|
      .cons (fieldChange_of (Json.Reordered.refl _)) <|
      .cons (fieldChange_of ?_) .nil) (by simp) (.refl _)
    exact .list (.cons member .nil)

/-- The two events of the sample have options of their own. -/
theorem optionsDiffer_sample :
    OptionsDiffer (Json.itemTrees [sampleMember "1" "IP" [], sampleMember "0" "PR" []]) := by
  intro room values members hvalues hmembers
  cases room with
  | zero => cases hvalues
  | succ room =>
      cases hvalues
      cases hmembers
      decide

theorem eventChange_sample :
    EventChange (sampleEvent [sampleMember "1" "IP" [], sampleMember "0" "PR" []]).toTree
      (sampleEvent [sampleMember "0" "PR" [], sampleMember "1" "IP" []]).toTree := by
  have members : MembersRearranged
      (Json.list [sampleMember "1" "IP" [], sampleMember "0" "PR" []]).toTree
      (Json.list [sampleMember "0" "PR" [], sampleMember "1" "IP" []]).toTree :=
    .list (.cons (memberChange_sample "1" "IP") (.cons (memberChange_sample "0" "PR") .nil))
      (.inr ⟨optionsDiffer_sample, .swap _ _ _⟩)
  have own : EnumerationChange
      (Json.record [("identifier", .text "eventType"),
        ("allowedValues", .list [sampleMember "1" "IP" [], sampleMember "0" "PR" []])]).toTree
      (Json.record [("identifier", .text "eventType"),
        ("allowedValues", .list [sampleMember "0" "PR" [], sampleMember "1" "IP" []])]).toTree :=
    .named (.cons (fieldChange_of (Json.Reordered.refl _)) <|
      .cons (fieldChange_of members) .nil) (by simp) (.refl _)
  exact .named (.cons (fieldChange_of own) .nil) (by simp) (.refl _)

theorem documentChange_sample :
    DocumentChange sampleDocument.toTree rearrangedSample.toTree := by
  have version : VersionChange (textRecord [("Version", "1"), ("Date", "2021-04-19")]).toTree
      (textRecord [("Date", "2021-04-19"), ("Version", "1")]).toTree :=
    recordChange_reordered [] (by simp) (.swap _ _ _)
  have empty {change : Change} : SectionChange change (.record [] none) (.record [] none) :=
    .entries .nil .nil
  have nothing : EnumerationChange (.record [] none) (.record [] none) := .named .nil (by simp) .nil
  have reference : ReferenceChange (Json.record [("role", .record []), ("type", .record [])]).toTree
      (Json.record [("role", .record []), ("type", .record [])]).toTree :=
    .named (.cons (fieldChange_of nothing) <| .cons (fieldChange_of nothing) .nil) (by simp)
      (.refl _)
  refine .named (.cons (fieldChange_of version) <| .cons (fieldChange_of termsChange_sample) <|
    .cons (fieldChange_of empty) <| .cons (fieldChange_of empty) <| .cons (fieldChange_of empty) <|
    .cons (fieldChange_of eventChange_sample) <| .cons (fieldChange_of reference) .nil)
    (List.forall_mem_singleton.2 (?_ : IsExtra _ (some "source", .text (some "registry"))))
    (List.reverse_perm _).symm
  exact ⟨_, _, rfl, by decide⟩

theorem compileText_rearrangedSample :
    (Tree.ofText sampleDocument.write).root.keysDiffer = true ∧
      DocumentChange (Tree.ofText sampleDocument.write).root
        (Tree.ofText rearrangedSample.write).root ∧
      ∃ compilation, compileText sampleDocument.write = .ok compilation ∧
        compileText rearrangedSample.write = .ok compilation := by
  have differ : (Tree.ofText sampleDocument.write).root.keysDiffer = true := by
    rw [ofText_sampleDocument]
    decide +kernel
  have changed : DocumentChange (Tree.ofText sampleDocument.write).root
      (Tree.ofText rearrangedSample.write).root := by
    rw [ofText_sampleDocument, ofText_rearrangedSample]
    exact documentChange_sample
  have whole : (Tree.ofText rearrangedSample.write).hasMore = false := by
    rw [ofText_rearrangedSample]
  have compiles : (compileText sampleDocument.write).toOption.isSome = true := by
    rw [compileText, Document.ofText, ofText_sampleDocument]
    decide +kernel
  obtain ⟨compilation, compiled⟩ := Option.isSome_iff_exists.1 compiles
  rw [toOption_eq_some] at compiled
  exact ⟨differ, changed, compilation, compiled,
    compileText_of_documentChange compiled differ changed whole⟩

end ContractDictionary
