import ContractDictionary.Proofs.Compile.ContractTypes
import ContractDictionary.Proofs.Compile.Defaults
import ContractDictionary.Proofs.Compile.Validity
import ContractDictionary.Proofs.Generation.References
import ContractDictionary.Proofs.Model.StableSorting

/-!
# Types that are generated and referred to

The term of contract types, that of roles and that of performances are compiled twice: each to an
enumeration of the dictionary and to a term, of which only the latter marks the default.  Both have
the names of the record and the members of its allowed values, in one order.

A state of an enumerated type refers to a type with the name of the state, and the execution of a
step to the type of events by a fixed name.  No enumeration is generated for either: the name is
declared only if a term or one of the enumerations beside the terms has it.
-/

namespace ContractDictionary

/-- The two enumerations have one name and, but for the marks of a default, the same members. -/
structure Enumeration.Agrees (left right : Enumeration) : Prop where
  identifier : left.identifier = right.identifier
  acronym : left.acronym = right.acronym
  name : left.name = right.name
  members : left.members.map Member.record = right.members.map Member.record

theorem map_record_sortMembers (members : List Member) :
    (sortMembers members).map Member.record =
      sortBy (fun a b => decide (a.option ≤ b.option)) (members.map Member.record) := by
  unfold sortMembers
  refine (sortBy_map ?_ members).symm
  exact fun _ _ => rfl

/-- Members that are read with different defaults are the same but for their marks. -/
theorem members_agree {location : String} {default default' : Option String} {values : List Json}
    {members members' : List Member} (compiled : membersOf location default values = .ok members)
    (compiled' : membersOf location default' values = .ok members') :
    (sortMembers members).map Member.record = (sortMembers members').map Member.record := by
  obtain ⟨records, read, rfl⟩ := membersOf_eq_ok.1 compiled
  obtain ⟨records', read', rfl⟩ := membersOf_eq_ok.1 compiled'
  cases read.symm.trans read'
  rw [map_record_sortMembers, map_record_sortMembers, map_record_member,
    map_record_member]

theorem filterMap_asMember? (members : List Member) :
    (members.map AllowedValue.member).filterMap AllowedValue.asMember? = members := by
  rw [List.filterMap_map]
  exact List.filterMap_some

/-- The members of a compiled term are those of its record, with the default marked. -/
theorem members_of_compileTerm {key : String} {record : TermRecord} {term : Term}
    (compiled : record.compile key = .ok term) (enumerated : term.scalarType = .enumeration) :
    membersOf ("terms." ++ key) (some (defaultAcronym term.default)) record.allowedValues =
      .ok term.members := by
  simp only [TermRecord.compile, bind_eq_ok, pure_eq_ok] at compiled
  obtain ⟨type, -, allowed, values, rfl⟩ := compiled
  change type.scalar = .enumeration at enumerated
  rw [enumerated] at values
  obtain ⟨members, read, rfl⟩ := map_eq_ok.1 values
  have isEnumerated : decide (type.scalar = .enumeration) = true := decide_eq_true enumerated
  rw [Term.members, Term.isEnumerated, Term.scalarType, if_pos isEnumerated, filterMap_asMember?,
    enumerated]
  exact read

theorem naming_of_compileTerm {key : String} {record : TermRecord} {term : Term}
    (compiled : record.compile key = .ok term) :
    (term.identifier, term.acronym, term.name) =
      (record.identifier, record.acronym, record.name) := by
  simp only [TermRecord.compile, bind_eq_ok, pure_eq_ok] at compiled
  obtain ⟨type, -, allowed, -, rfl⟩ := compiled
  rfl

theorem agrees_of_compileTerm {document : Document} {key : String} {record : TermRecord}
    (declared : document.terms.get? key = some record) {enumeration : Enumeration}
    (compiled : document.termEnumeration key = .ok enumeration) {term : Term}
    (own : record.compile key = .ok term) (enumerated : term.scalarType = .enumeration) :
    enumeration.Agrees term.enumeration := by
  rw [Document.termEnumeration, declared] at compiled
  simp only [bind_eq_ok, pure_eq_ok] at compiled
  obtain ⟨members, read, rfl⟩ := compiled
  obtain ⟨identifier, acronym, name⟩ : _ ∧ _ ∧ _ := by
    simpa only [Prod.mk.injEq] using naming_of_compileTerm own
  exact ⟨identifier.symm, acronym.symm, name.symm,
    members_agree read (members_of_compileTerm own enumerated)⟩

/-- Three enumerations of a dictionary are taken from the terms of a document in normal form. -/
theorem termEnumeration_of_buildsTo {document : Document} {dictionary : Dictionary}
    (built : document.BuildsTo dictionary) :
    ∀ declared ∈ [("contractType", dictionary.contractType),
        ("contractRole", dictionary.contractRole),
        ("contractPerformance", dictionary.contractPerformance)],
      document.termEnumeration declared.1 = .ok declared.2 := by
  simp only [List.forall_mem_cons]
  exact ⟨built.contractType, built.contractRole, built.contractPerformance,
    List.forall_mem_nil _⟩

theorem exists_agreeing_term {document normal : Document} {dictionary : Dictionary}
    {warnings : List Warning} (compiled : document.compile = .ok ⟨dictionary, warnings⟩)
    (normalized : document.normalize = .ok normal) {key : String} {enumeration : Enumeration}
    (taken : normal.termEnumeration key = .ok enumeration) {record : TermRecord}
    (declared : document.terms.get? key = some record)
    (enumerates : DeclaresEnumeration record.type) :
    ∃ term ∈ dictionary.terms.toList,
      (record.normalize document.taxonomy key).compile key = .ok term ∧
      ∃ shown, term.asEnumeration? = some shown ∧ enumeration.Agrees shown := by
  obtain ⟨terms, listed, compiledTerms⟩ := exists_terms_of_compile compiled
  obtain ⟨term, found, own⟩ := exists_result_of_mapM_eq_ok compiledTerms (mem_of_lookup declared)
  have enumerated : term.scalarType = .enumeration := by
    rw [(standsFor_of_compileTerm own).type] at enumerates
    exact declaresEnumeration_text_iff.1 enumerates
  have normalTerm : normal.terms.get? key = some (record.normalize document.taxonomy key) := by
    rw [terms_of_normalize normalized, Keyed.get?_map, declared]
    rfl
  refine ⟨term, ?_, own, term.enumeration, ?_,
    agrees_of_compileTerm normalTerm taken own enumerated⟩
  · rw [listed, EntitySet.mem_ofList]
    exact found
  · exact if_pos (decide_eq_true enumerated)

theorem map_asEnumeration? (terms : TermSet) :
    terms.enumerated.toList.map Term.asEnumeration? =
      (terms.enumerated.toList.map Term.enumeration).map some := by
  rw [List.map_map, TermSet.enumerated, EntitySet.toList_filter]
  refine List.map_congr_left fun term selected => ?_
  rw [Term.asEnumeration?, if_pos (List.mem_filter.1 selected).2]
  rfl

theorem filterMap_asEnumeration? (terms : TermSet) :
    terms.toList.filterMap Term.asEnumeration? =
      terms.enumerated.toList.map Term.enumeration := by
  rw [TermSet.enumerated, EntitySet.toList_filter, ← List.filterMap_eq_map, List.filterMap_filter]
  rfl

/--
Each of the three enumerations that are taken from terms agrees with that of the term its record is
compiled to, if this is an enumerated one.  The enumerations that are generated are those of the
enumerated terms, of events and of the two sides of references, in the stable order of identifiers.
-/
theorem enumerations_agree_of_compile {document : Document} {dictionary : Dictionary}
    {warnings : List Warning} (compiled : document.compile = .ok ⟨dictionary, warnings⟩) :
    (∀ declared ∈ [("contractType", dictionary.contractType),
        ("contractRole", dictionary.contractRole),
        ("contractPerformance", dictionary.contractPerformance)],
      ∀ record, document.terms.get? declared.1 = some record → DeclaresEnumeration record.type →
        ∃ term ∈ dictionary.terms.toList,
          (record.normalize document.taxonomy declared.1).compile declared.1 = .ok term ∧
          ∃ enumeration, term.asEnumeration? = some enumeration ∧
            declared.2.Agrees enumeration) ∧
    ∃ ofTerms, dictionary.terms.enumerated.toList.map Term.asEnumeration? = ofTerms.map some ∧
      dictionary.enumerations.Perm (ofTerms ++
        [dictionary.eventType, dictionary.referenceRole, dictionary.referenceType]) ∧
      IsStablySorted (·.identifier) (ofTerms ++
        [dictionary.eventType, dictionary.referenceRole, dictionary.referenceType])
        dictionary.enumerations := by
  obtain ⟨normal, normalized, built, -⟩ := compile_eq_ok_iff.1 compiled
  constructor
  · intro declared among record given enumerates
    have taken := termEnumeration_of_buildsTo built declared among
    exact exists_agreeing_term compiled normalized taken given enumerates
  · refine ⟨_, map_asEnumeration? dictionary.terms, ?_, ?_⟩
    · rw [← filterMap_asEnumeration?]
      exact sortOn_perm _ _
    · rw [← filterMap_asEnumeration?]
      exact isStablySorted_sortOn _ _

/-- Members of one option, one of them the default, and a type that they lack. -/
def tiedMembers : Document :=
  .plain [.enumerated contractTypeTerm "LAM" [.plain 0 "PAM", .plain 0 "LAM"]]
    [.plain "ANN" "ann"] []

theorem enumerations_agree_of_tiedMembers :
    ∃ dictionary warnings, tiedMembers.compile = .ok ⟨dictionary, warnings⟩ ∧
      ∃ term ∈ dictionary.terms.toList, term.identifier = contractTypeTerm ∧
        ∃ enumeration, term.asEnumeration? = some enumeration ∧
          dictionary.contractType.Agrees enumeration := by
  obtain ⟨⟨dictionary, warnings⟩, compiled⟩ :=
    faultOf_eq_none.1 (show faultOf tiedMembers.compile = none by decide +kernel)
  obtain ⟨agree, -⟩ := enumerations_agree_of_compile compiled
  have declared : ∃ record, tiedMembers.terms.get? contractTypeTerm = some record ∧
      record.identifier = contractTypeTerm ∧ record.type = "Enum" := ⟨_, rfl, rfl, rfl⟩
  obtain ⟨record, given, identifier, single⟩ := declared
  obtain ⟨term, listed, own, enumeration, shown, agrees⟩ :=
    agree _ List.mem_cons_self record given (.inl single)
  have kept : term.identifier = record.identifier :=
    (identifier_of_compileTerm own).trans (identifier_normalize _ _ _)
  exact ⟨dictionary, warnings, compiled, term, listed, kept.trans identifier, enumeration, shown,
    agrees⟩

/-! ## States and steps -/

/-- The view names the type of an enumeration, of which no value is there at the start. -/
theorem fieldType_of_stateView {state : State} {language : Language} {view : StateView}
    (enumerated : state.type.scalar = .enumeration) (viewed : state.view language = .ok view) :
    view.fieldType = language.fieldType state.type.isArray false
      (language.qualified "enums" (typeName state.identifier)) := by
  simp only [State.view, bind_eq_ok, pure_eq_ok] at viewed
  obtain ⟨reference, hreference, rfl⟩ := viewed
  rw [typeReference_enumeration language state.identifier enumerated] at hreference
  cases hreference
  cases array : state.type.isArray with
  | true => rfl
  | false => cases language <;> rfl

open Template.Builtin in
/-- The templates for the execution of steps write out the name of the type of events. -/
theorem exists_eventType_text (language : Language) :
    ∃ text front back, .text text ∈ Template.builtin language .executeStepStub ∧
      text = front ++ language.qualified "enums" "EventType" ++ back := by
  cases language with
  | python =>
      exact ⟨"    event_type: enums.EventType,\n", "    event_type: ", ",\n",
        by simp [Template.builtin, executeStepStub, heading], by decide⟩
  | rust =>
      exact ⟨"use crate::types::enums::EventType;\n", "use crate::types::", ";\n",
        by simp [Template.builtin, executeStepStub, heading], by decide⟩
  | typeScript =>
      exact ⟨"    eventType: enums.EventType,\n", "    eventType: ", ",\n",
        by simp [Template.builtin, executeStepStub, heading], by decide⟩

/-- The execution of a step refers to the type of events, whatever the dictionary declares. -/
theorem content_of_executeStep {language : Language} {languages : List Language}
    (listed : language ∈ languages) {dictionary : Dictionary} {reference : Reference}
    {file : GeneratedFile} {body : ContextBody}
    (filled : Generator.Fills ⟨language, dictionary, .builtin languages⟩ reference
      .executeStepStub file body) :
    ∃ front back, file.content = front ++ language.qualified "enums" "EventType" ++ back := by
  obtain ⟨context, -, -, rendered⟩ := filled
  obtain ⟨text, front, back, member, rfl⟩ := exists_eventType_text language
  obtain ⟨before, after, whole⟩ :=
    Template.exists_append_of_renderNodes member ((render_builtin_eq_ok listed).1 rendered)
  exact ⟨before ++ front, back ++ after, by rw [whole]; simp only [String.append_assoc]⟩

/-- An enumeration is generated under the type name. -/
def Dictionary.DeclaresType (dictionary : Dictionary) (name : String) : Prop :=
  ∃ enumeration ∈ dictionary.enumerations, typeName enumeration.identifier = name

def Document.NamesType (document : Document) (name : String) : Prop :=
  (∃ record ∈ document.terms.values,
      DeclaresEnumeration record.type ∧ typeName record.identifier = name) ∨
    document.eventType.identifier.map typeName = some name ∨
    name ∈ ["ReferenceRole", "ReferenceType"]

theorem declaresType_iff_or {dictionary : Dictionary} {name : String} :
    dictionary.DeclaresType name ↔
      (∃ term ∈ dictionary.terms.toList,
        term.scalarType = .enumeration ∧ typeName term.identifier = name) ∨
      typeName dictionary.eventType.identifier = name ∨
      typeName dictionary.referenceRole.identifier = name ∨
      typeName dictionary.referenceType.identifier = name := by
  unfold Dictionary.DeclaresType
  simp only [mem_enumerations, or_and_right, exists_or, List.mem_cons, List.not_mem_nil, or_false,
    exists_eq_left]
  refine or_congr_left ⟨?_, ?_⟩
  · rintro ⟨_, ⟨term, member, enumerated, rfl⟩, named⟩
    exact ⟨term, member, enumerated, named⟩
  · rintro ⟨term, member, enumerated, named⟩
    exact ⟨_, ⟨term, member, enumerated, rfl⟩, named⟩

theorem exists_enumeratedTerm_iff {records : Keyed TermRecord} {terms : List Term}
    (compiled : compileSection TermRecord.compile records = .ok terms) {name : String} :
    (∃ term ∈ terms, term.scalarType = .enumeration ∧ typeName term.identifier = name) ↔
      ∃ record ∈ records.values,
        DeclaresEnumeration record.type ∧ typeName record.identifier = name := by
  constructor
  · rintro ⟨term, member, enumerated, named⟩
    obtain ⟨entry, listed, hterm⟩ := exists_of_mapM_eq_ok compiled member
    refine ⟨entry.2, Keyed.mem_values.2 ⟨entry, listed, rfl⟩, ?_, ?_⟩
    · rw [type_of_compileTerm hterm]
      exact declaresEnumeration_text_iff.2 enumerated
    · rw [← identifier_of_compileTerm hterm]
      exact named
  · rintro ⟨record, declared, enumerated, named⟩
    obtain ⟨entry, listed, rfl⟩ := Keyed.mem_values.1 declared
    obtain ⟨term, member, hterm⟩ := exists_result_of_mapM_eq_ok compiled listed
    rw [type_of_compileTerm hterm] at enumerated
    rw [← identifier_of_compileTerm hterm] at named
    exact ⟨term, member, declaresEnumeration_text_iff.1 enumerated, named⟩

theorem identifier_of_compileEnumeration {location : String} {record : EnumerationRecord}
    {enumeration : Enumeration} (compiled : record.compile location = .ok enumeration) :
    record.identifier = some enumeration.identifier := by
  unfold EnumerationRecord.compile at compiled
  split at compiled
  · cases compiled
  · next identifier found =>
      obtain ⟨members, -, heq⟩ := bind_eq_ok.1 compiled
      cases pure_eq_ok.1 heq
      exact found

/-- The types that are declared have the names that the document gives. -/
theorem declaresType_iff {document : Document} {dictionary : Dictionary}
    {warnings : List Warning} (compiled : document.compile = .ok ⟨dictionary, warnings⟩)
    {name : String} : dictionary.DeclaresType name ↔ document.NamesType name := by
  obtain ⟨normal, normalized, built, -⟩ := compile_eq_ok_iff.1 compiled
  obtain ⟨terms, hterms, termsEq⟩ := built.terms
  have event := identifier_of_compileEnumeration built.eventType
  have role := identifier_of_compileEnumeration built.referenceRole
  have type := identifier_of_compileEnumeration built.referenceType
  rw [eq_of_normalize normalized] at hterms event role type
  have ofTerms : (∃ term ∈ dictionary.terms.toList, term.scalarType = .enumeration ∧
        typeName term.identifier = name) ↔
      ∃ record ∈ document.terms.values,
        DeclaresEnumeration record.type ∧ typeName record.identifier = name := by
    rw [← exists_declaration_normalize_iff (fun identifier type =>
      DeclaresEnumeration type ∧ typeName identifier = name), ← exists_enumeratedTerm_iff hterms,
      termsEq]
    simp only [EntitySet.mem_ofList]
  have roleName : typeName dictionary.referenceRole.identifier = "ReferenceRole" := by
    rw [← Option.some.inj role]
    decide +kernel
  have kindName : typeName dictionary.referenceType.identifier = "ReferenceType" := by
    rw [← Option.some.inj type]
    decide +kernel
  rw [declaresType_iff_or, ofTerms, roleName, kindName, Document.NamesType, event]
  simp only [Option.map_some, Option.some.injEq, List.mem_cons, List.not_mem_nil, or_false,
    eq_comm (a := name)]

/-- What the states and the steps of contracts refer to, and what is declared. -/
structure Generator.RefersBeyondTerms (generator : Generator) (reference : Reference)
    (document : Document) : Prop where
  /-- A state refers to the type that has the name of the state. -/
  states : ∀ file ∈ (generator.batch reference .stateSpace).files,
    ∃ views, generator.Fills reference .stateSpace file (.states views) ∧
      List.Forall₂ (fun (state : State) view => state.type.scalar = .enumeration →
        view.fieldType = generator.language.fieldType state.type.isArray false
          (generator.language.qualified "enums" (typeName state.identifier)))
        generator.dictionary.states.toList views
  /-- The execution of a step refers to the type of events by a fixed name. -/
  steps : ∀ file ∈ (generator.batch reference .executeStepStub).files,
    ∃ front back,
      file.content = front ++ generator.language.qualified "enums" "EventType" ++ back
  index : ∀ file ∈ (generator.batch reference .enumerationIndex).files,
    ∃ enumerations contracts, generator.Fills reference .enumerationIndex file
        (.index generator.language enumerations contracts) ∧
      enumerations.map (·.typeName) =
        generator.dictionary.enumerations.map (typeName ·.identifier)
  /-- The names that are declared are those of terms, of events and of references. -/
  declared : ∀ name, generator.dictionary.DeclaresType name ↔ document.NamesType name

/--
Whatever a document declares as states and as the type of events, a state of an enumerated type
refers to a type with the name of the state, and the execution of a step to `EventType`.  Such a
type is declared exactly if an enumerated term, the type of events or the role or the type of
references has its name.
-/
theorem refersBeyondTerms_of_compile {document : Document} {dictionary : Dictionary}
    {warnings : List Warning} (compiled : document.compile = .ok ⟨dictionary, warnings⟩)
    {languages : List Language} {language : Language} (listed : language ∈ languages)
    (reference : Reference) :
    Generator.RefersBeyondTerms ⟨language, dictionary, .builtin languages⟩ reference document := by
  constructor
  case states =>
    intro file member
    obtain ⟨about, body, hbody, fills⟩ := fills_of_mem_files member
    rw [List.mem_singleton.1 about] at hbody
    obtain ⟨views, hviews, rfl⟩ := map_eq_ok.1 hbody
    exact ⟨views, fills, (mapM_eq_ok.1 hviews).imp fun _ _ hview enumerated =>
      fieldType_of_stateView enumerated hview⟩
  case steps =>
    intro file member
    obtain ⟨-, body, -, fills⟩ := fills_of_mem_files member
    exact content_of_executeStep listed fills
  case index =>
    intro file member
    obtain ⟨about, body, hbody, fills⟩ := fills_of_mem_files member
    rw [List.mem_singleton.1 about] at hbody
    cases hbody
    refine ⟨_, _, fills, ?_⟩
    rw [List.map_map]
    rfl
  case declared => exact fun name => declaresType_iff compiled

/-- The state of `dayCounts` refers to the type that is declared for the term of its name. -/
theorem refersBeyondTerms_of_dayCounts :
    ∃ dictionary warnings, dayCounts.compile = .ok ⟨dictionary, warnings⟩ ∧
      (∃ file ∈ (Generator.batch ⟨.rust, dictionary, .builtin [.rust]⟩ ⟨[]⟩ .stateSpace).files,
        file.subject = .dictionary) ∧
      Generator.RefersBeyondTerms ⟨.rust, dictionary, .builtin [.rust]⟩ ⟨[]⟩ dayCounts ∧
      dictionary.DeclaresType "DayCount" ∧ dictionary.DeclaresType "EventType" := by
  obtain ⟨dictionary, warnings, compiled, succeeded⟩ := isSuccess_of_dayCounts
  have states := exists_file_of_complete (complete_of_isSuccess succeeded .stateSpace)
    (show .dictionary ∈ Generator.subjects ⟨.rust, dictionary, .builtin [.rust]⟩ ⟨[]⟩ .stateSpace
      from List.mem_cons_self)
  have refers := refersBeyondTerms_of_compile compiled
    (show Language.rust ∈ [Language.rust] by decide) ⟨[]⟩
  have term : ∃ record ∈ dayCounts.terms.values,
      DeclaresEnumeration record.type ∧ typeName record.identifier = "DayCount" := by
    decide +kernel
  have event : dayCounts.eventType.identifier.map typeName = some "EventType" := by
    decide +kernel
  exact ⟨dictionary, warnings, compiled, states, refers, (refers.declared _).2 (.inl term),
    (refers.declared _).2 (.inr (.inl event))⟩

instance (dictionary : Dictionary) (name : String) : Decidable (dictionary.DeclaresType name) :=
  inferInstanceAs (Decidable (∃ enumeration ∈ dictionary.enumerations, _))

/-- A state of an enumerated type of its own, and a type of events of another name. -/
def ownPhase : Document :=
  { Document.plain [] [.plain "ANN" "ann"] [] with
    states := .ofList [("phase", ⟨"phase", "phase", "phase", "Enum", [], ""⟩)]
    eventType := .plain "eventKind" }

/-- A state may refer to a type that is not declared, and so may the execution of a step. -/
theorem refers_to_undeclared_types :
    ∃ dictionary warnings, ownPhase.compile = .ok ⟨dictionary, warnings⟩ ∧
      (∃ views, ContextBody.of .rust .stateSpace dictionary .dictionary [] = .ok (.states views) ∧
        views.map (·.fieldType) = ["Option<enums::Phase>"]) ∧
      ¬dictionary.DeclaresType "Phase" ∧
      (∃ file ∈ (Generator.batch ⟨.rust, dictionary, .builtin [.rust]⟩ ⟨[]⟩ .executeStepStub).files,
        ∃ front back, file.content = front ++ "enums::EventType" ++ back) ∧
      ¬dictionary.DeclaresType "EventType" := by
  obtain ⟨dictionary, warnings, compiled, succeeded⟩ :=
    exists_isSuccess_of_faultless ⟨[]⟩ (show ownPhase.compile.toOption.any (fun compilation =>
      decide (compilation.dictionary.IsFaultless .rust)) = true by decide +kernel)
  have names : ownPhase.compile.toOption.all (fun ⟨dictionary, _⟩ =>
      decide ((dictionary.states.views .rust).toOption.map (·.map (·.fieldType)) =
          some ["Option<enums::Phase>"] ∧
        ¬dictionary.DeclaresType "Phase" ∧ ¬dictionary.DeclaresType "EventType" ∧
        dictionary.contracts.toList.map Contract.acronym = ["ANN"])) = true := by
    decide +kernel
  rw [compiled] at names
  obtain ⟨fields, noPhase, noEvent, contracts⟩ := of_decide_eq_true names
  obtain ⟨annuity, listed, -⟩ := List.mem_map.1 (contracts ▸ List.mem_singleton.2 rfl)
  obtain ⟨file, member, -⟩ := exists_file_of_complete
    (complete_of_isSuccess succeeded .executeStepStub) (List.mem_map_of_mem listed)
  obtain ⟨-, body, -, fills⟩ := fills_of_mem_files member
  obtain ⟨states, found, types⟩ := Option.map_eq_some_iff.1 fields
  refine ⟨dictionary, warnings, compiled, ⟨states, ?_, types⟩, noPhase,
    ⟨file, member, content_of_executeStep (List.mem_singleton.2 rfl) fills⟩, noEvent⟩
  exact map_eq_ok.2 ⟨states, toOption_eq_some.1 found, rfl⟩

end ContractDictionary
