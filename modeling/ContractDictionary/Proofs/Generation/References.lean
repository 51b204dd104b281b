import ContractDictionary.Proofs.Generation.Faults

/-!
# References to enumerations

A term of an enumerated type refers to the enumeration by a type name, and its default to a
member, both worked out from the term as the contract has it.  The enumerations that are
generated are collected from all terms, with members in another order.  Still a term set refers
to nothing that is not generated.
-/

namespace ContractDictionary

/-- The type of a field for values of a type, or for arrays of them; `isGiven` if it starts with
a value. -/
def Language.fieldType (language : Language) (isArray isGiven : Bool) (type : String) : String :=
  if isArray then language.arrayType type
  else
    match language with
    | .rust => language.optionalType type
    | .python => if isGiven then type else language.optionalType type
    | .typeScript => type

def Language.presentValue (language : Language) (value : String) : String :=
  match language with
  | .rust => "Some(" ++ value ++ ")"
  | .python | .typeScript => value

theorem typeReference_enumeration (language : Language) (identifier : String)
    {type : DeclaredType} (enumerated : type.scalar = .enumeration) :
    language.typeReference identifier type = .ok
      (if type.isArray then language.arrayType (language.qualified "enums" (typeName identifier))
        else language.qualified "enums" (typeName identifier)) := by
  rw [Language.typeReference, enumerated]
  rfl

theorem memberLiteral_ne_absent (language : Language) (identifier acronym : String) :
    language.memberLiteral identifier acronym ≠ language.absent := by
  intro same
  have first := congrArg (fun text => text.toList.head?) same
  cases language <;>
    simp [Language.memberLiteral, Language.qualified, Language.absent, String.toList_append]
      at first

theorem field_emptyArray {literal : Literal} {language : Language}
    (empty : literal.text = language.emptyArray) (type : String) :
    literal.field language true type = ⟨type, literal.text⟩ := by
  have present : literal.isAbsent language = false := by
    rw [Literal.isAbsent, empty]
    cases language <;> decide
  cases language <;> simp [Literal.field, present]

theorem field_absent {literal : Literal} {language : Language}
    (absent : literal.text = language.absent) (type : String) :
    literal.field language false type = ⟨language.fieldType false false type, literal.text⟩ := by
  have isAbsent : literal.isAbsent language = true := beq_iff_eq.2 absent
  cases language <;> simp [Literal.field, Language.fieldType, isAbsent]

theorem field_present {literal : Literal} {language : Language}
    (present : literal.text ≠ language.absent) (type : String) :
    literal.field language false type =
      ⟨language.fieldType false true type, language.presentValue literal.text⟩ := by
  have isPresent : literal.isAbsent language = false := beq_false_of_ne present
  cases language <;> simp [Literal.field, Language.fieldType, Language.presentValue, isPresent]

/-- How the field of an enumerated term starts. -/
theorem literal_of_isEnumerated {term : Term} {language : Language} {literal : Literal}
    (enumerated : term.scalarType = .enumeration) (given : term.literal language = .ok literal) :
    if term.isArray then literal.text = language.emptyArray
    else if term.default.isSome then ∃ member ∈ term.members,
      literal.text = language.memberLiteral term.identifier member.acronym
    else literal.text = language.absent := by
  have effective : term.effectiveDefault? = term.default := by
    rw [Term.effectiveDefault?, Term.admitsDefault, enumerated]
    rfl
  cases Term.literalFrom given with
  | array array empty => rw [if_pos array, empty]
  | absent single lacking absent =>
      rw [single, ← effective, lacking, absent]
      rfl
  | member single default _ _ chosen =>
      rw [single, ← effective, default]
      exact exists_member_of_memberDefault chosen
  | real _ _ other | readReal _ _ other | text _ _ other => cases enumerated.symm.trans other

/-- The field of an enumerated term has the type for values of it, or for arrays of them. -/
theorem type_field_of_isEnumerated {term : Term} {language : Language} {literal : Literal}
    (enumerated : term.scalarType = .enumeration) (given : term.literal language = .ok literal)
    (type : String) :
    (literal.field language term.isArray
      (if term.isArray then language.arrayType type else type)).type =
      language.fieldType term.isArray term.default.isSome type := by
  have start := literal_of_isEnumerated enumerated given
  cases array : term.isArray with
  | true =>
      rw [array, if_pos rfl] at start
      rw [field_emptyArray start]
      rfl
  | false =>
      rw [array, if_neg Bool.false_ne_true] at start
      rw [if_neg Bool.false_ne_true]
      cases default : term.default.isSome with
      | false =>
          rw [default, if_neg Bool.false_ne_true] at start
          rw [field_absent start]
      | true =>
          rw [default, if_pos rfl] at start
          obtain ⟨member, -, named⟩ := start
          rw [field_present (named ▸ memberLiteral_ne_absent language _ _)]

/-- An enumerated term with a default starts with one of its members. -/
theorem initializer_field_of_isEnumerated {term : Term} {language : Language} {literal : Literal}
    (enumerated : term.scalarType = .enumeration) (given : term.literal language = .ok literal)
    (scalar : term.isArray = false) (default : term.default.isSome = true) (type : String) :
    ∃ member ∈ term.members, (literal.field language term.isArray type).initializer =
      language.presentValue (language.memberLiteral term.identifier member.acronym) := by
  have start := literal_of_isEnumerated enumerated given
  rw [scalar, if_neg Bool.false_ne_true, default, if_pos rfl] at start
  obtain ⟨member, declared, named⟩ := start
  refine ⟨member, declared, ?_⟩
  rw [scalar, field_present (named ▸ memberLiteral_ne_absent language _ _), named]

def Term.enumeration (term : Term) : Enumeration :=
  .ofMembers term.toEntityInfo term.members

/-- The view names the type of the enumeration and, for a default, a member of it. -/
structure TermView.RefersTo (view : TermView) (term : Term) (language : Language)
    (declared : EnumerationView) : Prop where
  type : view.field.type = language.fieldType term.isArray term.default.isSome
    (language.qualified "enums" declared.typeName)
  default : term.isArray = false → term.default.isSome = true →
    ∃ member ∈ declared.members, view.field.initializer = language.presentValue
      (language.qualified (language.qualified "enums" declared.typeName) member.name)

theorem view_mem_members {term : Term} {member : Member} (declared : member ∈ term.members)
    (language : Language) : member.view ∈ (term.enumeration.view language).members :=
  List.mem_map_of_mem ((sortBy_perm _ _).mem_iff.2 declared)

theorem refersTo_of_view {term : Term} {language : Language} {view : TermView}
    (enumerated : term.scalarType = .enumeration) (viewed : term.view language = .ok view) :
    view.RefersTo term language (term.enumeration.view language) := by
  simp only [Term.view, bind_eq_ok, pure_eq_ok] at viewed
  obtain ⟨reference, hreference, literal, hliteral, rfl⟩ := viewed
  rw [typeReference_enumeration language term.identifier enumerated] at hreference
  cases hreference
  constructor
  case type => exact type_field_of_isEnumerated enumerated hliteral _
  case default =>
    intro scalar given
    obtain ⟨member, declared, starts⟩ :=
      initializer_field_of_isEnumerated enumerated hliteral scalar given _
    exact ⟨member.view, view_mem_members declared language, starts⟩

def Generator.Fills (generator : Generator) (reference : Reference) (artifact : Artifact)
    (file : GeneratedFile) (body : ContextBody) : Prop :=
  ∃ context, generator.context reference artifact file.subject = .ok context ∧
    context.body = body ∧
    generator.templates.render generator.language artifact context.toJson = .ok file.content

/-- A file of a batch is about a subject of its kind and filled with what that subject gives. -/
theorem fills_of_mem_files {generator : Generator} {reference : Reference} {artifact : Artifact}
    {file : GeneratedFile} (member : file ∈ (generator.batch reference artifact).files) :
    file.subject ∈ generator.subjects reference artifact ∧
      ∃ body, ContextBody.of generator.language artifact generator.dictionary file.subject
          ((generator.functions reference artifact).filter file.subject.owns) = .ok body ∧
        generator.Fills reference artifact file body := by
  obtain ⟨subject, listed, generated⟩ := mem_files_batch.1 member
  obtain ⟨path, context, content, -, hcontext, hcontent, rfl⟩ := fileAbout_eq_ok.1 generated
  obtain ⟨body, hbody, heq⟩ := bind_eq_ok.1 hcontext
  cases pure_eq_ok.1 heq
  exact ⟨listed, body, hbody, _, hcontext, rfl, hcontent⟩

theorem mem_enumerations {dictionary : Dictionary} {enumeration : Enumeration} :
    enumeration ∈ dictionary.enumerations ↔
      (∃ term ∈ dictionary.terms.toList, term.scalarType = .enumeration ∧
        term.enumeration = enumeration) ∨
      enumeration ∈ [dictionary.eventType, dictionary.referenceRole, dictionary.referenceType] := by
  rw [Dictionary.enumerations, mem_sortOn, List.mem_append, List.mem_filterMap]
  simp only [Term.asEnumeration?, Term.isEnumerated, decide_eq_true_eq,
    Option.ite_none_right_eq_some, Option.some.injEq]
  rfl

/-- The term is not enumerated, or its view refers to what the file of an enumeration shows. -/
def TermView.RefersToGenerated (view : TermView) (term : Term) (language : Language)
    (dictionary : Dictionary) : Prop :=
  term.scalarType = .enumeration → ∃ enumeration ∈ dictionary.enumerations, ∃ declared,
    ContextBody.of language .enumeration dictionary (.enumeration enumeration) [] =
      .ok (.enumeration declared) ∧
    view.RefersTo term language declared

/--
The term sets of a compiled dictionary refer to nothing that is not generated: for every term of
an enumerated type there is an enumeration of the type that the term names, and the member that
the term starts with is one of its members.
-/
theorem refersToGenerated_of_termSet {document : Document} {dictionary : Dictionary}
    {warnings : List Warning} (compiled : document.compile = .ok ⟨dictionary, warnings⟩)
    (language : Language) (templates : TemplateCollection) (reference : Reference) :
    let generator : Generator := ⟨language, dictionary, templates⟩
    ∀ file ∈ (generator.batch reference .termSet).files,
      ∃ contract ∈ dictionary.contracts.toList, file.subject = .contract contract ∧
      ∃ views, generator.Fills reference .termSet file (.terms contract.view views) ∧
        List.Forall₂ (fun term view => view.RefersToGenerated term language dictionary)
          contract.terms.toList views := by
  intro generator file member
  obtain ⟨normal, -, built, -⟩ := compile_eq_ok_iff.1 compiled
  obtain ⟨listed, body, hbody, fills⟩ := fills_of_mem_files member
  obtain ⟨contract, ofDictionary, about⟩ := List.mem_map.1 listed
  rw [← about] at hbody
  obtain ⟨views, hviews, rfl⟩ := map_eq_ok.1 hbody
  refine ⟨contract, ofDictionary, about.symm, views, fills, ?_⟩
  have viewed := (List.forall₂_and_left _ _).2 ⟨fun _ ofContract => ofContract, mapM_eq_ok.1 hviews⟩
  refine viewed.imp ?_
  intro term view ⟨ofContract, hview⟩ enumerated
  have ofTerms := mem_terms_of_buildsTo built ofDictionary ofContract
  have generated : term.enumeration ∈ dictionary.enumerations :=
    mem_enumerations.2 (.inl ⟨term, ofTerms, enumerated, rfl⟩)
  exact ⟨term.enumeration, generated, _, rfl, refersTo_of_view enumerated hview⟩

/--
A term with members and a default in lower case, an array of the same type without members, and
a state under the identifier of the term.
-/
def dayCounts : Document :=
  let members : List MemberRecord := [⟨1, "actual360", "Actual 360", "A360", ""⟩,
    ⟨0, "thirty360", "Thirty 360", "30E360", ""⟩]
  let dayCount : TermRecord :=
    { TermRecord.plain "dayCount" "Enum" (some "30e360") with
      allowedValues := members.map MemberRecord.toJson }
  { Document.plain [dayCount, .plain "dayCounts" "Enum[]" none] [.plain "ANN" "ann"]
      [("ann", ["dayCount", "dayCounts"])] with
    states := .ofList [("dayCount", ⟨"dayCount", "dayCount", "dayCount", "Enum", [], ""⟩)] }

theorem isSuccess_of_dayCounts :
    ∃ dictionary warnings, dayCounts.compile = .ok ⟨dictionary, warnings⟩ ∧
      (Report.ofBatches (Generator.batches ⟨.rust, dictionary, .builtin [.rust]⟩
        ⟨[]⟩)).isSuccess = true :=
  exists_isSuccess_of_faultless ⟨[]⟩ (by decide +kernel)

theorem refersToGenerated_of_dayCounts :
    ∃ dictionary warnings, dayCounts.compile = .ok ⟨dictionary, warnings⟩ ∧
      ∃ file ∈ (Generator.batch ⟨.rust, dictionary, .builtin [.rust]⟩ ⟨[]⟩ .termSet).files,
        ∃ contract ∈ dictionary.contracts.toList, file.subject = .contract contract ∧
        contract.terms.identifiers = ["dayCount", "dayCounts"] ∧
        ∃ views, List.Forall₂ (fun term (view : TermView) =>
          view.RefersToGenerated term .rust dictionary) contract.terms.toList views := by
  obtain ⟨dictionary, warnings, compiled, succeeded⟩ := isSuccess_of_dayCounts
  have contracts : dayCounts.compile.toOption.all (fun compilation => decide
      (compilation.dictionary.contracts.toList.map (·.terms.identifiers) =
        [["dayCount", "dayCounts"]])) = true := by
    decide +kernel
  rw [compiled] at contracts
  have terms := of_decide_eq_true contracts
  have one : ["dayCount", "dayCounts"] ∈
      dictionary.contracts.toList.map (·.terms.identifiers) :=
    terms ▸ List.mem_singleton.2 rfl
  obtain ⟨annuity, listed, own⟩ := List.mem_map.1 one
  obtain ⟨file, member, subject⟩ := exists_file_of_complete
    (complete_of_isSuccess succeeded .termSet) (List.mem_map_of_mem listed)
  obtain ⟨contract, declared, about, views, -, refer⟩ :=
    refersToGenerated_of_termSet compiled .rust (.builtin [.rust]) ⟨[]⟩ file member
  cases subject.symm.trans about
  exact ⟨dictionary, warnings, compiled, file, member, annuity, listed, subject, own, views, refer⟩

end ContractDictionary
