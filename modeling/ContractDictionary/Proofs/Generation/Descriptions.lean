import ContractDictionary.Proofs.Compile.Defaults
import ContractDictionary.Proofs.Generation.References

/-!
# Descriptions on one line

Generated files show descriptions in comments of one line.  Those of states have no breaks.
Those of terms lose their line feeds when they are compiled, but keep carriage returns, and
those of members and of enumerations that are not terms are shown as they are written, so their
breaks end the comments.
-/

namespace ContractDictionary

/-- The text has neither a line feed nor a carriage return. -/
def Text.IsOneLine (text : String) : Prop :=
  '\n' ∉ text.toList ∧ '\r' ∉ text.toList

instance (text : String) : Decidable (Text.IsOneLine text) :=
  inferInstanceAs (Decidable (_ ∧ _))

theorem isOneLine_dropLineFeeds_iff {text : String} :
    Text.IsOneLine (dropLineFeeds text) ↔ '\r' ∉ text.toList := by
  rw [Text.IsOneLine, dropLineFeeds, String.toList_ofList, List.mem_filter, List.mem_filter]
  simp

theorem isOneLine_shortDescription (state : State) : Text.IsOneLine state.shortDescription := by
  rw [Text.IsOneLine, State.shortDescription, String.toList_ofList, List.mem_filter,
    List.mem_filter]
  simp

/-- The descriptions of what a file is about: an enumeration with its members, terms or states. -/
def ContextBody.descriptions : ContextBody → List String
  | .enumeration view => view.description :: view.members.map (·.description)
  | .states views => views.map (·.description)
  | .terms _ views => views.map (·.description)
  | _ => []

def Generator.ShowsDescriptions (generator : Generator) (reference : Reference)
    (artifact : Artifact) (file : GeneratedFile) (descriptions : List String) : Prop :=
  ∃ body, generator.Fills reference artifact file body ∧ body.descriptions = descriptions

theorem isOneLine_of_views {states : StateSet} {language : Language} {views : List StateView}
    (viewed : states.views language = .ok views) {view : StateView} (member : view ∈ views) :
    Text.IsOneLine view.description := by
  obtain ⟨state, -, hview⟩ := exists_of_mapM_eq_ok viewed member
  simp only [State.view, bind_eq_ok, pure_eq_ok] at hview
  obtain ⟨_, -, rfl⟩ := hview
  exact isOneLine_shortDescription state

theorem shows_of_stateSpace {generator : Generator} {reference : Reference}
    {file : GeneratedFile} (member : file ∈ (generator.batch reference .stateSpace).files) :
    ∃ descriptions, generator.ShowsDescriptions reference .stateSpace file descriptions ∧
      ∀ description ∈ descriptions, Text.IsOneLine description := by
  obtain ⟨listed, body, hbody, fills⟩ := fills_of_mem_files member
  rw [List.mem_singleton.1 listed] at hbody
  obtain ⟨views, viewed, rfl⟩ := map_eq_ok.1 hbody
  refine ⟨_, ⟨_, fills, rfl⟩, fun description shown => ?_⟩
  obtain ⟨view, found, rfl⟩ := List.mem_map.1 shown
  exact isOneLine_of_views viewed found

theorem description_of_termView {term : Term} {language : Language} {view : TermView}
    (viewed : term.view language = .ok view) : view.description = term.description := by
  simp only [Term.view, bind_eq_ok, pure_eq_ok] at viewed
  obtain ⟨_, -, _, -, rfl⟩ := viewed
  rfl

/-- The file about a contract shows the descriptions of its terms. -/
theorem shows_of_termSet {generator : Generator} {reference : Reference}
    {file : GeneratedFile} (member : file ∈ (generator.batch reference .termSet).files) :
    ∃ contract ∈ generator.dictionary.contracts.toList, file.subject = .contract contract ∧
      generator.ShowsDescriptions reference .termSet file
        (contract.terms.toList.map (·.description)) := by
  obtain ⟨listed, body, hbody, fills⟩ := fills_of_mem_files member
  obtain ⟨contract, declared, about⟩ := List.mem_map.1 listed
  rw [← about] at hbody
  obtain ⟨views, viewed, rfl⟩ := map_eq_ok.1 hbody
  refine ⟨contract, declared, about.symm, _, fills, ?_⟩
  exact map_eq_of_mapM_eq_ok viewed (·.description) (·.description)
    fun term _ view hview => description_of_termView hview

def Enumeration.descriptions (enumeration : Enumeration) : List String :=
  enumeration.description :: enumeration.members.map (·.description)

theorem shows_of_enumeration {generator : Generator} {reference : Reference}
    {file : GeneratedFile} (member : file ∈ (generator.batch reference .enumeration).files) :
    ∃ enumeration ∈ generator.dictionary.enumerations, file.subject = .enumeration enumeration ∧
      generator.ShowsDescriptions reference .enumeration file enumeration.descriptions := by
  obtain ⟨listed, body, hbody, fills⟩ := fills_of_mem_files member
  obtain ⟨enumeration, declared, about⟩ := List.mem_map.1 listed
  rw [← about] at hbody
  cases hbody
  refine ⟨enumeration, declared, about.symm, _, fills, ?_⟩
  exact congrArg (enumeration.description :: ·) List.map_map

/-- With built-in templates there is a file about every enumeration, with its descriptions. -/
theorem exists_file_of_enumeration {language : Language} {dictionary : Dictionary}
    (resolved : dictionary.IsResolved) {languages : List Language} (listed : language ∈ languages)
    (reference : Reference) {enumeration : Enumeration}
    (declared : enumeration ∈ dictionary.enumerations) :
    let generator : Generator := ⟨language, dictionary, .builtin languages⟩
    ∃ file ∈ (generator.batch reference .enumeration).files,
      file.subject = .enumeration enumeration ∧
      generator.ShowsDescriptions reference .enumeration file enumeration.descriptions := by
  intro generator
  have subject : Subject.enumeration enumeration ∈ generator.subjects reference .enumeration :=
    List.mem_map_of_mem declared
  obtain ⟨file, generated⟩ :=
    faultOf_eq_none.1 (faultOf_fileAbout_builtin resolved listed subject)
  have member : file ∈ (generator.batch reference .enumeration).files :=
    mem_files_batch.2 ⟨_, subject, generated⟩
  have about := subject_of_fileAbout generated
  obtain ⟨other, -, same, shows⟩ := shows_of_enumeration member
  cases about.symm.trans same
  exact ⟨file, member, about, shows⟩

/-- The text that describes a term: its description, or its name if it has none. -/
def TermRecord.text (record : TermRecord) : String :=
  record.description.getD record.name

theorem text_normalize (taxonomy : Keyed ContractTypeRecord) (key : String)
    (record : TermRecord) : (record.normalize taxonomy key).text = record.text := by
  unfold TermRecord.normalize
  split <;> split <;> rfl

theorem description_of_compileTerm {key : String} {record : TermRecord} {term : Term}
    (compiled : record.compile key = .ok term) : term.description = dropLineFeeds record.text := by
  simp only [TermRecord.compile, bind_eq_ok, pure_eq_ok] at compiled
  obtain ⟨type, -, values, -, rfl⟩ := compiled
  rfl

namespace Document

def ownEnumerations (document : Document) : List EnumerationRecord :=
  [document.eventType, document.referenceRole, document.referenceType]

def enumeratedTerms (document : Document) : List (String × TermRecord) :=
  document.terms.entries.filter fun entry => DeclaresEnumeration entry.2.type

/-- The allowed values in normal form that declare the members of generated enumerations. -/
def memberValues (document : Document) : List (List Json) :=
  (document.enumeratedTerms.map fun entry =>
      (entry.2.normalize document.taxonomy entry.1).allowedValues) ++
    document.ownEnumerations.map (·.allowedValues)

/-- The text is a description of an enumeration or of a member as it is compiled. -/
inductive Describes (document : Document) : String → Prop where
  | term {entry : String × TermRecord} (enumerated : entry ∈ document.enumeratedTerms) :
      Describes document (dropLineFeeds entry.2.text)
  | enumeration {record : EnumerationRecord} (own : record ∈ document.ownEnumerations) :
      Describes document record.description
  | member {values : List Json} (listed : values ∈ document.memberValues) {value : Json}
      (given : value ∈ values) {record : MemberRecord}
      (read : MemberRecord.ofJson value = .ok record) : Describes document record.description

/-- The texts that describe enumerations and members stay on one line in generated files. -/
structure DescribesOnOneLine (document : Document) : Prop where
  terms : ∀ entry ∈ document.enumeratedTerms, '\r' ∉ entry.2.text.toList
  enumerations : ∀ record ∈ document.ownEnumerations, Text.IsOneLine record.description
  members : ∀ values ∈ document.memberValues, ∀ value ∈ values, ∀ record,
    MemberRecord.ofJson value = .ok record → Text.IsOneLine record.description

theorem describesOnOneLine_iff {document : Document} :
    document.DescribesOnOneLine ↔ ∀ text, document.Describes text → Text.IsOneLine text := by
  constructor
  · rintro lines _ (enumerated | own | ⟨listed, given, read⟩)
    · exact isOneLine_dropLineFeeds_iff.2 (lines.terms _ enumerated)
    · exact lines.enumerations _ own
    · exact lines.members _ listed _ given _ read
  · intro lines
    exact {
      terms := fun _ enumerated => isOneLine_dropLineFeeds_iff.1 (lines _ (.term enumerated))
      enumerations := fun _ own => lines _ (.enumeration own)
      members := fun _ listed _ given _ read => lines _ (.member listed given read) }

end Document

def ReadsDescription (values : List Json) (text : String) : Prop :=
  ∃ value ∈ values, ∃ record, MemberRecord.ofJson value = .ok record ∧ record.description = text

theorem describes_iff {document : Document} {text : String} :
    document.Describes text ↔
      (∃ entry ∈ document.enumeratedTerms, text = dropLineFeeds entry.2.text ∨
        ReadsDescription (entry.2.normalize document.taxonomy entry.1).allowedValues text) ∨
      ∃ record ∈ document.ownEnumerations, text = record.description ∨
        ReadsDescription record.allowedValues text := by
  constructor
  · rintro (enumerated | own | ⟨listed, given, read⟩)
    · exact .inl ⟨_, enumerated, .inl rfl⟩
    · exact .inr ⟨_, own, .inl rfl⟩
    · rcases List.mem_append.1 listed with listed | listed
      · obtain ⟨entry, enumerated, rfl⟩ := List.mem_map.1 listed
        exact .inl ⟨entry, enumerated, .inr ⟨_, given, _, read, rfl⟩⟩
      · obtain ⟨record, own, rfl⟩ := List.mem_map.1 listed
        exact .inr ⟨record, own, .inr ⟨_, given, _, read, rfl⟩⟩
  · rintro (⟨entry, enumerated, rfl | ⟨value, given, _, read, rfl⟩⟩ |
      ⟨record, own, rfl | ⟨value, given, _, read, rfl⟩⟩)
    · exact .term enumerated
    · exact .member (List.mem_append_left _ (List.mem_map_of_mem enumerated)) given read
    · exact .enumeration own
    · exact .member (List.mem_append_right _ (List.mem_map_of_mem own)) given read

theorem mem_descriptions_iff {info : EntityInfo} {default : Option String} {values : List Json}
    {records : List MemberRecord} (read : values.mapM MemberRecord.ofJson = .ok records)
    {text : String} :
    text ∈ (Enumeration.ofMembers info (records.map (·.member default))).descriptions ↔
      text = info.description ∨ ReadsDescription values text := by
  have members : text ∈ (Enumeration.ofMembers info
      (records.map (·.member default))).members.map (·.description) ↔
      ∃ record ∈ records, record.description = text := by
    have sorted := (sortBy_perm (fun a b : Member => decide (a.option ≤ b.option))
      (records.map (·.member default))).map (·.description)
    refine sorted.mem_iff.trans ?_
    rw [List.map_map, List.mem_map]
    rfl
  rw [Enumeration.descriptions, List.mem_cons, members]
  refine or_congr Iff.rfl ⟨?_, ?_⟩
  · rintro ⟨record, found, described⟩
    obtain ⟨value, given, own⟩ := exists_of_mapM_eq_ok read found
    exact ⟨value, given, record, own, described⟩
  · rintro ⟨value, given, record, own, described⟩
    obtain ⟨other, found, same⟩ := exists_result_of_mapM_eq_ok read given
    cases own.symm.trans same
    exact ⟨record, found, described⟩

theorem mem_descriptions_of_compile {location : String} {record : EnumerationRecord}
    {enumeration : Enumeration} (compiled : record.compile location = .ok enumeration)
    {text : String} :
    text ∈ enumeration.descriptions ↔
      text = record.description ∨ ReadsDescription record.allowedValues text := by
  unfold EnumerationRecord.compile at compiled
  cases identifier : record.identifier with
  | none =>
      rw [identifier] at compiled
      cases compiled
  | some identifier =>
      simp only [identifier, bind_eq_ok, pure_eq_ok, membersOf_eq_ok] at compiled
      obtain ⟨_, ⟨records, read, rfl⟩, rfl⟩ := compiled
      exact mem_descriptions_iff read

theorem mem_descriptions_of_term {record : TermRecord} {taxonomy : Keyed ContractTypeRecord}
    {key : String} {term : Term} (compiled : (record.normalize taxonomy key).compile key = .ok term)
    (enumerated : term.scalarType = .enumeration) {text : String} :
    text ∈ term.enumeration.descriptions ↔ text = dropLineFeeds record.text ∨
      ReadsDescription (record.normalize taxonomy key).allowedValues text := by
  obtain ⟨records, read, allowed⟩ := (standsFor_of_compileTerm compiled).members enumerated
  have members : term.members =
      records.map (·.member (some (defaultAcronym term.default))) := by
    rw [Term.members, Term.isEnumerated, enumerated, allowed, List.filterMap_map,
      if_pos (decide_eq_true rfl)]
    exact congrFun List.filterMap_eq_map' records
  rw [Term.enumeration, members, mem_descriptions_iff read,
    show term.toEntityInfo.description = _ from description_of_compileTerm compiled,
    text_normalize]

theorem exists_describedTerm_iff {document : Document} {dictionary : Dictionary}
    {warnings : List Warning} (compiled : document.compile = .ok ⟨dictionary, warnings⟩)
    {text : String} :
    (∃ term ∈ dictionary.terms.toList, term.scalarType = .enumeration ∧
      text ∈ term.enumeration.descriptions) ↔
    ∃ entry ∈ document.enumeratedTerms, text = dropLineFeeds entry.2.text ∨
      ReadsDescription (entry.2.normalize document.taxonomy entry.1).allowedValues text := by
  have enumerated_iff {entry : String × TermRecord} {term : Term}
      (own : (entry.2.normalize document.taxonomy entry.1).compile entry.1 = .ok term) :
      DeclaresEnumeration entry.2.type ↔ term.scalarType = .enumeration := by
    rw [(standsFor_of_compileTerm own).type]
    exact declaresEnumeration_text_iff
  constructor
  · rintro ⟨term, declared, enumerated, described⟩
    obtain ⟨entry, member, own⟩ := (mem_terms_iff compiled).1 declared
    have declares := (enumerated_iff own).2 enumerated
    exact ⟨entry, List.mem_filter.2 ⟨member, decide_eq_true declares⟩,
      (mem_descriptions_of_term own enumerated).1 described⟩
  · rintro ⟨entry, listed, described⟩
    obtain ⟨member, declares⟩ := List.mem_filter.1 listed
    obtain ⟨results, -, all⟩ := exists_terms_of_compile compiled
    obtain ⟨term, -, own⟩ := exists_result_of_mapM_eq_ok all member
    have enumerated := (enumerated_iff own).1 (of_decide_eq_true declares)
    exact ⟨term, (mem_terms_iff compiled).2 ⟨entry, member, own⟩, enumerated,
      (mem_descriptions_of_term own enumerated).2 described⟩

/-- The enumerations of a compiled dictionary are described as the document writes it. -/
theorem exists_enumeration_iff {document : Document} {dictionary : Dictionary}
    {warnings : List Warning} (compiled : document.compile = .ok ⟨dictionary, warnings⟩)
    {text : String} :
    (∃ enumeration ∈ dictionary.enumerations, text ∈ enumeration.descriptions) ↔
      document.Describes text := by
  obtain ⟨normal, normalized, built, -⟩ := compile_eq_ok_iff.1 compiled
  have normalForm := eq_of_normalize normalized
  have eventType := built.eventType
  have referenceRole := built.referenceRole
  have referenceType := built.referenceType
  rw [normalForm] at eventType referenceRole referenceType
  have own : (∃ enumeration ∈ [dictionary.eventType, dictionary.referenceRole,
      dictionary.referenceType], text ∈ enumeration.descriptions) ↔
      ∃ record ∈ document.ownEnumerations, text = record.description ∨
        ReadsDescription record.allowedValues text := by
    simp only [Document.ownEnumerations, List.exists_mem_cons_iff, List.not_mem_nil, false_and,
      exists_false, or_false, mem_descriptions_of_compile eventType,
      mem_descriptions_of_compile referenceRole, mem_descriptions_of_compile referenceType]
  rw [describes_iff, ← own, ← exists_describedTerm_iff compiled]
  constructor
  · rintro ⟨enumeration, listed, described⟩
    rcases mem_enumerations.1 listed with ⟨term, declared, enumerated, rfl⟩ | listed
    · exact .inl ⟨term, declared, enumerated, described⟩
    · exact .inr ⟨enumeration, listed, described⟩
  · rintro (⟨term, declared, enumerated, described⟩ | ⟨enumeration, listed, described⟩)
    · exact ⟨_, mem_enumerations.2 (.inl ⟨term, declared, enumerated, rfl⟩), described⟩
    · exact ⟨enumeration, mem_enumerations.2 (.inr listed), described⟩

def Language.enumerationComment (language : Language) (view : EnumerationView) : String :=
  match language with
  | .python => "    \"\"\"" ++ view.name ++ ": " ++ view.description ++ "\n\n"
  | .rust => "/// " ++ view.name ++ ": " ++ view.description ++ "\n"
  | .typeScript => "/** " ++ view.name ++ ": " ++ view.description ++ " */\n"

def commentNodes (opening closing : String) : List Template.Node :=
  [.text opening, Template.Builtin.slot "name", .text ": ", Template.Builtin.slot "description",
    .text closing]

theorem renderNodes_commentNodes {surroundings : Template.Surroundings}
    (plain : surroundings.IsPlain) {name description : String}
    (named : surroundings.inner.value.field? "name" = some (.text name))
    (described : surroundings.inner.value.field? "description" = some (.text description))
    (opening closing : String) :
    Template.renderNodes surroundings (commentNodes opening closing) =
      .ok (opening ++ name ++ ": " ++ description ++ closing) := by
  have literal := Template.renderNode_text surroundings
  have filled := Template.renderNodes_eq_join (.cons (literal opening)
    (.cons (Template.renderNode_slot plain (by decide) named) (.cons (literal ": ")
      (.cons (Template.renderNode_slot plain (by decide) described)
        (.cons (literal closing) .nil)))))
  refine filled.trans ?_
  simp only [String.join_cons, String.join_nil, String.append_empty, String.append_assoc]

/-- In all languages the built-in template begins with a comment, but for its first lines. -/
theorem exists_comment_of_builtin (language : Language) :
    ∃ opening closing front back, Template.builtin language .enumeration =
        front ++ (commentNodes opening closing ++ back) ∧
      ∀ view : EnumerationView, language.enumerationComment view =
        opening ++ view.name ++ ": " ++ view.description ++ closing := by
  cases language with
  | python =>
      exact ⟨"    \"\"\"", "\n\n", (Template.builtin .python .enumeration).take 10,
        (Template.builtin .python .enumeration).drop 15, rfl, fun _ => rfl⟩
  | rust =>
      exact ⟨"/// ", "\n", (Template.builtin .rust .enumeration).take 7,
        (Template.builtin .rust .enumeration).drop 12, rfl, fun _ => rfl⟩
  | typeScript =>
      exact ⟨"/** ", " */\n", (Template.builtin .typeScript .enumeration).take 7,
        (Template.builtin .typeScript .enumeration).drop 12, rfl, fun _ => rfl⟩

theorem field?_enumerationContext (version date : String) {view : EnumerationView} {key : String}
    {value : Json} (member : (key, value) ∈ view.fields) :
    (Context.toJson ⟨version, date, .enumeration view⟩).field? key = some value := by
  have distinct : ((("version", Json.text version) :: ("version_date", .text date) ::
      view.fields).map Prod.fst).Nodup := by
    show ["version", "version_date", "identifier", "name", "description", "type_name", "module",
      "members"].Nodup
    decide
  exact Json.lookup_sortFields distinct
    (List.mem_cons_of_mem _ (List.mem_cons_of_mem _ member))

/-- The description of an enumeration stands as it is in a comment of its file. -/
theorem exists_comment_of_fills {generator : Generator} {languages : List Language}
    (templates : generator.templates = .builtin languages)
    (listed : generator.language ∈ languages) {reference : Reference} {file : GeneratedFile}
    {view : EnumerationView}
    (fills : generator.Fills reference .enumeration file (.enumeration view)) :
    ∃ before after,
      file.content = before ++ generator.language.enumerationComment view ++ after := by
  obtain ⟨⟨version, date, _⟩, -, rfl, rendered⟩ := fills
  rw [templates] at rendered
  have filled := (render_builtin_eq_ok listed).1 rendered
  obtain ⟨opening, closing, front, back, template, comment⟩ :=
    exists_comment_of_builtin generator.language
  rw [Template.render, template] at filled
  obtain ⟨text, own, before, after, whole⟩ :=
    Template.exists_append_of_renderNodes_append filled
  have name : ("name", Json.text view.name) ∈ view.fields := by
    simp [EnumerationView.fields]
  have description : ("description", Json.text view.description) ∈ view.fields := by
    simp [EnumerationView.fields]
  have shown := renderNodes_commentNodes (Template.isPlain_whole _)
    (field?_enumerationContext version date name)
    (field?_enumerationContext version date description) opening closing
  rw [← comment view] at shown
  cases own.symm.trans shown
  exact ⟨before, after, whole⟩

/-- The file about an enumeration has the comment of its name and its description. -/
theorem exists_comment_of_mem_files {generator : Generator} {languages : List Language}
    (templates : generator.templates = .builtin languages)
    (listed : generator.language ∈ languages) {reference : Reference} {file : GeneratedFile}
    (member : file ∈ (generator.batch reference .enumeration).files)
    {enumeration : Enumeration} (about : file.subject = .enumeration enumeration) :
    ∃ before after, file.content = before ++
      generator.language.enumerationComment (enumeration.view generator.language) ++ after := by
  obtain ⟨-, body, hbody, fills⟩ := fills_of_mem_files member
  rw [about] at hbody
  cases hbody
  exact exists_comment_of_fills templates listed fills

theorem Generator.ShowsDescriptions.unique {generator : Generator} {reference : Reference}
    {artifact : Artifact} {file : GeneratedFile} {descriptions others : List String}
    (shows : generator.ShowsDescriptions reference artifact file descriptions)
    (showsOthers : generator.ShowsDescriptions reference artifact file others) :
    descriptions = others := by
  obtain ⟨_, ⟨context, given, rfl, -⟩, rfl⟩ := shows
  obtain ⟨_, ⟨context', given', rfl, -⟩, rfl⟩ := showsOthers
  rw [given] at given'
  cases given'
  rfl

/--
In all files of a compiled document the descriptions of states are on one line.  The description
of a term is on one line exactly if the text that the document writes for it has no carriage
return, and those of enumerations and members all are exactly if the document writes them so.
-/
theorem descriptions_of_compile {document : Document} {dictionary : Dictionary}
    {warnings : List Warning} (compiled : document.compile = .ok ⟨dictionary, warnings⟩)
    {languages : List Language} {language : Language} (listed : language ∈ languages)
    (reference : Reference) :
    let generator : Generator := ⟨language, dictionary, .builtin languages⟩
    (∀ file ∈ (generator.batch reference .stateSpace).files, ∃ descriptions,
      generator.ShowsDescriptions reference .stateSpace file descriptions ∧
        ∀ description ∈ descriptions, Text.IsOneLine description) ∧
    (∀ file ∈ (generator.batch reference .termSet).files,
      ∃ contract ∈ dictionary.contracts.toList, file.subject = .contract contract ∧
      ∃ descriptions, generator.ShowsDescriptions reference .termSet file descriptions ∧
        List.Forall₂ (fun term description => ∃ record ∈ document.terms.values,
            record.identifier = term.identifier ∧ description = dropLineFeeds record.text ∧
            (Text.IsOneLine description ↔ '\r' ∉ record.text.toList))
          contract.terms.toList descriptions) ∧
    ((∀ file ∈ (generator.batch reference .enumeration).files, ∃ descriptions,
      generator.ShowsDescriptions reference .enumeration file descriptions ∧
        ∀ description ∈ descriptions, Text.IsOneLine description) ↔
      document.DescribesOnOneLine) := by
  intro generator
  obtain ⟨normal, -, built, -⟩ := compile_eq_ok_iff.1 compiled
  refine ⟨fun file member => shows_of_stateSpace member, fun file member => ?_, ?_, ?_⟩
  · obtain ⟨contract, declared, about, shows⟩ := shows_of_termSet member
    refine ⟨contract, declared, about, _, shows, ?_⟩
    rw [List.forall₂_map_right_iff]
    refine List.forall₂_same.2 fun term ofContract => ?_
    obtain ⟨entry, listed, own⟩ :=
      (mem_terms_iff compiled).1 (mem_terms_of_buildsTo built declared ofContract)
    have described : term.description = dropLineFeeds entry.2.text := by
      rw [description_of_compileTerm own, text_normalize]
    refine ⟨entry.2, Keyed.mem_values.2 ⟨entry, listed, rfl⟩,
      (standsFor_of_compileTerm own).identifier.symm, described, ?_⟩
    rw [described]
    exact isOneLine_dropLineFeeds_iff
  · intro lines
    refine Document.describesOnOneLine_iff.2 fun text described => ?_
    obtain ⟨enumeration, declared, shown⟩ := (exists_enumeration_iff compiled).2 described
    obtain ⟨file, member, -, shows⟩ :=
      exists_file_of_enumeration (isResolved_of_buildsTo built) listed reference declared
    obtain ⟨descriptions, showsAll, all⟩ := lines file member
    exact all text (shows.unique showsAll ▸ shown)
  · intro lines file member
    obtain ⟨enumeration, declared, -, shows⟩ := shows_of_enumeration member
    refine ⟨_, shows, fun text shown => ?_⟩
    exact Document.describesOnOneLine_iff.1 lines text
      ((exists_enumeration_iff compiled).1 ⟨enumeration, declared, shown⟩)

/-- Line feeds and carriage returns in descriptions of all kinds. -/
def brokenLines : Document :=
  let rate : TermRecord := { TermRecord.plain "rate" "Real" none with description := some "a\r\nb" }
  let event : MemberRecord := ⟨0, "ied", "IED", "IED", "one\r\ntwo"⟩
  { Document.plain [rate] [.plain "ANN" "ann"] [("ann", ["rate"])] with
    states := .ofList [("phase", ⟨"phase", "phase", "phase", "Real", [], "a\r\nb"⟩)]
    eventType := { EnumerationRecord.plain "eventType" with
      description := "First line\nsecond line"
      allowedValues := [event.toJson] } }

theorem descriptions_of_brokenLines :
    ∃ dictionary warnings, brokenLines.compile = .ok ⟨dictionary, warnings⟩ ∧
      let generator : Generator := ⟨.rust, dictionary, .builtin [.rust]⟩
      (∀ file ∈ (generator.batch ⟨[]⟩ .stateSpace).files, ∃ descriptions,
        generator.ShowsDescriptions ⟨[]⟩ .stateSpace file descriptions ∧
          ∀ description ∈ descriptions, Text.IsOneLine description) ∧
      ¬ ∀ file ∈ (generator.batch ⟨[]⟩ .enumeration).files, ∃ descriptions,
        generator.ShowsDescriptions ⟨[]⟩ .enumeration file descriptions ∧
          ∀ description ∈ descriptions, Text.IsOneLine description := by
  obtain ⟨⟨dictionary, warnings⟩, compiled⟩ :=
    faultOf_eq_none.1 (show faultOf brokenLines.compile = none by decide +kernel)
  obtain ⟨states, -, enumerations⟩ :=
    descriptions_of_compile compiled (List.mem_singleton.2 (rfl : Language.rust = .rust)) ⟨[]⟩
  refine ⟨dictionary, warnings, compiled, states, fun lines => ?_⟩
  have events := (enumerations.1 lines).enumerations _ List.mem_cons_self
  exact absurd events (by decide)

/-- The first description of an enumeration continues outside its comment. -/
theorem spills_of_brokenLines :
    ∃ dictionary warnings, brokenLines.compile = .ok ⟨dictionary, warnings⟩ ∧
      let generator : Generator := ⟨.rust, dictionary, .builtin [.rust]⟩
      (∃ file ∈ (generator.batch ⟨[]⟩ .enumeration).files,
        generator.ShowsDescriptions ⟨[]⟩ .enumeration file
          ["First line\nsecond line", "one\r\ntwo"] ∧
        ∃ before after,
          file.content = before ++ "/// eventType: First line\nsecond line\n" ++ after) ∧
      ∃ file ∈ (generator.batch ⟨[]⟩ .termSet).files,
        generator.ShowsDescriptions ⟨[]⟩ .termSet file ["a\rb"] := by
  have evaluated : brokenLines.compile.toOption.any (fun compilation => decide
      (compilation.dictionary.IsFaultless .rust ∧
        compilation.dictionary.eventType.name = "eventType" ∧
        compilation.dictionary.eventType.descriptions =
          ["First line\nsecond line", "one\r\ntwo"] ∧
        compilation.dictionary.contracts.toList.map (fun contract =>
          contract.terms.toList.map (·.description)) = [["a\rb"]])) = true := by
    decide +kernel
  obtain ⟨⟨dictionary, warnings⟩, compiled, held⟩ := exists_ok_of_any evaluated
  obtain ⟨faultless, name, events, terms⟩ := of_decide_eq_true held
  obtain ⟨normal, -, built, -⟩ := compile_eq_ok_iff.1 compiled
  have resolved := isResolved_of_buildsTo built
  have rust : Language.rust ∈ [Language.rust] := List.mem_singleton.2 rfl
  refine ⟨dictionary, warnings, compiled, ?_, ?_⟩
  · have declared : dictionary.eventType ∈ dictionary.enumerations :=
      mem_enumerations.2 (.inr List.mem_cons_self)
    obtain ⟨file, member, about, shows⟩ :=
      exists_file_of_enumeration resolved rust ⟨[]⟩ declared
    rw [← events]
    refine ⟨file, member, shows, ?_⟩
    obtain ⟨before, after, content⟩ := exists_comment_of_mem_files rfl rust member about
    refine ⟨before, after, content.trans ?_⟩
    have description := (List.cons_eq_cons.1 events).1
    rw [Language.enumerationComment, Enumeration.view, name, description]
    rfl
  · have succeeded := isSuccess_of_faultless resolved rust ⟨[]⟩ faultless
    have one : ["a\rb"] ∈ dictionary.contracts.toList.map fun contract =>
        contract.terms.toList.map (·.description) :=
      terms ▸ List.mem_singleton.2 rfl
    obtain ⟨contract, declared, own⟩ := List.mem_map.1 one
    obtain ⟨file, member, about⟩ := exists_file_of_complete
      (complete_of_isSuccess succeeded .termSet) (List.mem_map_of_mem declared)
    obtain ⟨other, -, same, shows⟩ := shows_of_termSet member
    cases about.symm.trans same
    exact ⟨file, member, own ▸ shows⟩

end ContractDictionary
