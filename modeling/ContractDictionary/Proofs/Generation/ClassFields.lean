import ContractDictionary.Proofs.Generation.Descriptions
import ContractDictionary.Proofs.Generation.FieldTypes

/-!
# Fields of generated classes

The file of a contract gives each term a field with an initial value.  A class of TypeScript leaves
the value out if the term is marked as optional.  The mark depends on the default of a term alone,
but whether there is a value to start with also on the term being an array.  So an array without a
default is declared without the empty array that it starts with in the other languages.
-/

namespace ContractDictionary

def Language.newArray : Language → String
  | .python => "dataclasses.field(default_factory=list)"
  | .rust => "Vec::new()"
  | .typeScript => "[]"

namespace TermView

/-- What stands before the field of a term: a comment on the term, and the indentation. -/
def opening (view : TermView) : Language → String
  | .python => "    # " ++ view.name ++ ": " ++ view.description ++ "\n" ++ "    "
  | .rust => "            "
  | .typeScript => "    /** " ++ view.name ++ ": " ++ view.description ++ " */\n" ++ "    "

/-- The lines that give the field of a term an initial value. -/
def startingWith (view : TermView) (language : Language) (value : String) : String :=
  view.opening language ++ view.fieldName ++
    match language with
    | .python => ": " ++ view.field.type ++ " = " ++ value ++ "\n"
    | .rust => ": " ++ value ++ ",\n"
    | .typeScript => ": " ++ view.field.type ++ " = " ++ value ++ ";\n"

def leftOut (view : TermView) : String :=
  view.opening .typeScript ++ view.fieldName ++ ("?: " ++ view.field.type ++ ";\n")

def declaration (view : TermView) (language : Language) : String :=
  match language with
  | .python => view.startingWith .python
      (if view.isArray then Language.python.newArray else view.field.initializer)
  | .rust => view.startingWith .rust view.field.initializer
  | .typeScript =>
      if view.optionalMark = "" then view.startingWith .typeScript view.field.initializer
      else view.leftOut

/-- A field that may be left out is not declared with a value. -/
theorem leftOut_ne_startingWith (view : TermView) (value : String) :
    view.leftOut ≠ view.startingWith .typeScript value := by
  intro same
  simp only [leftOut, startingWith, String.append_assoc, String.append_right_inj] at same
  have first := congrArg (fun text => text.toList.head?) same
  simp [String.toList_append] at first

theorem join_python (view : TermView) :
    String.join ["    # ", view.name, ": ", view.description, "\n",
      if Template.isTrue (.bool view.isArray) then String.join ["    ", view.fieldName, ": ",
        view.field.type, " = dataclasses.field(default_factory=list)\n"]
      else String.join ["    ", view.fieldName, ": ", view.field.type, " = ",
        view.field.initializer, "\n"]] = view.declaration .python := by
  cases array : view.isArray with
  | true =>
      simp only [String.join_cons, String.join_nil, String.append_empty, Template.isTrue, if_true,
        declaration, array, startingWith, opening, String.append_assoc]
      rfl
  | false =>
      simp only [String.join_cons, String.join_nil, String.append_empty, Template.isTrue,
        Bool.false_eq_true, if_false, declaration, array, startingWith, opening,
        String.append_assoc]

theorem join_rust (view : TermView) :
    String.join ["            ", view.fieldName, ": ", view.field.initializer, ",\n"] =
      view.declaration .rust := by
  simp only [String.join_cons, String.join_nil, String.append_empty, declaration, startingWith,
    opening, String.append_assoc]

theorem join_typeScript (view : TermView) :
    String.join ["    /** ", view.name, ": ", view.description, " */\n",
      if Template.isTrue (.text view.optionalMark) then String.join ["    ", view.fieldName, "?: ",
        view.field.type, ";\n"]
      else String.join ["    ", view.fieldName, ": ", view.field.type, " = ",
        view.field.initializer, ";\n"]] = view.declaration .typeScript := by
  by_cases unmarked : view.optionalMark = ""
  · have isFalse : Template.isTrue (.text view.optionalMark) = false := by
      rw [unmarked]
      rfl
    simp only [String.join_cons, String.join_nil, String.append_empty, isFalse,
      Bool.false_eq_true, if_false, declaration, if_pos unmarked, startingWith, opening,
      String.append_assoc]
  · have isTrue : Template.isTrue (.text view.optionalMark) = true := decide_eq_true unmarked
    simp only [String.join_cons, String.join_nil, String.append_empty, isTrue, if_true,
      declaration, if_neg unmarked, leftOut, opening, String.append_assoc]

theorem field?_toJson (view : TermView) {key : String} {value : Json}
    (member : (key, value) ∈ [
      ("name", Json.text view.name), ("description", .text view.description),
      ("is_array", .bool view.isArray), ("field", .text view.fieldName),
      ("field_type", .text view.field.type), ("initializer", .text view.field.initializer),
      ("optional_flag", .text view.optionalMark)]) :
    view.toJson.field? key = some value := by
  refine Json.lookup_sortFields ?_ ?_
  · show ["identifier", "name", "acronym", "description", "scalar_type", "is_array", "field",
      "field_type", "initializer", "optional_flag"].Nodup
    decide
  · simp only [List.mem_cons, List.not_mem_nil, or_false] at member ⊢
    tauto

end TermView

open Template.Builtin in
/-- The parts of a file that stand once for each term and give it an initial value. -/
def Language.declarationNodes : Language → List Template.Node
  | .python => [
      "    # ", slot "name", ": ", slot "description", "\n",
      choose "is_array" [
        "    ", slot "field", ": ", slot "field_type",
        " = dataclasses.field(default_factory=list)\n"] [
        "    ", slot "field", ": ", slot "field_type", " = ", slot "initializer", "\n"]]
  | .rust => ["            ", slot "field", ": ", slot "initializer", ",\n"]
  | .typeScript => [
      "    /** ", slot "name", ": ", slot "description", " */\n",
      choose "optional_flag" [
        "    ", slot "field", "?: ", slot "field_type", ";\n"] [
        "    ", slot "field", ": ", slot "field_type", " = ", slot "initializer", ";\n"]]

theorem exists_declarations_of_builtin (language : Language) :
    ∃ front back, Template.builtin language .termSet =
      front ++ ([Template.Builtin.each "terms" language.declarationNodes] ++ back) := by
  cases language with
  | python =>
      exact ⟨(Template.builtin .python .termSet).take 24,
        (Template.builtin .python .termSet).drop 25, rfl⟩
  | rust =>
      exact ⟨(Template.builtin .rust .termSet).take 25,
        (Template.builtin .rust .termSet).drop 26, rfl⟩
  | typeScript =>
      exact ⟨(Template.builtin .typeScript .termSet).take 17,
        (Template.builtin .typeScript .termSet).drop 18, rfl⟩

open Template in
/-- The parts about a term are filled to its declaration. -/
theorem renderNodes_declarationNodes {surroundings : Surroundings} (plain : surroundings.IsPlain)
    {view : TermView} (about : surroundings.inner.value = view.toJson) (language : Language) :
    renderNodes surroundings language.declarationNodes = .ok (view.declaration language) := by
  have literal := renderNode_text surroundings
  have name : renderNode surroundings (Builtin.slot "name") = .ok view.name :=
    renderNode_slot plain (by decide) (about ▸ view.field?_toJson (by simp))
  have description : renderNode surroundings (Builtin.slot "description") = .ok view.description :=
    renderNode_slot plain (by decide) (about ▸ view.field?_toJson (by simp))
  have field : renderNode surroundings (Builtin.slot "field") = .ok view.fieldName :=
    renderNode_slot plain (by decide) (about ▸ view.field?_toJson (by simp))
  have type : renderNode surroundings (Builtin.slot "field_type") = .ok view.field.type :=
    renderNode_slot plain (by decide) (about ▸ view.field?_toJson (by simp))
  have initializer :
      renderNode surroundings (Builtin.slot "initializer") = .ok view.field.initializer :=
    renderNode_slot plain (by decide) (about ▸ view.field?_toJson (by simp))
  cases language with
  | python =>
      have isArray : surroundings.inner.value.field? "is_array" = some (.bool view.isArray) :=
        about ▸ view.field?_toJson (by simp)
      have chosen := renderNode_choose_eq_join plain isArray
        (.cons (literal "    ") (.cons field (.cons (literal ": ") (.cons type
          (.cons (literal " = dataclasses.field(default_factory=list)\n") .nil)))))
        (.cons (literal "    ") (.cons field (.cons (literal ": ") (.cons type
          (.cons (literal " = ") (.cons initializer (.cons (literal "\n") .nil)))))))
      exact (renderNodes_eq_join (.cons (literal "    # ") (.cons name (.cons (literal ": ")
        (.cons description (.cons (literal "\n") (.cons chosen .nil))))))).trans
        (congrArg Except.ok view.join_python)
  | rust =>
      exact (renderNodes_eq_join (.cons (literal "            ") (.cons field
        (.cons (literal ": ") (.cons initializer (.cons (literal ",\n") .nil)))))).trans
        (congrArg Except.ok view.join_rust)
  | typeScript =>
      have mark : surroundings.inner.value.field? "optional_flag" =
          some (.text view.optionalMark) :=
        about ▸ view.field?_toJson (by simp)
      have chosen := renderNode_choose_eq_join plain mark
        (.cons (literal "    ") (.cons field (.cons (literal "?: ") (.cons type
          (.cons (literal ";\n") .nil)))))
        (.cons (literal "    ") (.cons field (.cons (literal ": ") (.cons type
          (.cons (literal " = ") (.cons initializer (.cons (literal ";\n") .nil)))))))
      exact (renderNodes_eq_join (.cons (literal "    /** ") (.cons name (.cons (literal ": ")
        (.cons description (.cons (literal " */\n") (.cons chosen .nil))))))).trans
        (congrArg Except.ok view.join_typeScript)

/-- A file of terms has their declarations, in the order of the terms. -/
theorem exists_declarations_of_fills {generator : Generator} {languages : List Language}
    (templates : generator.templates = .builtin languages)
    (listed : generator.language ∈ languages) {reference : Reference} {file : GeneratedFile}
    {contract : ContractView} {views : List TermView}
    (fills : generator.Fills reference .termSet file (.terms contract views)) :
    ∃ before after, file.content =
      before ++ String.join (views.map (·.declaration generator.language)) ++ after := by
  obtain ⟨⟨version, date, _⟩, -, rfl, rendered⟩ := fills
  rw [templates] at rendered
  have filled := (render_builtin_eq_ok listed).1 rendered
  obtain ⟨front, back, template⟩ := exists_declarations_of_builtin generator.language
  rw [Template.render, template] at filled
  obtain ⟨text, own, before, after, whole⟩ :=
    Template.exists_append_of_renderNodes_append filled
  have terms : (Context.toJson ⟨version, date, .terms contract views⟩).field? "terms" =
      some (.list (views.map TermView.toJson)) := by
    refine Json.lookup_sortFields ?_ (by simp [ContextBody.fields])
    show ["version", "version_date", "contract", "terms"].Nodup
    decide
  have each := Template.renderNode_each_eq (Template.isPlain_whole _) terms
    fun inner plain view about => renderNodes_declarationNodes plain about generator.language
  cases own.symm.trans (Template.renderNodes_eq_join (.cons each .nil))
  rw [String.join_cons, String.join_nil, String.append_empty] at whole
  exact ⟨before, after, whole⟩

/-- How the view of a term in a language declares its field. -/
structure TermView.Declares (view : TermView) (term : Term) (language : Language) : Prop where
  viewed : term.view language = .ok view
  /-- A term is marked as optional exactly if it has no default. -/
  marked_iff : view.optionalMark = "?" ↔ term.hasDefault = false
  /-- The mark says that there is nothing to start with, but for arrays without a default. -/
  literal : ∃ literal, term.literal language = .ok literal ∧
    (term.isArray = true → literal.text = language.emptyArray) ∧
    (literal.isAbsent language = true ↔ term.isArray = false ∧ term.hasDefault = false) ∧
    ((view.optionalMark = "?" ↔ literal.isAbsent language = true) ↔
      ¬(term.isArray = true ∧ term.hasDefault = false))
  /-- A class leaves a field out exactly if its term is marked. -/
  leftOut_iff : view.declaration .typeScript = view.leftOut ↔ view.optionalMark = "?"
  /-- An array starts empty, but in a class only if it has a default. -/
  empty_iff : term.isArray = true →
    (view.declaration language = view.startingWith language language.newArray ↔
      (language = .typeScript → term.hasDefault = true))

theorem optionalMark_eq_iff (term : Term) : term.optionalMark = "?" ↔ term.hasDefault = false := by
  unfold Term.optionalMark
  cases term.hasDefault <;> decide

theorem optionalMark_eq_empty_iff (term : Term) :
    term.optionalMark = "" ↔ term.hasDefault = true := by
  unfold Term.optionalMark
  cases term.hasDefault <;> decide

theorem TermView.declares_of_view {term : Term} {language : Language} {view : TermView}
    (viewed : term.view language = .ok view) : view.Declares term language := by
  have parts := viewed
  simp only [Term.view, bind_eq_ok, pure_eq_ok] at parts
  obtain ⟨type, -, literal, given, rfl⟩ := parts
  have absent := isAbsent_literal_iff given
  have marked := optionalMark_eq_iff term
  have unmarked := optionalMark_eq_empty_iff term
  refine {
    viewed := viewed
    marked_iff := marked
    literal := ⟨literal, given, text_literal_of_isArray given, absent, ?_⟩
    leftOut_iff := ?_
    empty_iff := fun array => ?_ }
  · show (term.optionalMark = "?" ↔ _) ↔ _
    rw [marked, absent]
    cases term.isArray <;> cases term.hasDefault <;> decide
  · show _ ↔ term.optionalMark = "?"
    rw [marked, TermView.declaration]
    split
    · next default =>
        rw [unmarked.1 default]
        exact iff_of_false (leftOut_ne_startingWith _ _).symm (by decide)
    · next default =>
        exact iff_of_true rfl (Bool.eq_false_iff.2 fun given => default (unmarked.2 given))
  · have empty := text_literal_of_isArray given array
    have field : literal.field language term.isArray type = ⟨type, literal.text⟩ := by
      rw [array, field_emptyArray empty]
    cases language with
    | python =>
        refine iff_of_true ?_ fun same => Language.noConfusion same
        simp only [declaration, array, if_true]
    | rust =>
        refine iff_of_true ?_ fun same => Language.noConfusion same
        simp only [declaration, field, empty]
        rfl
    | typeScript =>
        simp only [declaration, field, empty, unmarked, forall_const]
        split
        · next default => exact iff_of_true rfl default
        · next default => exact iff_of_false (leftOut_ne_startingWith _ _) default

/-- The file about a contract has the declarations of the views of its terms. -/
theorem exists_views_of_mem_files {language : Language} {dictionary : Dictionary}
    {languages : List Language} (listed : language ∈ languages) {reference : Reference}
    {file : GeneratedFile}
    (member : file ∈
      (Generator.batch ⟨language, dictionary, .builtin languages⟩ reference .termSet).files) :
    ∃ contract ∈ dictionary.contracts.toList, file.subject = .contract contract ∧
      ∃ views, contract.terms.views language = .ok views ∧
        ∃ before after, file.content =
          before ++ String.join (views.map (·.declaration language)) ++ after := by
  obtain ⟨ofKind, body, hbody, fills⟩ := fills_of_mem_files member
  obtain ⟨contract, declared, about⟩ := List.mem_map.1 ofKind
  rw [← about] at hbody
  obtain ⟨views, viewed, rfl⟩ := map_eq_ok.1 hbody
  exact ⟨contract, declared, about.symm, views, viewed,
    exists_declarations_of_fills rfl listed fills⟩

/--
The file about a contract declares the fields of its terms in their order.  Arrays start empty, but
a class of TypeScript leaves out the value of every term without a default, be it an array or not.
-/
theorem declares_of_termSet {language : Language} {languages : List Language}
    (listed : language ∈ languages) (dictionary : Dictionary) (reference : Reference) :
    let generator : Generator := ⟨language, dictionary, .builtin languages⟩
    ∀ file ∈ (generator.batch reference .termSet).files,
      ∃ contract ∈ dictionary.contracts.toList, file.subject = .contract contract ∧
      ∃ views : List TermView,
        List.Forall₂ (fun term view => view.Declares term language) contract.terms.toList views ∧
        ∃ before after, file.content =
          before ++ String.join (views.map (·.declaration language)) ++ after := by
  intro generator file member
  obtain ⟨contract, declared, about, views, viewed, content⟩ :=
    exists_views_of_mem_files listed member
  refine ⟨contract, declared, about, views, ?_, content⟩
  exact (mapM_eq_ok.1 viewed).imp fun _ _ => TermView.declares_of_view

def twoArrays : Document :=
  .plain [.plain "legs" "ContractReference[]" none, .plain "notes" "Varchar[]" (some "x")]
    [.plain "ANN" "ann"] [("ann", ["legs", "notes"])]

theorem exists_file_of_twoArrays :
    ∃ dictionary warnings contract, twoArrays.compile = .ok ⟨dictionary, warnings⟩ ∧
      dictionary.contracts.toList = [contract] ∧
      contract.terms.toList.map (fun term => (term.isArray, term.hasDefault)) =
        [(true, false), (true, true)] ∧
      (contract.terms.views .typeScript).toOption.map (·.map (·.declaration .typeScript)) =
        some ["    /** legs: legs */\n    legs?: Array<core.ContractReference>;\n",
          "    /** notes: notes */\n    notes: Array<string> = [];\n"] ∧
      ∃ file ∈ (Generator.batch ⟨.typeScript, dictionary, .builtin [.typeScript]⟩ ⟨[]⟩
        .termSet).files, file.subject = .contract contract := by
  have evaluated : twoArrays.compile.toOption.any (fun compilation => decide
      (compilation.dictionary.IsFaultless .typeScript ∧
        compilation.dictionary.contracts.toList.map (fun contract =>
          (contract.terms.toList.map fun term => (term.isArray, term.hasDefault),
            (contract.terms.views .typeScript).toOption.map
              (·.map (·.declaration .typeScript)))) =
          [([(true, false), (true, true)],
            some ["    /** legs: legs */\n    legs?: Array<core.ContractReference>;\n",
              "    /** notes: notes */\n    notes: Array<string> = [];\n"])])) = true := by
    decide +kernel
  obtain ⟨⟨dictionary, warnings⟩, compiled, held⟩ := exists_ok_of_any evaluated
  obtain ⟨faultless, shown⟩ := of_decide_eq_true held
  obtain ⟨contract, one, own⟩ := List.map_eq_singleton_iff.1 shown
  obtain ⟨terms, declarations⟩ := Prod.mk.inj own
  obtain ⟨normal, -, built, -⟩ := compile_eq_ok_iff.1 compiled
  have succeeded := isSuccess_of_faultless (isResolved_of_buildsTo built)
    (List.mem_singleton.2 (rfl : Language.typeScript = .typeScript)) ⟨[]⟩ faultless
  have declared : contract ∈ dictionary.contracts.toList := one ▸ List.mem_singleton.2 rfl
  exact ⟨dictionary, warnings, contract, compiled, one, terms, declarations,
    exists_file_of_complete (complete_of_isSuccess succeeded .termSet)
      (List.mem_map_of_mem declared)⟩

theorem declares_of_twoArrays :
    ∃ dictionary warnings, twoArrays.compile = .ok ⟨dictionary, warnings⟩ ∧
      ∃ file ∈ (Generator.batch ⟨.typeScript, dictionary, .builtin [.typeScript]⟩ ⟨[]⟩
        .termSet).files,
      ∃ contract ∈ dictionary.contracts.toList, file.subject = .contract contract ∧
        contract.terms.toList.map (fun term => (term.isArray, term.hasDefault)) =
          [(true, false), (true, true)] ∧
        ∃ views : List TermView, List.Forall₂ (fun term view => view.Declares term .typeScript)
          contract.terms.toList views := by
  obtain ⟨dictionary, warnings, contract, compiled, one, terms, -, file, member, -⟩ :=
    exists_file_of_twoArrays
  obtain ⟨other, declared, about, views, declare, -⟩ := declares_of_termSet
    (List.mem_singleton.2 (rfl : Language.typeScript = .typeScript)) dictionary ⟨[]⟩ file member
  rw [one, List.mem_singleton] at declared
  cases declared
  exact ⟨dictionary, warnings, compiled, file, member, contract, one ▸ List.mem_singleton.2 rfl,
    about, terms, views, declare⟩

/-- The array without a default is declared without the value that its literal is. -/
theorem leftOut_of_twoArrays :
    ∃ dictionary warnings, twoArrays.compile = .ok ⟨dictionary, warnings⟩ ∧
      ∃ file ∈ (Generator.batch ⟨.typeScript, dictionary, .builtin [.typeScript]⟩ ⟨[]⟩
        .termSet).files,
      (∃ contract ∈ dictionary.contracts.toList, file.subject = .contract contract ∧
        ∃ term ∈ contract.terms.toList, term.isArray = true ∧
          ∃ view literal, term.view .typeScript = .ok view ∧
            term.literal .typeScript = .ok literal ∧ view.optionalMark = "?" ∧
            literal.isAbsent .typeScript = false ∧ literal.text = "[]") ∧
      ∃ before after, file.content = before ++
        "    /** legs: legs */\n    legs?: Array<core.ContractReference>;\n" ++ after := by
  obtain ⟨dictionary, warnings, contract, compiled, one, terms, declarations, file, member,
    about⟩ := exists_file_of_twoArrays
  obtain ⟨other, declared, -, views, viewed, before, after, content⟩ :=
    exists_views_of_mem_files (List.mem_singleton.2 (rfl : Language.typeScript = .typeScript))
      member
  rw [one, List.mem_singleton] at declared
  cases declared
  refine ⟨dictionary, warnings, compiled, file, member,
    ⟨contract, one ▸ List.mem_singleton.2 rfl, about, ?_⟩, ?_⟩
  · have first : (true, false) ∈
        contract.terms.toList.map fun term => (term.isArray, term.hasDefault) :=
      terms ▸ List.mem_cons_self
    obtain ⟨legs, ofContract, own⟩ := List.mem_map.1 first
    obtain ⟨array, default⟩ := Prod.mk.inj own
    obtain ⟨view, -, hview⟩ := exists_result_of_mapM_eq_ok viewed ofContract
    have declares := TermView.declares_of_view hview
    obtain ⟨literal, given, empty, absent, -⟩ := declares.literal
    refine ⟨legs, ofContract, array, view, literal, hview, given, declares.marked_iff.2 default,
      ?_, empty array⟩
    exact Bool.eq_false_iff.2 fun none => Bool.noConfusion (array.symm.trans (absent.1 none).1)
  · rw [viewed] at declarations
    have lines : views.map (·.declaration .typeScript) = [_, _] := Option.some.inj declarations
    rw [lines, String.join_cons, String.append_assoc, String.append_assoc,
      ← String.append_assoc] at content
    exact ⟨before, _, content⟩

end ContractDictionary
