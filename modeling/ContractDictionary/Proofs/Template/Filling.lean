import ContractDictionary.Generation.Context
import ContractDictionary.Proofs.Template.Fitting
import ContractDictionary.Template.Collection

/-!
# Built-in templates filled

The data for the files of a kind have one shape for every dictionary, and the built-in template
of the kind fits this shape in each language.  So a file for which there are data has a text: a
field is filled to its text, a choice to one of its sides, and what stands once for each item of
a list to the texts for the items in their order.
-/

namespace ContractDictionary.Template

variable {surroundings : Surroundings} {field : String}

/-- Without parameters around it, a field leads to what stands under its name. -/
theorem value_field_of_isPlain (plain : surroundings.IsPlain) {value : Json}
    (found : surroundings.inner.value.field? field = some value) :
    (Reference.path (.block 0) [field]).value surroundings = .ok (some value) := by
  rw [value_path_of_isPlain plain]
  cases whole : surroundings.inner.value with
  | record fields =>
      rw [whole] at found
      have held : fields.lookup field = some value := found
      simp only [List.foldlM_cons, List.foldlM_nil, valueAt, held]
      rfl
  | _ =>
      rw [whole] at found
      cases found

theorem renderNode_text (surroundings : Surroundings) (value : String) :
    renderNode surroundings (.text value) = .ok value := by
  rw [renderNode]

theorem renderNode_slot (plain : surroundings.IsPlain) (notHelper : isHelper field = false)
    {text : String} (found : surroundings.inner.value.field? field = some (.text text)) :
    renderNode surroundings (Builtin.slot field) = .ok text := by
  rw [Builtin.slot, renderNode, notHelper, value_field_of_isPlain plain found]
  rfl

/-- Neighbouring parts are filled to the texts for them, one after the other. -/
theorem renderNodes_eq_join {nodes : List Node} {texts : List String}
    (filled : List.Forall₂ (fun node text => renderNode surroundings node = .ok text) nodes texts) :
    renderNodes surroundings nodes = .ok (String.join texts) := by
  induction filled with
  | nil => rw [renderNodes, String.join_nil]
  | cons own _ ih =>
      rw [renderNodes, own, ih, String.join_cons]
      rfl

theorem argumentValues_field (plain : surroundings.IsPlain) {value : Json}
    (found : surroundings.inner.value.field? field = some value) :
    argumentValues surroundings {} [.reference (.path (.block 0) [field])] =
      .ok { byPlace := [some value] } := by
  simp only [argumentValues, Argument.value, value_field_of_isPlain plain found]
  rfl

/-- One side of a choice is filled, as the value of the field counts as true or not. -/
theorem renderNode_choose (plain : surroundings.IsPlain) {value : Json}
    (found : surroundings.inner.value.field? field = some value) (body otherwise : List Node) :
    renderNode surroundings (Builtin.choose field body otherwise) =
      renderNodes surroundings (if isTrue value then body else otherwise) := by
  have decides : holds { byPlace := [some value] } (some value) = isTrue value := by
    cases value <;> rfl
  rw [Builtin.choose, renderNode, argumentValues_field plain found]
  simp only [bind, Except.bind, blockHelpers, List.mem_cons, String.reduceEq, if_false, if_true,
    true_or, decides, renderOtherwise]
  split
  · rfl
  · rfl

/-- A choice is filled to the texts of one side. -/
theorem renderNode_choose_eq_join (plain : surroundings.IsPlain) {value : Json}
    (found : surroundings.inner.value.field? field = some value) {body otherwise : List Node}
    {texts others : List String}
    (filled : List.Forall₂ (fun node text => renderNode surroundings node = .ok text) body texts)
    (instead :
      List.Forall₂ (fun node text => renderNode surroundings node = .ok text) otherwise others) :
    renderNode surroundings (Builtin.choose field body otherwise) =
      .ok (if isTrue value then String.join texts else String.join others) := by
  rw [renderNode_choose plain found]
  split
  · exact renderNodes_eq_join filled
  · exact renderNodes_eq_join instead

/-- The blocks of the items of a list, in the order of the items. -/
theorem forall₂_frames (items : List Json) :
    ∃ frames, items? [] (.list items) = some frames ∧
      List.Forall₂ (fun item frame => frame.value = item ∧ frame.parameters = []) items frames := by
  refine ⟨_, rfl, ?_⟩
  rw [List.forall₂_map_right_iff]
  have values : items.zipIdx.map Prod.fst = items := List.zipIdx_map_fst 0 items
  conv => lhs; rw [← values]
  rw [List.forall₂_map_left_iff]
  exact List.forall₂_same.2 fun _ _ => ⟨rfl, rfl⟩

/-- What stands once for each item of a list is filled to the texts for the items. -/
theorem renderNode_each_eq (plain : surroundings.IsPlain) {α : Type} {data : α → Json}
    {views : List α}
    (found : surroundings.inner.value.field? field = some (.list (views.map data)))
    {body : List Node} {text : α → String}
    (filled : ∀ inner : Surroundings, inner.IsPlain → ∀ view, inner.inner.value = data view →
      renderNodes inner body = .ok (text view)) :
    renderNode surroundings (Builtin.each field body) = .ok (String.join (views.map text)) := by
  obtain ⟨frames, hframes, about⟩ := forall₂_frames (views.map data)
  have texts : (frames.mapM fun frame => renderNodes (surroundings.enter frame) body) =
      .ok (views.map text) := by
    refine mapM_eq_ok.2 (List.forall₂_map_right_iff.2 ?_)
    refine (List.forall₂_map_left_iff.1 about).flip.imp fun frame view ⟨value, parameters⟩ => ?_
    exact filled _ (isPlain_enter plain parameters) view value
  have given : (some (Json.list (views.map data))).bind (items? []) = some frames := hframes
  rw [Builtin.each, renderNode, argumentValues_field plain found]
  simp only [bind, Except.bind, blockHelpers, List.mem_cons, String.reduceEq, if_false, if_true,
    or_true, true_or, false_or, given, Option.isSome_none, texts]
  rfl

end ContractDictionary.Template

/-! ## Shapes of contexts -/

namespace ContractDictionary

open Json (HasShape FieldFits)

namespace Shape

def member : Shape :=
  .ofKeys ["name", "acronym", "identifier", "option", "description"]

def enumerationFields : List (String × Shape) :=
  [("identifier", .any), ("name", .any), ("description", .any), ("type_name", .any),
    ("module", .any), ("members", .list member)]

def enumeration : Shape :=
  .record enumerationFields

def contract : Shape :=
  .ofKeys ["acronym", "identifier", "name", "description", "family", "classification", "status",
    "type_name", "module"]

def term : Shape :=
  .ofKeys ["identifier", "name", "acronym", "description", "scalar_type", "is_array", "field",
    "field_type", "initializer", "optional_flag"]

def state : Shape :=
  .ofKeys ["identifier", "name", "description", "field", "field_type"]

def function : Shape :=
  .ofKeys ["function_type", "event_type", "suffix", "module"]

end Shape

theorem MemberView.hasShape (view : MemberView) : HasShape view.toJson .member :=
  Json.hasShape_object_ofKeys rfl (by decide)

theorem EnumerationView.fieldFits (view : EnumerationView) :
    List.Forall₂ FieldFits view.fields Shape.enumerationFields :=
  .cons ⟨rfl, .any⟩ <| .cons ⟨rfl, .any⟩ <| .cons ⟨rfl, .any⟩ <| .cons ⟨rfl, .any⟩ <|
    .cons ⟨rfl, .any⟩ <|
      .cons ⟨rfl, Json.hasShape_list_map MemberView.hasShape view.members⟩ .nil

theorem EnumerationView.hasShape (view : EnumerationView) :
    HasShape (.object view.fields) .enumeration :=
  Json.hasShape_object (by decide) view.fieldFits

theorem ContractView.hasShape (view : ContractView) : HasShape view.toJson .contract :=
  Json.hasShape_object_ofKeys rfl (by decide)

theorem TermView.hasShape (view : TermView) : HasShape view.toJson .term :=
  Json.hasShape_object_ofKeys rfl (by decide)

theorem StateView.hasShape (view : StateView) : HasShape view.toJson .state :=
  Json.hasShape_object_ofKeys rfl (by decide)

theorem FunctionView.hasShape (view : FunctionView) : HasShape view.toJson .function :=
  Json.hasShape_object_ofKeys rfl (by decide)

def algorithmShapes : List (String × Shape) :=
  [("execute_step_module", .any), ("schedule_module", .any)]

def Artifact.bodyShapes : Artifact → List (String × Shape)
  | .enumeration => Shape.enumerationFields
  | .enumerationIndex | .functionIndex | .termSetIndex =>
      [("enums", .list .enumeration), ("contracts", .list .contract)] ++ algorithmShapes
  | .stateSpace => [("states", .list .state)]
  | .termSet => [("contract", .contract), ("terms", .list .term)]
  | .algorithmIndex | .scheduleStub | .executeStepStub =>
      [("contract", .contract), ("functions", .list .function)] ++ algorithmShapes
  | .payoffStub | .stateTransitionStub => [("contract", .contract), ("function", .function)]

/-- The shape of the data for the files of the kind. -/
def Artifact.shape (artifact : Artifact) : Shape :=
  .record ([("version", .any), ("version_date", .any)] ++ artifact.bodyShapes)

/-- What a file shows has the fields that the kind of the file demands. -/
theorem fieldFits_of_body {language : Language} {artifact : Artifact} {dictionary : Dictionary}
    {subject : Subject} {functions : List FunctionStub} {body : ContextBody}
    (built : ContextBody.of language artifact dictionary subject functions = .ok body) :
    List.Forall₂ FieldFits body.fields artifact.bodyShapes := by
  have index (enumerations : List EnumerationView) (contracts : List ContractView) :
      List.Forall₂ FieldFits (ContextBody.index language enumerations contracts).fields
        Artifact.enumerationIndex.bodyShapes :=
    .cons ⟨rfl, Json.hasShape_list_map EnumerationView.hasShape enumerations⟩ <|
      .cons ⟨rfl, Json.hasShape_list_map ContractView.hasShape contracts⟩ <|
        .cons ⟨rfl, .any⟩ <| .cons ⟨rfl, .any⟩ .nil
  have algorithms (contract : ContractView) (functions : List FunctionView) :
      List.Forall₂ FieldFits (ContextBody.algorithms language contract functions).fields
        Artifact.algorithmIndex.bodyShapes :=
    .cons ⟨rfl, contract.hasShape⟩ <|
      .cons ⟨rfl, Json.hasShape_list_map FunctionView.hasShape functions⟩ <|
        .cons ⟨rfl, .any⟩ <| .cons ⟨rfl, .any⟩ .nil
  have function (contract : ContractView) (view : FunctionView) :
      List.Forall₂ FieldFits (ContextBody.function contract view).fields
        Artifact.payoffStub.bodyShapes :=
    .cons ⟨rfl, contract.hasShape⟩ <| .cons ⟨rfl, view.hasShape⟩ .nil
  unfold ContextBody.of at built
  split at built
  · cases built
    exact EnumerationView.fieldFits _
  · cases built
    exact index _ _
  · cases built
    exact index _ _
  · cases built
    exact index _ _
  · obtain ⟨views, -, rfl⟩ := map_eq_ok.1 built
    exact .cons ⟨rfl, Json.hasShape_list_map StateView.hasShape views⟩ .nil
  · obtain ⟨views, -, rfl⟩ := map_eq_ok.1 built
    exact .cons ⟨rfl, ContractView.hasShape _⟩ <|
      .cons ⟨rfl, Json.hasShape_list_map TermView.hasShape views⟩ .nil
  · cases built
    exact algorithms _ _
  · cases built
    exact algorithms _ _
  · cases built
    exact algorithms _ _
  · cases built
    exact function _ _
  · cases built
    exact function _ _
  · cases built

/-- The data for a file are of the shape that the kind of the file demands. -/
theorem hasShape_of_context {language : Language} {artifact : Artifact} {dictionary : Dictionary}
    {subject : Subject} {functions : List FunctionStub} {context : Context}
    (built : Context.of language artifact dictionary subject functions = .ok context) :
    HasShape context.toJson artifact.shape := by
  obtain ⟨body, hbody, heq⟩ := bind_eq_ok.1 built
  cases pure_eq_ok.1 heq
  refine Json.hasShape_object ?_ (.cons ⟨rfl, .any⟩ <| .cons ⟨rfl, .any⟩ <|
    fieldFits_of_body hbody)
  cases artifact <;> decide

theorem builtin_fits (language : Language) (artifact : Artifact) :
    Template.nodesFit artifact.shape (Template.builtin language artifact) = true := by
  cases language <;> cases artifact <;> decide +kernel

/-- The texts of the built-in templates are those of the collection with them. -/
theorem render_builtin_eq_ok {languages : List Language} {language : Language}
    (listed : language ∈ languages) {artifact : Artifact} {data : Json} {text : String} :
    (TemplateCollection.builtin languages).render language artifact data = .ok text ↔
      (Template.builtin language artifact).render data = .ok text := by
  rw [TemplateCollection.render, TemplateCollection.builtin]
  dsimp only
  rw [if_pos listed]
  cases filled : (Template.builtin language artifact).render data <;>
    simp [filled, Except.toOption]

/-- The built-in template of a kind has a text for every file of the kind. -/
theorem exists_render_builtin {languages : List Language} {language : Language}
    (listed : language ∈ languages) {artifact : Artifact} {dictionary : Dictionary}
    {subject : Subject} {functions : List FunctionStub} {context : Context}
    (built : Context.of language artifact dictionary subject functions = .ok context) :
    ∃ text, (TemplateCollection.builtin languages).render language artifact context.toJson =
      .ok text := by
  obtain ⟨text, htext⟩ :=
    Template.exists_render (builtin_fits language artifact) (hasShape_of_context built)
  exact ⟨text, (render_builtin_eq_ok listed).2 htext⟩

end ContractDictionary
