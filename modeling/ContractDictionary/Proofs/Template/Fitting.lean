import ContractDictionary.Proofs.Document.Entries
import ContractDictionary.Proofs.Outcome
import ContractDictionary.Template.Render

/-!
# Templates that fit a shape

A template fits a shape if every part of it names a field that data of the shape have, the parts
of a block being checked against the shape of what the block is about.  Only the parts that the
built-in templates are made of can fit.  Filling a template that fits does not fail.
-/

namespace ContractDictionary.Template

open Json (HasShape)

def fieldArgument? : List Argument → Option String
  | [.reference (.path (.block 0) [field])] => some field
  | _ => none

def itemShape? : Option Shape → Option Shape
  | some (.list item) => some item
  | _ => none

mutual

/-- The part can be filled with any value of the shape. -/
def Node.fits (shape : Shape) : Node → Bool
  | .text _ => true
  | .name name => !isHelper name && (shape.field? name).isSome
  | .value (.path (.block 0) fields) => (shape.fieldsAt? fields).isSome
  | .block name arguments [] body otherwise =>
      match fieldArgument? arguments with
      | none => false
      | some field =>
          if name = "each" then
            match itemShape? (shape.field? field) with
            | none => false
            | some item => nodesFit item body && otherwiseFits shape otherwise
          else if name = "if" then
            (shape.field? field).isSome && nodesFit shape body && otherwiseFits shape otherwise
          else false
  | _ => false

/-- All of the parts can be filled with any value of the shape. -/
def nodesFit (shape : Shape) : List Node → Bool
  | [] => true
  | node :: rest => node.fits shape && nodesFit shape rest

/-- The second part of a block, if there is one, can be filled with any value of the shape. -/
def otherwiseFits (shape : Shape) : Option (List Node) → Bool
  | none => true
  | some nodes => nodesFit shape nodes

end

def Surroundings.IsPlain (surroundings : Surroundings) : Prop :=
  ∀ frame ∈ surroundings.frames, frame.parameters = []

theorem isPlain_whole (data : Json) :
    Surroundings.IsPlain { root := data, inner := { value := data } } := by
  intro frame member
  rcases List.mem_singleton.1 member with rfl
  rfl

theorem parameter?_of_isPlain {surroundings : Surroundings} (plain : surroundings.IsPlain)
    (name : String) : surroundings.parameter? name = none := by
  unfold Surroundings.parameter?
  rw [List.findSome?_eq_none_iff]
  intro frame member
  rw [plain frame member]
  rfl

theorem isPlain_enter {surroundings : Surroundings} (plain : surroundings.IsPlain) {frame : Frame}
    (none : frame.parameters = []) : (surroundings.enter frame).IsPlain := by
  intro other member
  rcases List.mem_cons.1 member with rfl | member
  · exact none
  · exact plain other member

theorem valueAt_of_hasShape {value : Json} {shape inner : Shape} {field : String}
    (shaped : HasShape value shape) (promised : shape.field? field = some inner) :
    ∃ found, valueAt (some value) field = .ok (some found) ∧ HasShape found inner := by
  obtain ⟨fields, found, rfl, hfound, hinner⟩ := shaped.field promised
  exact ⟨found, by rw [valueAt, hfound], hinner⟩

/-- A path of fields that the shape promises leads to a value of the promised shape. -/
theorem foldlM_valueAt_of_hasShape {fields : List String} {value : Json} {shape inner : Shape}
    (shaped : HasShape value shape) (promised : shape.fieldsAt? fields = some inner) :
    ∃ found, fields.foldlM valueAt (some value) = .ok (some found) ∧ HasShape found inner := by
  induction fields generalizing value shape with
  | nil =>
      cases promised
      exact ⟨value, rfl, shaped⟩
  | cons field rest ih =>
      obtain ⟨next, hfield, hrest⟩ := Option.bind_eq_some_iff.1 promised
      obtain ⟨found, hfound, hnext⟩ := valueAt_of_hasShape shaped hfield
      obtain ⟨last, hlast, hinner⟩ := ih hnext hrest
      refine ⟨last, ?_, hinner⟩
      rw [List.foldlM_cons, hfound]
      exact hlast

/-- Without parameters around it, a path starts at the current value. -/
theorem value_path_of_isPlain {surroundings : Surroundings} (plain : surroundings.IsPlain)
    (fields : List String) :
    (Reference.path (.block 0) fields).value surroundings =
      fields.foldlM valueAt (some surroundings.inner.value) := by
  cases fields with
  | nil => rfl
  | cons field rest =>
      rw [Reference.value, parameter?_of_isPlain plain]
      rfl

theorem exists_value_of_fits {surroundings : Surroundings} {shape inner : Shape}
    {fields : List String} (plain : surroundings.IsPlain)
    (shaped : HasShape surroundings.inner.value shape)
    (promised : shape.fieldsAt? fields = some inner) :
    ∃ found, (Reference.path (.block 0) fields).value surroundings = .ok (some found) ∧
      HasShape found inner := by
  rw [value_path_of_isPlain plain]
  exact foldlM_valueAt_of_hasShape shaped promised

theorem fieldsAt?_singleton (shape : Shape) (field : String) :
    shape.fieldsAt? [field] = shape.field? field := by
  rw [Shape.fieldsAt?]
  cases shape.field? field <;> rfl

theorem exists_argumentValues {surroundings : Surroundings} {shape inner : Shape}
    {arguments : List Argument} {field : String} (plain : surroundings.IsPlain)
    (shaped : HasShape surroundings.inner.value shape)
    (named : fieldArgument? arguments = some field)
    (promised : shape.field? field = some inner) :
    ∃ found, argumentValues surroundings {} arguments = .ok { byPlace := [some found] } ∧
      HasShape found inner := by
  unfold fieldArgument? at named
  split at named
  · cases named
    rw [← fieldsAt?_singleton] at promised
    obtain ⟨found, hfound, hinner⟩ := exists_value_of_fits plain shaped promised
    refine ⟨found, ?_, hinner⟩
    simp only [argumentValues, Argument.value, hfound]
    rfl
  · cases named

theorem exists_items_argumentValues {surroundings : Surroundings} {shape item : Shape}
    {arguments : List Argument} {field : String} (plain : surroundings.IsPlain)
    (shaped : HasShape surroundings.inner.value shape)
    (named : fieldArgument? arguments = some field)
    (promised : itemShape? (shape.field? field) = some item) :
    ∃ items, argumentValues surroundings {} arguments = .ok { byPlace := [some (.list items)] } ∧
      ∀ value ∈ items, HasShape value item := by
  unfold itemShape? at promised
  split at promised
  · next listed =>
      cases promised
      obtain ⟨found, values, hfound⟩ := exists_argumentValues plain shaped named listed
      cases hfound with
      | list each => exact ⟨_, values, each⟩
  · cases promised

/-- The items of a list as the blocks that the parts of an `each` are about. -/
theorem items?_list (items : List Json) :
    ∃ frames, items? [] (.list items) = some frames ∧
      ∀ frame ∈ frames, frame.parameters = [] ∧ frame.value ∈ items := by
  refine ⟨_, rfl, fun frame member => ?_⟩
  obtain ⟨⟨value, position⟩, hposition, rfl⟩ := List.mem_map.1 member
  exact ⟨rfl, List.fst_mem_of_mem_zipIdx hposition⟩

/-- The body of an `each` about a list is filled once for each of its items. -/
theorem renderNode_each {surroundings : Surroundings} {arguments : List Argument}
    {body : List Node} {otherwise : Option (List Node)} {items : List Json}
    (plain : surroundings.IsPlain)
    (values : argumentValues surroundings {} arguments = .ok { byPlace := [some (.list items)] })
    (filled : ∀ inner : Surroundings, inner.IsPlain → inner.inner.value ∈ items →
      ∃ text, renderNodes inner body = .ok text)
    (filledOtherwise : ∃ text, renderOtherwise surroundings otherwise = .ok text) :
    ∃ text, renderNode surroundings (.block "each" arguments [] body otherwise) = .ok text := by
  obtain ⟨frames, hframes, about⟩ := items?_list items
  have each : ∃ texts, (frames.mapM fun frame =>
      renderNodes (surroundings.enter frame) body) = .ok texts :=
    exists_mapM_eq_ok fun frame member =>
      filled _ (isPlain_enter plain (about frame member).1) (about frame member).2
  obtain ⟨texts, htexts⟩ := each
  have found : (some (Json.list items)).bind (items? []) = some frames := hframes
  rw [renderNode, values]
  simp only [bind, Except.bind, blockHelpers, List.mem_cons, String.reduceEq, if_false, if_true,
    or_true, true_or, false_or, found]
  split
  · exact filledOtherwise
  · next listed _ =>
      cases listed
      rw [htexts]
      exact ⟨_, rfl⟩
  · next h _ => cases h
  · next h _ => cases h

theorem renderNode_if {surroundings : Surroundings} {arguments : List Argument}
    {body : List Node} {otherwise : Option (List Node)} {value : Json}
    (values : argumentValues surroundings {} arguments = .ok { byPlace := [some value] })
    (filled : ∃ text, renderNodes surroundings body = .ok text)
    (filledOtherwise : ∃ text, renderOtherwise surroundings otherwise = .ok text) :
    ∃ text, renderNode surroundings (.block "if" arguments [] body otherwise) = .ok text := by
  rw [renderNode, values]
  simp only [bind, Except.bind, blockHelpers, List.mem_cons, String.reduceEq, if_false, if_true,
    true_or]
  split
  · exact filled
  · exact filledOtherwise

theorem renderNode_name {surroundings : Surroundings} {shape : Shape} {name : String}
    (plain : surroundings.IsPlain) (shaped : HasShape surroundings.inner.value shape)
    (fits : (Node.name name).fits shape = true) :
    ∃ text, renderNode surroundings (.name name) = .ok text := by
  rw [Node.fits, Bool.and_eq_true, Bool.not_eq_true'] at fits
  obtain ⟨inner, promised⟩ := Option.isSome_iff_exists.1 fits.2
  rw [← fieldsAt?_singleton] at promised
  obtain ⟨found, hfound, -⟩ := exists_value_of_fits plain shaped promised
  refine ⟨display found, ?_⟩
  rw [renderNode, fits.1, hfound]
  rfl

mutual

/-- A part that fits is filled with data of the shape. -/
theorem exists_renderNode {surroundings : Surroundings} {shape : Shape}
    (plain : surroundings.IsPlain) (shaped : HasShape surroundings.inner.value shape) :
    (node : Node) → node.fits shape = true → ∃ text, renderNode surroundings node = .ok text
  | .text value, _ => ⟨value, by rw [renderNode]⟩
  | .name name, fits => renderNode_name plain shaped fits
  | .value (.path (.block 0) fields), fits => by
      rw [Node.fits] at fits
      obtain ⟨inner, promised⟩ := Option.isSome_iff_exists.1 fits
      obtain ⟨found, hfound, -⟩ := exists_value_of_fits plain shaped promised
      refine ⟨display found, ?_⟩
      rw [renderNode, hfound]
      rfl
  | .value (.path (.block (levels + 1)) fields), fits => by simp [Node.fits] at fits
  | .value (.path .root fields), fits => by simp [Node.fits] at fits
  | .value (.variable levels name), fits => by simp [Node.fits] at fits
  | .call helper arguments, fits => by simp [Node.fits] at fits
  | .computed argument, fits => by simp [Node.fits] at fits
  | .block name arguments (first :: rest) body otherwise, fits => by simp [Node.fits] at fits
  | .block name arguments [] body otherwise, fits => by
      rw [Node.fits] at fits
      cases named : fieldArgument? arguments with
      | none => simp [named] at fits
      | some field =>
          simp only [named] at fits
          split at fits
          · next isEach =>
              subst isEach
              cases promised : itemShape? (shape.field? field) with
              | none => simp [promised] at fits
              | some item =>
                  rw [promised, Bool.and_eq_true] at fits
                  obtain ⟨items, values, each⟩ :=
                    exists_items_argumentValues plain shaped named promised
                  exact renderNode_each plain values
                    (fun inner plain member =>
                      exists_renderNodes plain (each _ member) body fits.1)
                    (exists_renderOtherwise plain shaped otherwise fits.2)
          · next notEach =>
              split at fits
              · next isIf =>
                  subst isIf
                  rw [Bool.and_eq_true, Bool.and_eq_true] at fits
                  obtain ⟨inner, promised⟩ := Option.isSome_iff_exists.1 fits.1.1
                  obtain ⟨found, values, -⟩ := exists_argumentValues plain shaped named promised
                  exact renderNode_if values (exists_renderNodes plain shaped body fits.1.2)
                    (exists_renderOtherwise plain shaped otherwise fits.2)
              · cases fits

/-- Some parts that fit are filled one after the other. -/
theorem exists_renderNodes {surroundings : Surroundings} {shape : Shape}
    (plain : surroundings.IsPlain) (shaped : HasShape surroundings.inner.value shape) :
    (nodes : List Node) → nodesFit shape nodes = true →
      ∃ text, renderNodes surroundings nodes = .ok text
  | [], _ => ⟨"", by rw [renderNodes]⟩
  | node :: rest, fits => by
      rw [nodesFit, Bool.and_eq_true] at fits
      obtain ⟨text, htext⟩ := exists_renderNode plain shaped node fits.1
      obtain ⟨texts, htexts⟩ := exists_renderNodes plain shaped rest fits.2
      refine ⟨text ++ texts, ?_⟩
      rw [renderNodes, htext, htexts]
      rfl

theorem exists_renderOtherwise {surroundings : Surroundings} {shape : Shape}
    (plain : surroundings.IsPlain) (shaped : HasShape surroundings.inner.value shape) :
    (otherwise : Option (List Node)) → otherwiseFits shape otherwise = true →
      ∃ text, renderOtherwise surroundings otherwise = .ok text
  | none, _ => ⟨"", by rw [renderOtherwise]⟩
  | some nodes, fits => by
      rw [otherwiseFits] at fits
      obtain ⟨text, htext⟩ := exists_renderNodes plain shaped nodes fits
      exact ⟨text, by rw [renderOtherwise, htext]⟩

end

theorem renderNodes_append_eq_ok {surroundings : Surroundings} {front back : List Node}
    {result : String} :
    renderNodes surroundings (front ++ back) = .ok result ↔
      ∃ before, renderNodes surroundings front = .ok before ∧
        ∃ after, renderNodes surroundings back = .ok after ∧ result = before ++ after := by
  induction front generalizing result with
  | nil => simp [renderNodes]
  | cons node rest ih =>
      simp only [List.cons_append, renderNodes, bind_eq_ok, pure_eq_ok, ih]
      constructor
      · rintro ⟨text, own, _, ⟨before, hbefore, after, hafter, rfl⟩, rfl⟩
        exact ⟨_, ⟨text, own, before, hbefore, rfl⟩, after, hafter,
          String.append_assoc.symm⟩
      · rintro ⟨_, ⟨text, own, before, hbefore, rfl⟩, after, hafter, rfl⟩
        exact ⟨text, own, _, ⟨before, hbefore, after, hafter, rfl⟩, String.append_assoc⟩

/-- What some neighbouring parts are filled to stands in what the whole template is. -/
theorem exists_append_of_renderNodes_append {surroundings : Surroundings}
    {front nodes back : List Node} {result : String}
    (rendered : renderNodes surroundings (front ++ (nodes ++ back)) = .ok result) :
    ∃ text, renderNodes surroundings nodes = .ok text ∧
      ∃ before after, result = before ++ text ++ after := by
  obtain ⟨before, -, _, inner, rfl⟩ := renderNodes_append_eq_ok.1 rendered
  obtain ⟨text, own, after, -, rfl⟩ := renderNodes_append_eq_ok.1 inner
  exact ⟨text, own, before, after, String.append_assoc.symm⟩

/-- The texts of a template stand in what it is filled to. -/
theorem exists_append_of_renderNodes {surroundings : Surroundings} {nodes : List Node}
    {piece result : String} (member : .text piece ∈ nodes)
    (rendered : renderNodes surroundings nodes = .ok result) :
    ∃ front back, result = front ++ piece ++ back := by
  obtain ⟨before, after, rfl⟩ := List.append_of_mem member
  rw [List.append_cons, List.append_assoc] at rendered
  obtain ⟨text, own, front, back, rfl⟩ := exists_append_of_renderNodes_append rendered
  have shown : renderNodes surroundings [.text piece] = .ok (piece ++ "") := by
    simp only [renderNodes, renderNode]
    rfl
  cases own.symm.trans shown
  exact ⟨front, back, by rw [String.append_empty]⟩

end ContractDictionary.Template

namespace ContractDictionary

/-- A template that fits a shape is filled with any data of the shape. -/
theorem Template.exists_render {template : Template} {shape : Shape} {data : Json}
    (fits : nodesFit shape template = true) (shaped : Json.HasShape data shape) :
    ∃ text, template.render data = .ok text :=
  exists_renderNodes (isPlain_whole data) shaped template fits

end ContractDictionary
