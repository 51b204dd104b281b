import ContractDictionary.Template.Syntax

/-!
# Rendering a template

A template is filled with data strictly: a value that the data lack, a helper that does not
exist and an argument that is no text are faults.
-/

namespace ContractDictionary.Template

/-- The data within a block. -/
structure Frame where
  /-- The value that the parts of the block are about. -/
  value : Json
  /-- The values of its variables, such as the position of the current item. -/
  locals : List (String × Json) := []
  /-- The values of the parameters of the block. -/
  parameters : List (String × Json) := []

/-- The data at one place of a template. -/
structure Surroundings where
  /-- The whole data. -/
  root : Json
  /-- The innermost block. -/
  inner : Frame
  /-- The blocks around it, from the inside to the outside. -/
  outer : List Frame := []

namespace Surroundings

def enter (surroundings : Surroundings) (frame : Frame) : Surroundings :=
  { surroundings with inner := frame, outer := surroundings.inner :: surroundings.outer }

/-- All blocks around the place, from the inside to the outside. -/
def frames (surroundings : Surroundings) : List Frame :=
  surroundings.inner :: surroundings.outer

/-- The value at which a path begins; beyond the outermost block it is that of the innermost. -/
def start (surroundings : Surroundings) : Origin → Json
  | .block levels => (surroundings.frames[levels]?.getD surroundings.inner).value
  | .root => surroundings.root

/-- The value of a parameter of a block around the place, the innermost such block counting. -/
def parameter? (surroundings : Surroundings) (name : String) : Option Json :=
  surroundings.frames.findSome? fun frame => frame.parameters.lookup name

end Surroundings

def position? (field : String) : Option Nat :=
  let digits := match field.toList with
    | '+' :: rest => rest
    | cs => cs
  let position := digitsValue 0 digits
  if digits.isEmpty || !digits.all Char.isDigit || powerOfTwo 64 ≤ position then none
  else some position

/-- The value that a field leads to; the items of a list are reached by their positions alone. -/
def valueAt (value : Option Json) (field : String) : Except RenderFault (Option Json) :=
  match value with
  | some (.record fields) => .ok (fields.lookup field)
  | some (.list items) =>
      match position? field with
      | some position => .ok items[position]?
      | none => .error (.invalidPosition field)
  | _ => .ok none

/--
The value that a reference leads to, if there is one.  A parameter of a block goes before the
fields of all values but the whole data.
-/
def Reference.value (reference : Reference) (surroundings : Surroundings) :
    Except RenderFault (Option Json) :=
  match reference with
  | .path (.block levels) (field :: fields) =>
      match surroundings.parameter? field with
      | some value => fields.foldlM valueAt (some value)
      | none => (field :: fields).foldlM valueAt (some (surroundings.start (.block levels)))
  | .path origin fields => fields.foldlM valueAt (some (surroundings.start origin))
  | .variable levels name =>
      .ok (surroundings.frames[levels]?.bind fun frame => frame.locals.lookup name)

/-- The values of some arguments, which the data may lack. -/
structure Values where
  byPlace : List (Option Json) := []
  /-- The last of several arguments of one name comes first. -/
  byName : List (String × Option Json) := []

mutual

def Argument.value (surroundings : Surroundings) : Argument → Except RenderFault (Option Json)
  | .reference target => target.value surroundings
  | .literal value => .ok (some value)
  | .call helper arguments => do
      let values ← argumentValues surroundings {} arguments
      return some (← callHelper helper values.byPlace)
  | .named _ argument => argument.value surroundings

def argumentValues (surroundings : Surroundings) (values : Values) :
    List Argument → Except RenderFault Values
  | [] => .ok { values with byPlace := values.byPlace.reverse }
  | .named name argument :: rest => do
      let value ← argument.value surroundings
      argumentValues surroundings { values with byName := (name, value) :: values.byName } rest
  | argument :: rest => do
      let value ← argument.value surroundings
      argumentValues surroundings { values with byPlace := value :: values.byPlace } rest

end

def displayFound (value : Option Json) : Except RenderFault String :=
  match value with
  | some value => .ok (display value)
  | none => .error .missingValue

def displayResult (name : String) (values : Values) : Except RenderFault String :=
  (callHelper name values.byPlace).map display

/-- The value of a condition counts as true; on request every number does. -/
def holds (values : Values) (value : Option Json) : Bool :=
  match value, values.byName.lookup "includeZero" with
  | some (.integer _), some (some (.bool true)) => true
  | some (.real _), some (some (.bool true)) => true
  | value, _ => value.any isTrue

/-- A value under its position and its key among `count` ones. -/
def itemFrame (count : Nat) (parameters : List String) (position : Nat) (key : Json)
    (value : Json) (locals : List (String × Json)) : Frame :=
  { value
    locals :=
      ("index", .integer position) :: ("first", .bool (position = 0)) ::
        ("last", .bool (position + 1 = count)) :: locals
    parameters := parameters.zip [value, key] }

/-- The items of a list, with their positions, or the values of a record, with their keys. -/
def items? (parameters : List String) : Json → Option (List Frame)
  | .list items =>
      some (items.zipIdx.map fun (value, position) =>
        itemFrame items.length parameters position (.integer position) value [])
  | .record fields =>
      some (fields.zipIdx.map fun ((key, value), position) =>
        itemFrame fields.length parameters position (.text key) value [("key", .text key)])
  | _ => none

/-- The value of a block of its own; only a single parameter names it. -/
def singleFrame (parameters : List String) (value : Json) : Frame :=
  { value, parameters := if parameters.length = 1 then parameters.zip [value] else [] }

mutual

def renderNode (surroundings : Surroundings) : Node → Except RenderFault String
  | .text value => .ok value
  | .name name =>
      if isHelper name then displayResult name {}
      else do displayFound (← (Reference.path (.block 0) [name]).value surroundings)
  | .value target => do displayFound (← target.value surroundings)
  | .call helper arguments => do
      displayResult helper (← argumentValues surroundings {} arguments)
  | .computed argument => do
      let text ← displayFound (← argument.value surroundings)
      if isHelper text then displayResult text {} else .ok text
  | .block name arguments parameters body otherwise => do
      let values ← argumentValues surroundings {} arguments
      if name = "raw" then renderNodes surroundings body
      else if name ∈ blockHelpers then
        match values.byPlace with
        | [] => .error .invalidArgument
        | value :: _ =>
            if name = "if" then
              if holds values value then renderNodes surroundings body
              else renderOtherwise surroundings otherwise
            else if name = "unless" then
              if holds values value then renderOtherwise surroundings otherwise
              else renderNodes surroundings body
            else if name = "with" then
              match value.filter isTrue, otherwise.isSome with
              | some value, _ =>
                  renderNodes (surroundings.enter (singleFrame parameters value)) body
              | none, true => renderOtherwise surroundings otherwise
              | none, false => .error .missingValue
            else
              match value.bind (items? parameters), otherwise.isSome with
              | some [], true => renderOtherwise surroundings otherwise
              | some frames, _ => do
                  let texts ← frames.mapM fun frame => renderNodes (surroundings.enter frame) body
                  return String.join texts
              | none, true => renderOtherwise surroundings otherwise
              | none, false => .error .missingValue
      else displayResult name values

def renderNodes (surroundings : Surroundings) : List Node → Except RenderFault String
  | [] => .ok ""
  | node :: rest => do
      let text ← renderNode surroundings node
      let texts ← renderNodes surroundings rest
      return text ++ texts

/-- The text of the second part of a block, if there is one. -/
def renderOtherwise (surroundings : Surroundings) : Option (List Node) → Except RenderFault String
  | none => .ok ""
  | some nodes => renderNodes surroundings nodes

end

end ContractDictionary.Template

namespace ContractDictionary

def Template.render (template : Template) (data : Json) : Except Template.RenderFault String :=
  Template.renderNodes { root := data, inner := { value := data } } template

end ContractDictionary
