import ContractDictionary.Json.Tree
import ContractDictionary.Keyed

/-!
# Reading records from a document's tree

A reader takes a value from a tree or states the first fault in the order of the text.  A
record is written with its fields by name, in any order and among other fields, or as the list
of its fields in the order of their declaration.
-/

namespace ContractDictionary

open Json (Tree TextFault Break)

/-- A fault of the shape of a document that is well formed. -/
inductive ShapeFault where
  | missingField (name : String)
  | repeatedField (name : String)
  | invalidOrdinal (text : String)
  /-- A value of another kind than the one expected. -/
  | mismatch
  deriving DecidableEq, Repr

def ShapeFault.detail? : ShapeFault → Option String
  | .missingField name => some ("missing field `" ++ name ++ "`")
  | .repeatedField name => some ("duplicate field `" ++ name ++ "`")
  | .invalidOrdinal text => some ("invalid option ordinal '" ++ text ++ "'")
  | .mismatch => none

/-- Why no value can be read. -/
inductive ReadFault where
  | text (fault : TextFault)
  | shape (fault : ShapeFault)
  deriving DecidableEq, Repr

/-- A reader of values, in which containers may be nested `room` deep. -/
abbrev Reader (α : Type) := (room : Nat) → Tree → Except ReadFault α

variable {α : Type}

def malformed : Except ReadFault α :=
  .error (.text .malformed)

/-- The fault of a value of another kind than the one expected. -/
def mismatch : Tree → Except ReadFault α
  | .leaf none => malformed
  | .text none => malformed
  | .broken fault => .error (.text fault.read)
  | _ => .error (.shape .mismatch)

/-- Fail with the break by which a container ends, if there is one. -/
def closed (fault : Option Break) : Except ReadFault Unit :=
  match fault with
  | none => .ok ()
  | some fault => .error (.text fault.read)

def readText : Reader String
  | _, .text (some value) => .ok value
  | _, tree => mismatch tree

def readOptionalText : Reader (Option String)
  | _, .leaf (some .null) => .ok none
  | room, tree => (readText room tree).map some

def readValues : Reader (List Json)
  | 0, .list .. => malformed
  | room + 1, .list items fault => do
      let values ← (Json.itemValues room items).mapError .text
      closed fault
      return values
  | _, tree => mismatch tree

def readEntries (reader : Reader α) (room : Nat) :
    List (Option String × Tree) → Except ReadFault (List (String × α))
  | [] => .ok []
  | (none, _) :: _ => malformed
  | (some key, tree) :: rest => do
      let value ← reader room tree
      let entries ← readEntries reader room rest
      return (key, value) :: entries

def readSection (reader : Reader α) : Reader (Keyed α)
  | 0, .record .. => malformed
  | room + 1, .record fields fault => do
      let entries ← readEntries reader room fields
      closed fault
      return Keyed.ofList entries
  | _, tree => mismatch tree

structure Field (α : Type) where
  name : String
  reader : Reader α
  /-- The value of a field that is not written; without one the field is required. -/
  default : Option α := none

/-- What the scan of a record has to know of a field. -/
structure FieldShape where
  name : String
  isRequired : Bool
  check : Reader Unit

def Field.shape (field : Field α) : FieldShape where
  name := field.name
  isRequired := field.default.isNone
  check := fun room tree => (field.reader room tree).map fun _ => ()

structure Fields where
  room : Nat
  found : List (String × Tree)

/-- Check the fields of a record in the order of the text and keep the known ones. -/
def scanNamed (shapes : List FieldShape) (room : Nat) (found : List (String × Tree)) :
    List (Option String × Tree) → Except ReadFault (List (String × Tree))
  | [] => .ok found
  | (none, _) :: _ => malformed
  | (some key, tree) :: rest =>
      match shapes.find? (·.name == key) with
      | some shape =>
          if (found.lookup key).isSome then .error (.shape (.repeatedField key))
          else do
            shape.check room tree
            scanNamed shapes room (found ++ [(key, tree)]) rest
      | none =>
          match tree.skipFault? with
          | some fault => .error (.text fault)
          | none => scanNamed shapes room found rest

def scanListed (room : Nat) (fault : Option Break) :
    List FieldShape → List Tree → Except ReadFault (List (String × Tree))
  | [], [] => do
      closed fault
      return []
  | [], _ :: _ => malformed
  | shape :: shapes, [] => do
      closed fault
      if shape.isRequired then .error (.shape .mismatch)
      else scanListed room fault shapes []
  | shape :: shapes, tree :: rest => do
      shape.check room tree
      let found ← scanListed room fault shapes rest
      return (shape.name, tree) :: found

def requireFields (shapes : List FieldShape) (found : List (String × Tree)) :
    Except ReadFault Unit :=
  match shapes.find? (fun shape => shape.isRequired && (found.lookup shape.name).isNone) with
  | some shape => .error (.shape (.missingField shape.name))
  | none => .ok ()

def readFields (shapes : List FieldShape) : Reader Fields
  | 0, .record .. => malformed
  | 0, .list .. => malformed
  | room + 1, .record fields fault => do
      let found ← scanNamed shapes room [] fields
      closed fault
      requireFields shapes found
      return ⟨room, found⟩
  | room + 1, .list items fault => do
      let found ← scanListed room fault shapes items
      return ⟨room, found⟩
  | _, tree => mismatch tree

def Field.get (field : Field α) (fields : Fields) : Except ReadFault α :=
  match fields.found.lookup field.name, field.default with
  | some tree, _ => field.reader fields.room tree
  | none, some value => .ok value
  | none, none => .error (.shape (.missingField field.name))

end ContractDictionary
