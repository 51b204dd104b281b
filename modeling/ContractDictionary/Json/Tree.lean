import ContractDictionary.Json.Token

/-!
# The tree of a data document

The tokens of a document are put together to a tree that keeps the order of the text and
repeated keys, as far as the text can be read.  Where it breaks off, the innermost open list
or record states the break, and the containers around it end there.
-/

namespace ContractDictionary.Json

/-- A document as its text gives it. -/
inductive Tree where
  /-- Null, a truth value, or a number, or nothing for a number out of range. -/
  | leaf (value : Option Json)
  /-- A text, or nothing for one with half of a surrogate pair. -/
  | text (value : Option String)
  /-- A list, and the break by which it ends if it is not closed. -/
  | list (items : List Tree) (fault : Option Break)
  /-- A record, and the break by which it ends if it is not closed. -/
  | record (fields : List (Option String × Tree)) (fault : Option Break)
  /-- A value that breaks off. -/
  | broken (fault : Break)

/-- An open container, its content so far backwards. -/
inductive Frame where
  | list (items : List Tree)
  | record (fields : List (Option String × Tree))
  /-- A record that waits for the value of a key. -/
  | entry (fields : List (Option String × Tree)) (key : Option String)

/-- What the next token may be. -/
inductive Expected where
  | value
  | firstItem
  | firstKey
  | key
  | colon
  | separator

/-- The state between two tokens. -/
inductive Assembly where
  | within (frames : List Frame) (expected : Expected)
  | complete (root : Tree)

/-- Hand a value to the innermost open container. -/
def Assembly.deliver (value : Tree) : List Frame → Assembly
  | [] => .complete value
  | .list items :: rest => .within (.list (value :: items) :: rest) .separator
  | .entry fields key :: rest => .within (.record ((key, value) :: fields) :: rest) .separator
  | .record fields :: rest => .within (.record ((none, value) :: fields) :: rest) .separator

/-- The containers around a value, which all end with it. -/
def enclose (value : Tree) : List Frame → Tree
  | [] => value
  | .list items :: rest => enclose (.list (value :: items).reverse none) rest
  | .entry fields key :: rest => enclose (.record ((key, value) :: fields).reverse none) rest
  | .record fields :: rest => enclose (.record fields.reverse none) rest

def breakValue (frames : List Frame) (fault : Break) : Tree :=
  enclose (.broken fault) frames

/-- The tree of a text that breaks off inside the innermost container. -/
def breakContainer (frames : List Frame) (fault : Break) : Tree :=
  match frames with
  | [] => .broken fault
  | .list items :: rest => enclose (.list items.reverse (some fault)) rest
  | .record fields :: rest => enclose (.record fields.reverse (some fault)) rest
  | .entry .. :: _ => breakValue frames fault

inductive AssemblyStep where
  | next (assembly : Assembly)
  | stop (tree : Tree)

/-- The token where a value is expected, a closing bracket being none. -/
def valueStep (frames : List Frame) : Token → AssemblyStep
  | .null => .next (.deliver (.leaf (some .null)) frames)
  | .bool value => .next (.deliver (.leaf (some (.bool value))) frames)
  | .number value => .next (.deliver (.leaf value) frames)
  | .text value => .next (.deliver (.text value) frames)
  | .openList => .next (.within (.list [] :: frames) .firstItem)
  | .openRecord => .next (.within (.record [] :: frames) .firstKey)
  | .broken _ fault => .stop (breakValue frames fault)
  | _ => .stop (breakValue frames (.all .malformed))

/-- The token where a key is expected, a closing bracket being none. -/
def keyStep (frames : List Frame) (token : Token) : AssemblyStep :=
  match token, frames with
  | .text key, .record fields :: rest => .next (.within (.entry fields key :: rest) .colon)
  | .broken true fault, _ => .stop (breakContainer frames fault)
  | _, _ => .stop (breakContainer frames (.all .malformed))

def separatorStep (frames : List Frame) (token : Token) : AssemblyStep :=
  match token, frames with
  | .comma, .list _ :: _ => .next (.within frames .value)
  | .comma, .record _ :: _ => .next (.within frames .key)
  | .closeList, .list items :: rest => .next (.deliver (.list items.reverse none) rest)
  | .closeRecord, .record fields :: rest => .next (.deliver (.record fields.reverse none) rest)
  | _, _ => .stop (breakContainer frames (.all .malformed))

def Assembly.step (frames : List Frame) (expected : Expected) (token : Token) : AssemblyStep :=
  match expected, token, frames with
  | .firstItem, .closeList, .list _ :: rest => .next (.deliver (.list [] none) rest)
  | .firstKey, .closeRecord, .record _ :: rest => .next (.deliver (.record [] none) rest)
  | .value, token, frames => valueStep frames token
  | .firstItem, token, frames => valueStep frames token
  | .firstKey, token, frames => keyStep frames token
  | .key, token, frames => keyStep frames token
  | .colon, .colon, frames => .next (.within frames .value)
  | .colon, _, frames => .stop (breakValue frames (.all .malformed))
  | .separator, token, frames => separatorStep frames token

/-- A tree, and whether anything follows it in the text. -/
structure Parsed where
  root : Tree
  hasMore : Bool

def assemble : Assembly → List Token → Parsed
  | .complete root, rest => ⟨root, !rest.isEmpty⟩
  | .within frames expected, [] =>
      let fault : Break := .all .cut
      match expected with
      | .value | .firstItem | .colon => ⟨breakValue frames fault, false⟩
      | .firstKey | .key | .separator => ⟨breakContainer frames fault, false⟩
  | .within frames expected, token :: rest =>
      match Assembly.step frames expected token with
      | .next assembly => assemble assembly rest
      | .stop tree => ⟨tree, false⟩

def Tree.ofText (text : String) : Parsed :=
  assemble (.within [] .value) (tokens text)

def greatestDepth : Nat := 127

mutual

def Tree.skipFault? : Tree → Option TextFault
  | .leaf _ => none
  | .text _ => none
  | .list items fault => (skipItems? items).or (fault.map Break.skip)
  | .record fields fault => (skipFields? fields).or (fault.map Break.skip)
  | .broken fault => some fault.skip

def skipItems? : List Tree → Option TextFault
  | [] => none
  | item :: rest => (item.skipFault?).or (skipItems? rest)

def skipFields? : List (Option String × Tree) → Option TextFault
  | [] => none
  | (_, value) :: rest => (value.skipFault?).or (skipFields? rest)

end

def closing (fault : Option Break) : Except TextFault Unit :=
  match fault with
  | none => .ok ()
  | some fault => .error fault.read

mutual

/-- The value of a tree, in which containers may be nested `room` deep. -/
def Tree.value (room : Nat) : Tree → Except TextFault Json
  | .leaf (some value) => .ok value
  | .leaf none => .error .malformed
  | .text (some value) => .ok (.text value)
  | .text none => .error .malformed
  | .broken fault => .error fault.read
  | .list items fault =>
      match room with
      | 0 => .error .malformed
      | room + 1 => do
          let values ← itemValues room items
          closing fault
          return .list values
  | .record fields fault =>
      match room with
      | 0 => .error .malformed
      | room + 1 => do
          let values ← fieldValues room fields
          closing fault
          return .object values

def itemValues (room : Nat) : List Tree → Except TextFault (List Json)
  | [] => .ok []
  | item :: rest => do
      let value ← item.value room
      let values ← itemValues room rest
      return value :: values

def fieldValues (room : Nat) : List (Option String × Tree) →
    Except TextFault (List (String × Json))
  | [] => .ok []
  | (none, _) :: _ => .error .malformed
  | (some key, value) :: rest => do
      let value ← value.value room
      let values ← fieldValues room rest
      return (key, value) :: values

end

def ofText (text : String) : Except TextFault Json := do
  let parsed := Tree.ofText text
  let value ← parsed.root.value greatestDepth
  if parsed.hasMore then .error .malformed else .ok value

mutual

def toTree : Json → Tree
  | .null => .leaf (some .null)
  | .bool value => .leaf (some (.bool value))
  | .integer value => .leaf (some (.integer value))
  | .real value => .leaf (some (.real value))
  | .text value => .text (some value)
  | .list items => .list (itemTrees items) none
  | .record fields => .record (fieldTrees fields) none

def itemTrees : List Json → List Tree
  | [] => []
  | item :: rest => toTree item :: itemTrees rest

def fieldTrees : List (String × Json) → List (Option String × Tree)
  | [] => []
  | (key, value) :: rest => (some key, toTree value) :: fieldTrees rest

end

end ContractDictionary.Json
