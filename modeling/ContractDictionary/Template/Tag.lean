import ContractDictionary.Json.Tree
import ContractDictionary.Template.Syntax

/-!
# Tags

A tag stands between double braces: a value or a call whose result is inserted, the beginning,
an alternative or the end of a block, or a comment.  Every reader gives what it has read at the
front of some characters together with the characters behind it.

A reference is a path of fields from the current value, from that of a block around it or from the
whole data, or a variable.  The form of a literal is recognised first, and the data value with this
form is then read as in a data document.
-/

namespace ContractDictionary.Template

def isTagSpace (c : Char) : Bool :=
  c = ' ' || c = '\t' || c = '\n' || c = '\r'

def skipSpace (cs : List Char) : List Char :=
  cs.dropWhile isTagSpace

def isNameChar (c : Char) : Bool :=
  c.isAlphanum || c = '_' || c = '-' || c = '$' || c = ':' || 0x80 ≤ c.toNat

def endsName (cs : List Char) : Bool :=
  !cs.head?.any isNameChar

def afterWord? (word : String) (cs : List Char) : Option (List Char) :=
  if word.toList.isPrefixOf cs then some (cs.drop word.length) else none

/-- The characters behind a mark, if they begin with it, and whether they do. -/
def takeMark (mark : Char) : List Char → Bool × List Char
  | c :: rest => if c = mark then (true, rest) else (false, c :: rest)
  | [] => (false, [])

def takeName (cs : List Char) : Option (String × List Char) :=
  let name := cs.takeWhile isNameChar
  if name.isEmpty then none else some (String.ofList name, cs.dropWhile isNameChar)

/-- Words that are no arguments, for they have a meaning of their own within a tag. -/
def reservedWords : List String := ["as", "else"]

def beginsReserved (cs : List Char) : Bool :=
  reservedWords.any fun word => (afterWord? word cs).any fun rest => endsName (skipSpace rest)

def isPathMark (c : Char) : Bool :=
  c = '.' || c = '/'

def afterPathMark? : List Char → Option (List Char)
  | c :: rest => if isPathMark c then some rest else none
  | [] => none

/-- Read a field: a name, or any text between square brackets. -/
def takeField (cs : List Char) : Option (String × List Char) :=
  match cs with
  | '[' :: rest =>
      match rest.dropWhile (· ≠ ']') with
      | _ :: after => some (String.ofList (rest.takeWhile (· ≠ ']')), after)
      | [] => none
  | _ => takeName cs

/-- Read fields with a separator before each, at most `fuel` of them. -/
def takeFieldsWithin : Nat → List Char → List String × List Char
  | 0, cs => ([], cs)
  | fuel + 1, cs =>
      match (afterPathMark? cs).bind takeField with
      | some (field, rest) =>
          let (fields, after) := takeFieldsWithin fuel rest
          (field :: fields, after)
      | none => ([], cs)

/-- Read steps to blocks further out, and count them. -/
def takeLevels : List Char → Nat × List Char
  | '.' :: '.' :: c :: rest =>
      if isPathMark c then
        let (levels, after) := takeLevels rest
        (levels + 1, after)
      else
        (0, '.' :: '.' :: c :: rest)
  | cs => (0, cs)

/-- What follows the current value at the beginning of a path to one of its fields. -/
def skipCurrent (cs : List Char) : List Char :=
  ((afterWord? "this" cs).bind afterPathMark?).getD ((afterWord? "./" cs).getD cs)

/--
Read a reference.  The current value may be named at any place of it, where it leads no
further; a variable is known by its first field.
-/
def takeReference (cs : List Char) : Option (Reference × List Char) := do
  let cs := skipCurrent cs
  let root? := (afterWord? "@root" cs).bind afterPathMark?
  let (isVariable, cs) := takeMark '@' (root?.getD cs)
  let (levels, cs) := takeLevels cs
  let (first, cs) ← takeField cs
  let (others, cs) := takeFieldsWithin cs.length cs
  let fields := (first :: others).filter (· ≠ "this")
  let target : Reference :=
    match root?.isSome, isVariable, fields with
    | true, _, _ => .path .root fields
    | false, true, name :: _ => .variable levels name
    | false, true, [] => .path (.block 0) []
    | false, false, _ => .path (.block levels) fields
  return (target, cs)

/-! ## Literals -/

/--
Read the inside of a text up to the closing quote, written for double quotes.  A single quote
within single quotes is escaped, a double one is not.
-/
def takeQuoted (quote : Char) : List Char → Option (List Char × List Char)
  | [] => none
  | '\\' :: c :: rest =>
      if c = '"' ∧ quote ≠ '"' then none
      else
        (takeQuoted quote rest).map fun (inside, after) =>
          (if c = '\'' ∧ quote = '\'' then c :: inside else '\\' :: c :: inside, after)
  | c :: rest =>
      if c = quote then some ([], rest)
      else
        (takeQuoted quote rest).map fun (inside, after) =>
          (if c = '"' then '\\' :: c :: inside else c :: inside, after)

def skipExponent (cs : List Char) : List Char :=
  match cs with
  | 'E' :: rest =>
      let digits := (takeMark '-' rest).2
      if digits.head?.any Char.isDigit then digits.dropWhile Char.isDigit else cs
  | _ => cs

def afterNumber? (cs : List Char) : Option (List Char) :=
  let digits := (takeMark '-' cs).2
  if digits.head?.any Char.isDigit then
    let fraction := (takeMark '.' (digits.dropWhile Char.isDigit)).2
    let rest := skipExponent (fraction.dropWhile Char.isDigit)
    if endsName rest then some rest else none
  else
    none

def literalWords : List String := ["null", "true", "false"]

def afterLiteralWord? (cs : List Char) : Option (List Char) :=
  literalWords.findSome? fun word => (afterWord? word cs).filter endsName

def afterQuoted? : List Char → Option (List Char)
  | c :: rest => if c = '"' ∨ c = '\'' then (takeQuoted c rest).map Prod.snd else none
  | [] => none

/-- What follows the members of a list or record after the first one, at most `fuel` of them. -/
def afterMembers? (member? : List Char → Option (List Char)) (closing : Char) :
    Nat → List Char → Option (List Char)
  | 0, _ => none
  | fuel + 1, cs =>
      match skipSpace cs with
      | [] => none
      | c :: rest =>
          if c = closing then some rest
          else if c = ',' then
            (member? (skipSpace rest)).bind (afterMembers? member? closing fuel)
          else none

/-- What follows a literal whose parts are nested less than `depth` deep. -/
def afterLiteralWithin? : Nat → List Char → Option (List Char)
  | 0, _ => none
  | depth + 1, cs =>
      match cs with
      | '[' :: rest => afterAll ']' (afterLiteralWithin? depth) rest
      | '{' :: rest =>
          afterAll '}' (fun field => do
            let value ← afterWord? ":" (skipSpace (← afterQuoted? field))
            afterLiteralWithin? depth (skipSpace value)) rest
      | _ => afterQuoted? cs <|> afterNumber? cs <|> afterLiteralWord? cs
where
  /-- What follows all members, the first of which may be missing. -/
  afterAll (closing : Char) (member? : List Char → Option (List Char)) (cs : List Char) :
      Option (List Char) :=
    let inside := skipSpace cs
    afterMembers? member? closing (inside.length + 1) ((member? inside).getD inside)

def afterLiteral? (cs : List Char) : Option (List Char) :=
  afterLiteralWithin? (cs.length + 1) cs

def valueOf? (cs : List Char) : Option Json :=
  (Json.ofText (String.ofList cs)).toOption

def literalValue? (cs rest : List Char) : Option Json :=
  match cs with
  | '\'' :: inner => do
      let (inside, _) ← takeQuoted '\'' inner
      valueOf? ('"' :: inside ++ ['"'])
  | _ => valueOf? (cs.take (cs.length - rest.length))

/-! ## The inside of a tag -/

structure BlockHead where
  name : String
  arguments : List Argument := []
  parameters : List String := []

inductive Tag where
  | comment
  /-- A part that is inserted. -/
  | insertion (part : Node)
  | openBlock (head : BlockHead)
  /-- The block ends, and if it does not apply another one begins that ends with it. -/
  | alternative (head : BlockHead)
  | otherwise
  | closeBlock (name : String)

/-- The tag whose line disappears if it holds nothing else. -/
def Tag.isStructural : Tag → Bool
  | .insertion _ => false
  | _ => true

structure WrittenTag where
  tag : Tag
  /-- White space before the tag is taken away. -/
  trimsBefore : Bool := false
  /-- White space behind the tag is taken away. -/
  trimsAfter : Bool := false

mutual

/-- Read an argument; what is nested in it is read with less than `fuel`. -/
def takeArgumentWithin : Nat → List Char → Option (Argument × List Char)
  | 0, _ => none
  | fuel + 1, cs =>
      if beginsReserved cs then none
      else
        match afterLiteral? cs with
        | some rest => (literalValue? cs rest).map fun value => (.literal value, rest)
        | none =>
            match takeReference cs with
            | some (target, rest) => some (.reference target, rest)
            | none => takeInnerCallWithin fuel cs

/-- Read a call in parentheses; without arguments it may have the form of any reference. -/
def takeInnerCallWithin : Nat → List Char → Option (Argument × List Char)
  | 0, _ => none
  | fuel + 1, cs => do
      let inside := skipSpace (← afterWord? "(" cs)
      let (call, rest) ←
        match (takeName inside).map fun (name, rest) => (name, takeArgumentsWithin fuel rest) with
        | some (name, argument :: arguments, rest) =>
            some (Argument.call name (argument :: arguments), rest)
        | _ =>
            (takeReference inside).map fun (_, rest) =>
              (.call (String.ofList (inside.take (inside.length - rest.length))) [], rest)
      return (call, ← afterWord? ")" (skipSpace rest))

def takeNamedWithin : Nat → List Char → Option (Argument × List Char)
  | 0, _ => none
  | fuel + 1, cs => do
      let (name, cs) ← takeName cs
      let cs ← afterWord? "=" (skipSpace cs)
      let (value, cs) ← takeArgumentWithin fuel (skipSpace cs)
      return (.named name value, cs)

/-- Read arguments, with or without white space between them. -/
def takeArgumentsWithin : Nat → List Char → List Argument × List Char
  | 0, cs => ([], cs)
  | fuel + 1, cs =>
      let next := skipSpace cs
      match takeNamedWithin fuel next <|> takeArgumentWithin fuel next with
      | some (argument, rest) =>
          let (arguments, after) := takeArgumentsWithin fuel rest
          (argument :: arguments, after)
      | none => ([], cs)

end

/-- Fuel for what some characters write: every character is read in a few steps. -/
def fuelFor (cs : List Char) : Nat :=
  4 * (cs.length + 1)

def takeCall (cs : List Char) : Option ((String × List Argument) × List Char) := do
  let (name, cs) ← takeName cs
  let (arguments, cs) := takeArgumentsWithin (fuelFor cs) cs
  return ((name, arguments), cs)

/-- Read the parameters of a block between vertical bars: one name or two. -/
def takeParameters (cs : List Char) : Option (List String × List Char) := do
  let cs ← afterWord? "as" (skipSpace cs)
  let cs ← afterWord? "|" (skipSpace cs)
  let (first, cs) ← takeName (skipSpace cs)
  let (second, cs) :=
    match takeName (skipSpace cs) with
    | some (name, rest) => ([name], rest)
    | none => ([], cs)
  return (first :: second, ← afterWord? "|" (skipSpace cs))

def takeBlockHead (cs : List Char) : Option (BlockHead × List Char) := do
  let ((name, arguments), cs) ← takeCall cs
  let (parameters, cs) := (takeParameters cs).getD ([], cs)
  return ({ name, arguments, parameters }, cs)

/--
Read a reference that is inserted, or a call in parentheses.  A name alone may turn out to be a
helper.
-/
def takeInserted (cs : List Char) : Option (Node × List Char) :=
  match takeReference cs with
  | some (target, rest) =>
      let word := String.ofList (cs.take (cs.length - rest.length))
      if word.toList.all isNameChar && word ≠ "this" then some (.name word, rest)
      else some (.value target, rest)
  | none =>
      (takeInnerCallWithin (fuelFor cs) cs).map fun (argument, rest) => (.computed argument, rest)

def takePart (cs : List Char) : Option (Node × List Char) :=
  match takeCall cs with
  | some ((name, argument :: arguments), rest) => some (.call name (argument :: arguments), rest)
  | _ => takeInserted cs

def takeTilde (cs : List Char) : Bool × List Char :=
  match skipSpace cs with
  | '~' :: rest => (true, rest)
  | _ => (false, cs)

/-- Read a tag with a mark behind its opening braces, which have been read. -/
def takeMarked (mark : String) (inside : List Char → Option (Tag × List Char))
    (cs : List Char) : Option (WrittenTag × List Char) := do
  let (trimsBefore, cs) := takeTilde cs
  let (tag, cs) ← inside (skipSpace (← afterWord? mark (skipSpace cs)))
  let (trimsAfter, cs) := takeTilde cs
  let cs ← afterWord? "\x7d\x7d" (skipSpace cs)
  return ({ tag, trimsBefore, trimsAfter }, cs)

def otherwiseMarks : List String := ["else", "^"]

def takeOtherwise (cs : List Char) : Option (WrittenTag × List Char) :=
  otherwiseMarks.findSome? fun mark =>
    takeMarked mark (fun inside =>
        (takeBlockHead inside).map fun (head, rest) => (.alternative head, rest)) cs
      <|> takeMarked mark (fun inside => some (.otherwise, inside)) cs

def takeInsertion (cs : List Char) : Option (WrittenTag × List Char) :=
  takeMarked "" (fun inside => (takePart inside).map fun (part, rest) => (.insertion part, rest)) cs
    <|> takeMarked "\x7b" (fun inside => do
          let (part, rest) ← takePart inside
          return (.insertion part, ← afterWord? "\x7d" (skipSpace rest))) cs
    <|> takeMarked "&" (fun inside =>
          (takeInserted inside).map fun (part, rest) => (.insertion part, rest)) cs

def takeOpening (cs : List Char) : Option (WrittenTag × List Char) :=
  takeMarked "#" (fun inside =>
    (takeBlockHead inside).map fun (head, rest) => (.openBlock head, rest)) cs

def takeClosing (cs : List Char) : Option (WrittenTag × List Char) :=
  takeMarked "/" (fun inside =>
    (takeName inside).map fun (name, rest) => (.closeBlock name, rest)) cs

def afterFirst? (word : String) : List Char → Option (List Char)
  | [] => none
  | c :: rest => afterWord? word (c :: rest) <|> afterFirst? word rest

/-- Read a comment.  One that begins with two hyphens may hold braces, if it ends with two. -/
def takeComment (cs : List Char) : Option (WrittenTag × List Char) := do
  let inside ← afterWord? "!" cs
  let rest ← (afterWord? "--" (skipSpace inside)).bind (afterFirst? "--\x7d\x7d")
    <|> afterFirst? "\x7d\x7d" inside
  return ({ tag := .comment }, rest)

/-- Read a tag whose opening braces have been read. -/
def takeTag (cs : List Char) : Option (WrittenTag × List Char) :=
  takeOtherwise cs <|> takeInsertion cs <|> takeOpening cs <|> takeComment cs <|> takeClosing cs

end ContractDictionary.Template
