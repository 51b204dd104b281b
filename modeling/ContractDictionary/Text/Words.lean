import ContractDictionary.Text.Basic

/-!
# Names made of words

A name joins its words by capitals (`contractRole`, `ContractRole`) or by a separator
(`contract_role`).  Separators are put in by patterns in which `$1` or `${1}` stands for what a
group matched and `$$` for a dollar sign; a name that no group has stands for nothing.
-/

namespace ContractDictionary.Text

/--
The parts of the characters still to be read.  `skip` characters of them belong to a
separator already found, and `part` holds the part under way backwards.
-/
def splitFrom (separator : List Char) : Nat → List Char → List Char → List (List Char)
  | _, part, [] => [part.reverse]
  | skip + 1, part, _ :: rest => splitFrom separator skip part rest
  | 0, part, c :: rest =>
      if separator.isPrefixOf (c :: rest) then
        part.reverse :: splitFrom separator (separator.length - 1) [] rest
      else
        splitFrom separator 0 (c :: part) rest

def split (separator cs : List Char) : List (List Char) :=
  if separator = [] then
    [] :: cs.map (fun c => [c]) ++ [[]]
  else
    splitFrom separator 0 [] cs

inductive Piece where
  | literal (c : Char)
  | group (index : Nat)
  deriving DecidableEq

def isReferenceChar (c : Char) : Bool :=
  c.isAlphanum || c = '_'

/-- The number that a reference names: digits, perhaps after a plus sign. -/
def groupNumber? (name : List Char) : Option Nat :=
  let digits := if name.head? = some '+' then name.tail else name
  if digits.isEmpty || !digits.all Char.isDigit then none
  else some (digits.foldl (fun n c => 10 * n + (c.toNat - '0'.toNat)) 0)

def referencePiece (name : List Char) : List Piece :=
  match groupNumber? name with
  | some index => [.group index]
  | none => []

def pieces : List Char → List Piece
  | [] => []
  | '$' :: '$' :: rest => .literal '$' :: pieces rest
  | '$' :: '{' :: rest =>
      if '}' ∈ rest then
        referencePiece (rest.takeWhile (· ≠ '}')) ++ pieces (rest.dropWhile (· ≠ '}')).tail
      else
        .literal '$' :: pieces ('{' :: rest)
  | '$' :: c :: rest =>
      if isReferenceChar c then
        referencePiece (c :: rest.takeWhile isReferenceChar) ++
          pieces (rest.dropWhile isReferenceChar)
      else
        .literal '$' :: pieces (c :: rest)
  | c :: rest => .literal c :: pieces rest
termination_by cs => cs.length
decreasing_by
  all_goals simp only [List.length_cons, List.length_tail]
  all_goals
    first
      | omega
      | exact Nat.lt_succ_of_le (Nat.le_succ_of_le
          (Nat.le_trans (Nat.sub_le _ _) (List.dropWhile_sublist _).length_le))
      | exact Nat.lt_succ_of_le (Nat.le_succ_of_le (List.dropWhile_sublist _).length_le)

/-- What the pieces stand for, given what each group matched. -/
def fill (groups : List (List Char)) (pattern : List Piece) : List Char :=
  pattern.flatMap fun
    | .literal c => [c]
    | .group index => groups.getD index []

@[simp] theorem pieces_nil : pieces [] = [] := by
  simp [pieces]

def capitalize : List Char → List Char
  | [] => []
  | c :: rest => upperChar c ++ rest

def decapitalize : List Char → List Char
  | [] => []
  | c :: rest => lowerChar c ++ rest

def pascalChars (separator cs : List Char) : List Char :=
  (split separator cs).flatMap capitalize

/-- The words between the separators joined, each with a capital: `ContractRole`. -/
def pascal (separator name : String) : String :=
  String.ofList (pascalChars separator.toList name.toList)

/-- The words joined with a capital on each but the first: `contractRole`. -/
def camel (separator name : String) : String :=
  String.ofList (decapitalize (pascalChars separator.toList name.toList))

/-- The characters at which a capitalised word begins: a capital before a small letter. -/
def startsWord : List Char → Bool
  | first :: second :: _ => isCapital first && isSmall second
  | _ => false

/--
Put `pattern` in the place of each character that stands before a capitalised word together
with that word.  `skip` characters belong to a word already treated.
-/
def separateWords (pattern : List Piece) : Nat → List Char → List Char
  | _, [] => []
  | skip + 1, _ :: rest => separateWords pattern skip rest
  | 0, c :: rest =>
      if c ≠ '\n' ∧ startsWord rest then
        let word := rest.take 1 ++ rest.tail.takeWhile isSmall
        fill [c :: word, [c], word] pattern ++ separateWords pattern word.length rest
      else
        c :: separateWords pattern 0 rest

/--
Put `pattern` in the place of each small letter or digit together with the capital after it.
`skip` characters belong to a pair already treated.
-/
def separateCapitals (pattern : List Piece) : Nat → List Char → List Char
  | _, [] => []
  | skip + 1, _ :: rest => separateCapitals pattern skip rest
  | 0, c :: rest =>
      match rest with
      | next :: _ =>
          if (isSmall c || isDigit c) && isCapital next then
            fill [[c, next], [c], [next]] pattern ++ separateCapitals pattern 1 rest
          else
            c :: separateCapitals pattern 0 rest
      | [] => [c]

/-- The text between two groups, written as a pattern. -/
def separatorPattern (separator : List Char) : List Piece :=
  pieces ("$\x7b1\x7d".toList ++ separator ++ "$\x7b2\x7d".toList)

/-- The name with the separator at its word boundaries, before lower-casing. -/
def separateChars (separator cs : List Char) : List Char :=
  let pattern := separatorPattern separator
  separateCapitals pattern 0 (separateWords pattern 0 cs)

def separated (separator name : String) : String :=
  lower (String.ofList (separateChars separator.toList name.toList))

/-- The words of a capitalised name in lower case, joined by underscores: `contract_role`. -/
def snake (name : String) : String :=
  separated "_" name

end ContractDictionary.Text
