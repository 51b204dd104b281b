import ContractDictionary.Number.Binary64

/-!
# Data values

A value as data documents hold it.  The fields of a record stand in key order, each key once;
`Json.object` establishes this order for fields in any order, the last of two equal keys
being the one that counts.

A number without fraction and exponent is an integer if it lies in the range of 64-bit words,
signed or unsigned.  The leading digits of any other number, as many as fit into such a word, are
scaled once by a power of ten, so that it may differ from the nearest number in its last digit.
-/

namespace ContractDictionary

inductive Json where
  | null
  | bool (value : Bool)
  | integer (value : Int)
  | real (value : Binary64)
  | text (value : String)
  | list (items : List Json)
  | record (fields : List (String × Json))

namespace Json

/-- Put a field into fields in key order, in the place of one with its key. -/
def insertField (key : String) (value : Json) : List (String × Json) → List (String × Json)
  | [] => [(key, value)]
  | field :: rest =>
      if key < field.1 then (key, value) :: field :: rest
      else if key = field.1 then (key, value) :: rest
      else field :: insertField key value rest

/-- The fields in key order, each key with the last value that is given for it. -/
def sortFields (fields : List (String × Json)) : List (String × Json) :=
  fields.foldl (fun sorted field => insertField field.1 field.2 sorted) []

def object (fields : List (String × Json)) : Json :=
  .record (sortFields fields)

def field? : Json → String → Option Json
  | .record fields, key => fields.lookup key
  | _, _ => none

def asText? : Json → Option String
  | .text value => some value
  | _ => none

def asList? : Json → Option (List Json)
  | .list items => some items
  | _ => none

def texts (values : List String) : Json :=
  .list (values.map .text)

def optionalText : Option String → Json
  | some value => .text value
  | none => .null

theorem lookup_insertField_self (key : String) (value : Json) (fields : List (String × Json)) :
    (insertField key value fields).lookup key = some value := by
  induction fields with
  | nil => simp [insertField]
  | cons field rest ih =>
      obtain ⟨first, content⟩ := field
      unfold insertField
      split
      · simp
      · split
        · simp
        · next hne => simpa [List.lookup_cons, beq_false_of_ne hne] using ih

theorem lookup_insertField_of_ne {key other : String} (value : Json)
    (fields : List (String × Json)) (h : other ≠ key) :
    (insertField key value fields).lookup other = fields.lookup other := by
  induction fields with
  | nil => simp [insertField, List.lookup_cons, beq_false_of_ne h]
  | cons field rest ih =>
      obtain ⟨first, content⟩ := field
      unfold insertField
      split
      · simp [List.lookup_cons, beq_false_of_ne h]
      · split
        · next heq =>
            have hne : other ≠ first := fun e => h (e.trans heq.symm)
            simp [List.lookup_cons, beq_false_of_ne h, beq_false_of_ne hne]
        · simp [List.lookup_cons, ih]

end Json

end ContractDictionary

/-! ## Written values -/

namespace ContractDictionary.Json

/-- Reals keep a point or an exponent, so that they are told from integers. -/
def realLayout : NumberLayout where
  tie := .even
  positionalFrom := -5
  exponentialFrom := 16
  integerEnd := ".0"
  exponentMark := "e"
  exponentSign := "+"
  infinity := "null"
  notANumber := "null"

def hexDigits (n : Nat) : List Char :=
  let digits := Nat.toDigits 16 n
  List.replicate (4 - digits.length) '0' ++ digits

def writeChar (c : Char) : List Char :=
  match c with
  | '"' => ['\\', '"']
  | '\\' => ['\\', '\\']
  | '\n' => ['\\', 'n']
  | '\r' => ['\\', 'r']
  | '\t' => ['\\', 't']
  | c => if c.toNat < 0x20 then ['\\', 'u'] ++ hexDigits c.toNat else [c]

def writeText (text : String) : String :=
  "\"" ++ String.ofList (text.toList.flatMap writeChar) ++ "\""

mutual

def write : Json → String
  | .null => "null"
  | .bool value => if value then "true" else "false"
  | .integer value => toString value
  | .real value => realLayout.text value
  | .text value => writeText value
  | .list items => "[" ++ String.intercalate "," (writeItems items) ++ "]"
  | .record fields => "\x7b" ++ String.intercalate "," (writeFields fields) ++ "\x7d"

def writeItems : List Json → List String
  | [] => []
  | item :: rest => write item :: writeItems rest

def writeFields : List (String × Json) → List String
  | [] => []
  | (key, value) :: rest => (writeText key ++ ":" ++ write value) :: writeFields rest

end

/-- The parts of a written number, the digits in reading order. -/
structure Numeral where
  negative : Bool := false
  whole : List Char := []
  fraction : List Char := []
  exponentNegative : Bool := false
  exponent : List Char := []
  /-- A point or an exponent mark was written. -/
  isReal : Bool := false

def wordCount : Nat := powerOfTwo 64

/-- Leading digits that fit into a word, and the count of digits that follow them. -/
structure Leading where
  significand : Nat
  dropped : Nat

/-- Take in one more digit, as part of the significand as long as none was dropped. -/
def Leading.push (leading : Leading) (c : Char) : Leading :=
  let next := 10 * leading.significand + (c.toNat - '0'.toNat)
  if leading.dropped = 0 ∧ next < wordCount then ⟨next, 0⟩
  else ⟨leading.significand, leading.dropped + 1⟩

def Leading.ofDigits (start : Nat) (digits : List Char) : Leading :=
  digits.foldl Leading.push ⟨start, 0⟩

/--
The size of `number · 10 ^ exponent`, scaled by at most `10 ^ 308` at a time; `none` if it is
beyond the greatest number.
-/
def scaleSize? : Nat → Binary64 → Int → Option Binary64
  | 0, number, _ => some number
  | fuel + 1, number, exponent =>
      if exponent.natAbs ≤ 308 then
        if 0 ≤ exponent then
          let product := number.timesPowerOfTen exponent.natAbs
          if product.isFinite then some product else none
        else
          some (number.overPowerOfTen exponent.natAbs)
      else if number = .zero then some number
      else if 0 ≤ exponent then none
      else scaleSize? fuel (number.overPowerOfTen 308) (exponent + 308)

def greatestWrittenExponent : Nat := 2147483647

namespace Numeral

def signed (numeral : Numeral) (size : Binary64) : Json :=
  .real (if numeral.negative then size.negate else size)

/-- The value as a real number; `none` if it is out of range. -/
def real? (numeral : Numeral) : Option Json :=
  let whole := Leading.ofDigits 0 numeral.whole
  let all := Leading.ofDigits whole.significand numeral.fraction
  let kept := numeral.fraction.length - all.dropped
  let written := digitsValue 0 numeral.exponent
  if greatestWrittenExponent < written then
    if all.significand ≠ 0 ∧ !numeral.exponentNegative then none
    else some (numeral.signed .zero)
  else
    let power : Int := if numeral.exponentNegative then -written else written
    let exponent : Int := whole.dropped - kept + power
    (scaleSize? (exponent.natAbs + 1) (.ofNat all.significand) exponent).map numeral.signed

def value? (numeral : Numeral) : Option Json :=
  let size := digitsValue 0 numeral.whole
  if numeral.isReal ∨ wordCount ≤ size then numeral.real?
  else if !numeral.negative then some (.integer size)
  else if size = 0 ∨ wordCount < 2 * size then some (.real (Binary64.ofNat size).negate)
  else some (.integer (-size))

end Numeral

end ContractDictionary.Json
