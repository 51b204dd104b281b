/-!
# Binary numbers of double precision

The numbers `± significand · 2 ^ exponent` with a significand below `2 ^ 53`, infinities and
one not-a-number.  Every operation works on exact integers and rounds once, to the nearest
number and among two nearest ones to the even significand.  A number is written as the shortest
decimal that rounds to it: for each count of digits only its two neighbours on that decimal grid
have to be looked at.
-/

namespace ContractDictionary

def powerOfTwo (n : Nat) : Nat := Nat.pow 2 n

def powerOfTen (n : Nat) : Nat := Nat.pow 10 n

/-- A floating-point number of double precision. -/
inductive Binary64 where
  | finite (negative : Bool) (significand : Nat) (exponent : Int)
  | infinite (negative : Bool)
  | nan
  deriving DecidableEq, Repr

namespace Binary64

def leastExponent : Int := -1074

def greatestExponent : Int := 971

def leastNormal : Nat := powerOfTwo 52

def signedZero (negative : Bool) : Binary64 :=
  .finite negative 0 leastExponent

def zero : Binary64 :=
  signedZero false

/-- The number is neither infinite nor not-a-number. -/
def isFinite : Binary64 → Bool
  | .finite .. => true
  | _ => false

def negate : Binary64 → Binary64
  | .finite negative significand exponent => .finite (!negative) significand exponent
  | .infinite negative => .infinite (!negative)
  | .nan => .nan

def roundHalfEven (numerator denominator : Nat) : Nat :=
  let quotient := numerator / denominator
  let remainder := numerator % denominator
  if 2 * remainder < denominator then quotient
  else if denominator < 2 * remainder then quotient + 1
  else quotient + quotient % 2

def binade (numerator denominator : Nat) : Int :=
  let estimate : Int := (numerator.log2 : Int) - denominator.log2
  if denominator * powerOfTwo estimate.toNat ≤ numerator * powerOfTwo (-estimate).toNat then
    estimate
  else
    estimate - 1

def ofRatio (negative : Bool) (numerator denominator : Nat) : Binary64 :=
  if numerator = 0 then signedZero negative
  else
    let exponent := max (binade numerator denominator - 52) leastExponent
    let significand :=
      roundHalfEven (numerator * powerOfTwo (-exponent).toNat)
        (denominator * powerOfTwo exponent.toNat)
    let (significand, exponent) :=
      if significand = 2 * leastNormal then (leastNormal, exponent + 1)
      else (significand, exponent)
    if greatestExponent < exponent then .infinite negative
    else .finite negative significand exponent

def ofDecimal (negative : Bool) (digits : Nat) (exponent : Int) : Binary64 :=
  if digits = 0 then signedZero negative
  else if 400 < exponent then .infinite negative
  else if exponent + digits.log2 < -1400 then signedZero negative
  else ofRatio negative (digits * powerOfTen exponent.toNat) (powerOfTen (-exponent).toNat)

def ofNat (n : Nat) : Binary64 :=
  ofRatio false n 1

/-- The product of the number's size with `10 ^ power`, itself rounded first. -/
def timesPowerOfTen (number : Binary64) (power : Nat) : Binary64 :=
  match number, ofNat (powerOfTen power) with
  | .finite negative m e, .finite _ m' e' =>
      let exponent := e + e'
      ofRatio negative (m * m' * powerOfTwo exponent.toNat) (powerOfTwo (-exponent).toNat)
  | other, _ => other

/-- The quotient of the number's size by `10 ^ power`, itself rounded first. -/
def overPowerOfTen (number : Binary64) (power : Nat) : Binary64 :=
  match number, ofNat (powerOfTen power) with
  | .finite negative m e, .finite _ m' e' =>
      let exponent := e - e'
      ofRatio negative (m * powerOfTwo exponent.toNat) (m' * powerOfTwo (-exponent).toNat)
  | other, _ => other

end Binary64

/-! ## Written numbers -/

structure Decimal where
  digits : Nat
  exponent : Int
  deriving DecidableEq, Repr

/-- Which one of two equally near decimals is taken. -/
inductive TieRule where
  /-- The one whose last digit is even. -/
  | even
  /-- The one farther from zero. -/
  | greater
  deriving DecidableEq, Repr

def TieRule.nearer (tie : TieRule) (below toBelow toAbove : Nat) : Nat :=
  if toBelow < toAbove then below
  else if toAbove < toBelow then below + 1
  else match tie with
    | .even => below + below % 2
    | .greater => below + 1

/-- A positive ratio with the bounds of the interval that rounds to it, over one denominator. -/
structure RoundingInterval where
  lower : Nat
  value : Nat
  upper : Nat
  denominator : Nat
  closed : Bool

namespace RoundingInterval

def ofParts (significand : Nat) (exponent : Int) : RoundingInterval :=
  let unit := powerOfTwo exponent.toNat
  let isLeastOfBinade := significand = Binary64.leastNormal && Binary64.leastExponent < exponent
  { lower := (4 * significand - if isLeastOfBinade then 1 else 2) * unit
    value := 4 * significand * unit
    upper := (4 * significand + 2) * unit
    denominator := 4 * powerOfTwo (-exponent).toNat
    closed := significand % 2 = 0 }

/-- The greatest power of ten that is at most the value. -/
def decade (interval : RoundingInterval) : Int :=
  if interval.denominator ≤ interval.value then
    (Nat.toDigits 10 (interval.value / interval.denominator)).length - 1
  else
    -((Nat.toDigits 10 ((interval.denominator - 1) / interval.value)).length : Int)

def contains (interval : RoundingInterval) (digits : Nat) (exponent : Int) : Bool :=
  let point := digits * powerOfTen exponent.toNat * interval.denominator
  let scale := powerOfTen (-exponent).toNat
  if interval.closed then interval.lower * scale ≤ point && point ≤ interval.upper * scale
  else interval.lower * scale < point && point < interval.upper * scale

/-- The nearer of the value's two neighbours on the grid `10 ^ exponent` that rounds to it. -/
def neighbour? (tie : TieRule) (interval : RoundingInterval) (exponent : Int) : Option Nat :=
  let numerator := interval.value * powerOfTen (-exponent).toNat
  let denominator := interval.denominator * powerOfTen exponent.toNat
  let below := numerator / denominator
  let above := below + 1
  match interval.contains below exponent, interval.contains above exponent with
  | true, true =>
      let toBelow := numerator - below * denominator
      let toAbove := above * denominator - numerator
      some (tie.nearer below toBelow toAbove)
  | true, false => some below
  | false, true => some above
  | false, false => none

end RoundingInterval

/-- The same decimal without trailing zeros, of which at most `fuel` are removed. -/
def Decimal.strip : Nat → Decimal → Decimal
  | 0, decimal => decimal
  | fuel + 1, decimal =>
      if decimal.digits % 10 = 0 then
        strip fuel ⟨decimal.digits / 10, decimal.exponent + 1⟩
      else
        decimal

def Decimal.shortest (tie : TieRule) (significand : Nat) (exponent : Int) : Decimal :=
  let interval := RoundingInterval.ofParts significand exponent
  let first := interval.decade
  let found := (List.range 17).findSome? fun (count : Nat) =>
    (interval.neighbour? tie (first - count)).map fun digits => (⟨digits, first - count⟩ : Decimal)
  (found.getD ⟨0, 0⟩).strip 20

/-- How a decimal is laid out as text. -/
structure NumberLayout where
  /-- The choice between two shortest decimals that are equally near. -/
  tie : TieRule
  /-- Numbers from `10 ^ positionalFrom` on are written without an exponent. -/
  positionalFrom : Int
  /-- Numbers from `10 ^ exponentialFrom` on are written with an exponent. -/
  exponentialFrom : Int
  /-- What follows an integer that is written without an exponent. -/
  integerEnd : String
  /-- What stands before an exponent. -/
  exponentMark : String
  /-- What follows the mark if the exponent is not negative. -/
  exponentSign : String
  infinity : String
  notANumber : String

def NumberLayout.positional (layout : NumberLayout) (digits : List Char) (exponent : Int) :
    List Char :=
  let point := digits.length + exponent
  if 0 ≤ exponent then
    digits ++ List.replicate exponent.toNat '0' ++ layout.integerEnd.toList
  else if 0 < point then
    digits.take point.toNat ++ ['.'] ++ digits.drop point.toNat
  else
    ['0', '.'] ++ List.replicate (-point).toNat '0' ++ digits

def NumberLayout.exponential (layout : NumberLayout) (digits : List Char) (exponent : Int) :
    List Char :=
  let power := digits.length + exponent - 1
  let fraction := if digits.length = 1 then [] else '.' :: digits.drop 1
  let sign := if power < 0 then [] else layout.exponentSign.toList
  digits.take 1 ++ fraction ++ layout.exponentMark.toList ++ sign ++ (toString power).toList

def NumberLayout.text (layout : NumberLayout) : Binary64 → String
  | .nan => layout.notANumber
  | .infinite negative => (if negative then "-" else "") ++ layout.infinity
  | .finite negative significand exponent =>
      let sign := if negative then "-" else ""
      if significand = 0 then sign ++ "0" ++ layout.integerEnd
      else
        let decimal := Decimal.shortest layout.tie significand exponent
        let digits := Nat.toDigits 10 decimal.digits
        let power := digits.length + decimal.exponent - 1
        let body :=
          if layout.positionalFrom ≤ power ∧ power < layout.exponentialFrom then
            layout.positional digits decimal.exponent
          else
            layout.exponential digits decimal.exponent
        sign ++ String.ofList body

/-- The number that ASCII digits denote after the digits of `start`. -/
def digitsValue (start : Nat) (digits : List Char) : Nat :=
  digits.foldl (fun n c => 10 * n + (c.toNat - '0'.toNat)) start

def takeSign : List Char → Bool × List Char
  | '-' :: rest => (true, rest)
  | '+' :: rest => (false, rest)
  | cs => (false, cs)

def integer? (cs : List Char) : Option Int :=
  let (negative, digits) := takeSign cs
  if digits.isEmpty || !digits.all Char.isDigit then none
  else
    let size := digitsValue 0 digits
    some (if negative then -size else size)

/-- The exponent that follows the digits, zero if nothing does. -/
def exponent? : List Char → Option Int
  | [] => some 0
  | c :: rest => if c = 'e' ∨ c = 'E' then integer? rest else none

def asciiLower (cs : List Char) : List Char :=
  cs.map Char.toLower

namespace Binary64

def ofDigits? (negative : Bool) (cs : List Char) : Option Binary64 :=
  let whole := cs.takeWhile Char.isDigit
  let afterWhole := cs.dropWhile Char.isDigit
  let (fraction, rest) :=
    match afterWhole with
    | '.' :: r => (r.takeWhile Char.isDigit, r.dropWhile Char.isDigit)
    | r => ([], r)
  if whole.isEmpty && fraction.isEmpty then none
  else
    (exponent? rest).map fun exponent =>
      ofDecimal negative (digitsValue 0 (whole ++ fraction)) (exponent - fraction.length)

def ofText? (text : String) : Option Binary64 :=
  let (negative, body) := takeSign text.toList
  let name := String.ofList (asciiLower body)
  if name = "nan" then some .nan
  else if name = "inf" ∨ name = "infinity" then some (.infinite negative)
  else ofDigits? negative body

end Binary64

end ContractDictionary
