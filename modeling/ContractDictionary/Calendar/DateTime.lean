import ContractDictionary.Number.Binary64
import ContractDictionary.Text.Basic

/-!
# Dates and times

Local dates of the Gregorian calendar, extended to years before its introduction, with times
of day to the nanosecond.  A minute may have a leap second, its second of number 60.

A date and time is written as an Internet timestamp with an offset, of which the local time
is kept, or without an offset and more freely: the numbers may have fewer digits and white
space before them.  A bare date stands for its beginning.
-/

namespace ContractDictionary

structure Date where
  year : Int
  month : Nat
  day : Nat
  deriving DecidableEq, Repr

structure TimeOfDay where
  hour : Nat
  minute : Nat
  second : Nat
  nanosecond : Nat
  deriving DecidableEq, Repr

structure DateTime where
  date : Date
  time : TimeOfDay
  deriving DecidableEq, Repr

namespace Date

def firstYear : Int := -262143

def lastYear : Int := 262142

def isLeapYear (year : Int) : Bool :=
  year % 4 = 0 && (year % 100 ≠ 0 || year % 400 = 0)

def daysOfMonth (year : Int) (month : Nat) : Nat :=
  match month with
  | 2 => if isLeapYear year then 29 else 28
  | 4 | 6 | 9 | 11 => 30
  | _ => 31

def isValid (date : Date) : Bool :=
  firstYear ≤ date.year && date.year ≤ lastYear && 1 ≤ date.month && date.month ≤ 12 &&
    1 ≤ date.day && date.day ≤ daysOfMonth date.year date.month

def ofParts? (year : Int) (month day : Nat) : Option Date :=
  let date : Date := ⟨year, month, day⟩
  if date.isValid then some date else none

end Date

namespace TimeOfDay

def midnight : TimeOfDay := ⟨0, 0, 0, 0⟩

/-- The time occurs on some day; any minute may have a leap second. -/
def isValid (time : TimeOfDay) : Bool :=
  time.hour ≤ 23 && time.minute ≤ 59 && time.second ≤ 60 && time.nanosecond < 1000000000

def ofParts? (hour minute second nanosecond : Nat) : Option TimeOfDay :=
  let time : TimeOfDay := ⟨hour, minute, second, nanosecond⟩
  if time.isValid then some time else none

end TimeOfDay

def paddedDigits (width n : Nat) : List Char :=
  let digits := Nat.toDigits 10 n
  List.replicate (width - digits.length) '0' ++ digits

/-- A year in four digits or, outside of `0000` to `9999`, a sign and four digits or more. -/
def yearChars (year : Int) : List Char :=
  let digits := paddedDigits 4 year.natAbs
  if year < 0 then '-' :: digits
  else if 9999 < year then '+' :: digits
  else digits

def Date.chars (date : Date) : List Char :=
  yearChars date.year ++ ['-'] ++ paddedDigits 2 date.month ++ ['-'] ++ paddedDigits 2 date.day

/-- Year, month and day joined by hyphens. -/
def Date.text (date : Date) : String :=
  String.ofList date.chars

/-- A fraction of a second in three, six or nine digits, or nothing. -/
def fractionChars (nanosecond : Nat) : List Char :=
  if nanosecond = 0 then []
  else if nanosecond % 1000000 = 0 then '.' :: paddedDigits 3 (nanosecond / 1000000)
  else if nanosecond % 1000 = 0 then '.' :: paddedDigits 6 (nanosecond / 1000)
  else '.' :: paddedDigits 9 nanosecond

/-- Hour, minute and second joined by colons, with the fraction. -/
def TimeOfDay.chars (time : TimeOfDay) : List Char :=
  paddedDigits 2 time.hour ++ [':'] ++ paddedDigits 2 time.minute ++ [':'] ++
    paddedDigits 2 time.second ++ fractionChars time.nanosecond

def DateTime.text (moment : DateTime) : String :=
  String.ofList (moment.date.chars ++ ['T'] ++ moment.time.chars)

/-! ## Reading -/

abbrev Step (α : Type) := List Char → Option (α × List Char)

def takeChar (expected : Char) : List Char → Option (List Char)
  | c :: rest => if c = expected then some rest else none
  | [] => none

def takeExactly (count : Nat) : Step Nat := fun cs =>
  let digits := cs.take count
  if digits.length = count ∧ digits.all Char.isDigit then
    some (digitsValue 0 digits, cs.drop count)
  else
    none

def takeUpTo (count : Nat) : Step Nat := fun cs =>
  let digits := (cs.take count).takeWhile Char.isDigit
  if digits.isEmpty then none
  else some (digitsValue 0 digits, cs.drop digits.length)

def takeDigits : Step Nat := fun cs =>
  takeUpTo cs.length cs

/-- Take a point and digits as nanoseconds, of which nine digits count; or nothing. -/
def takeFraction : Step Nat
  | '.' :: cs =>
      let digits := cs.takeWhile Char.isDigit
      if digits.isEmpty then none
      else
        let kept := digits.take 9
        some (digitsValue 0 kept * powerOfTen (9 - kept.length), cs.dropWhile Char.isDigit)
  | cs => some (0, cs)

def takeOffsetSign : List Char → Option (List Char)
  | '+' :: rest => some rest
  | '-' :: rest => some rest
  | '−' :: rest => some rest
  | _ => none

/-- Take an offset from universal time of less than a day. -/
def takeOffset : List Char → Option (List Char)
  | 'Z' :: rest => some rest
  | 'z' :: rest => some rest
  | cs => do
      let cs ← takeOffsetSign cs
      let (hours, cs) ← takeExactly 2 cs
      let cs ← takeChar ':' cs
      let (minutes, cs) ← takeExactly 2 cs
      if minutes ≤ 59 ∧ hours ≤ 23 then some cs else none

def takeTimeMark : List Char → Option (List Char)
  | 'T' :: rest => some rest
  | 't' :: rest => some rest
  | ' ' :: rest => some rest
  | _ => none

def DateTime.ofParts? (year : Int) (month day hour minute second nanosecond : Nat) :
    Option DateTime := do
  let date ← Date.ofParts? year month day
  let time ← TimeOfDay.ofParts? hour minute second nanosecond
  return ⟨date, time⟩

def DateTime.ofTimestamp? (cs : List Char) : Option DateTime := do
  let (year, cs) ← takeExactly 4 cs
  let cs ← takeChar '-' cs
  let (month, cs) ← takeExactly 2 cs
  let cs ← takeChar '-' cs
  let (day, cs) ← takeExactly 2 cs
  let cs ← takeTimeMark cs
  let (hour, cs) ← takeExactly 2 cs
  let cs ← takeChar ':' cs
  let (minute, cs) ← takeExactly 2 cs
  let cs ← takeChar ':' cs
  let (second, cs) ← takeExactly 2 cs
  let (nanosecond, cs) ← takeFraction cs
  let cs ← takeOffset cs
  if cs.isEmpty then DateTime.ofParts? year month day hour minute second nanosecond else none

def takeNumber : Step Nat := fun cs =>
  takeUpTo 2 (Text.trimLeft cs)

/-- Take white space and a year: up to four digits, or any number of digits after a sign. -/
def takeYear : Step Int := fun cs =>
  match Text.trimLeft cs with
  | '-' :: rest => (takeDigits rest).map fun (year, rest) => (-year, rest)
  | '+' :: rest => (takeDigits rest).map fun (year, rest) => (year, rest)
  | cs => (takeUpTo 4 cs).map fun (year, rest) => (year, rest)

def takeDate : Step (Int × Nat × Nat) := fun cs => do
  let (year, cs) ← takeYear cs
  let cs ← takeChar '-' cs
  let (month, cs) ← takeNumber cs
  let cs ← takeChar '-' cs
  let (day, cs) ← takeNumber cs
  return ((year, month, day), cs)

/-- The date and time with the mark between them that `takeMark` takes. -/
def DateTime.ofLocal? (takeMark : List Char → Option (List Char)) (cs : List Char) :
    Option DateTime := do
  let ((year, month, day), cs) ← takeDate cs
  let cs ← takeMark cs
  let (hour, cs) ← takeNumber cs
  let cs ← takeChar ':' cs
  let (minute, cs) ← takeNumber cs
  let cs ← takeChar ':' cs
  let (second, cs) ← takeNumber cs
  let (nanosecond, cs) ← takeFraction cs
  if cs.isEmpty then DateTime.ofParts? year month day hour minute second nanosecond else none

def DateTime.ofBareDate? (cs : List Char) : Option DateTime := do
  let ((year, month, day), cs) ← takeDate cs
  if cs.isEmpty then (Date.ofParts? year month day).map (⟨·, .midnight⟩) else none

def DateTime.ofText? (text : String) : Option DateTime :=
  let cs := text.toList
  DateTime.ofTimestamp? cs
    |>.or (DateTime.ofLocal? (takeChar 'T') cs)
    |>.or (DateTime.ofLocal? (fun cs => some (Text.trimLeft cs)) cs)
    |>.or (DateTime.ofBareDate? cs)

end ContractDictionary
