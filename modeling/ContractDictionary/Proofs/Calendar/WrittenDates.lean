import ContractDictionary.Generation.Context
import ContractDictionary.Proofs.Compile.Contracts
import ContractDictionary.Proofs.Document.Entries
import ContractDictionary.Proofs.Text.Case
import Mathlib.Data.List.Induction
import Mathlib.Data.List.TakeWhile

/-!
# Dates and times as they are written

A date and a time of day are joined by a `T` or a blank, with or without an offset, and a date may
stand alone.  Texts are read in four ways that are tried one after the other.  All ways of writing
a date and time are read as that date and time, since an offset is what tells the first way from
the others, and what stands behind the date the others from each other.  So a document may write
the date of its version in any of these ways.
-/

namespace ContractDictionary

/-- The characters are the digits of a number in a width, zeros in front included. -/
structure AreDigits (width n : Nat) (cs : List Char) : Prop where
  length : cs.length = width
  isDigit : ∀ c ∈ cs, c.isDigit = true
  value : digitsValue 0 cs = n

theorem areDigits_iff {width n : Nat} {cs : List Char} : AreDigits width n cs ↔
    cs.length = width ∧ cs.all Char.isDigit = true ∧ digitsValue 0 cs = n := by
  rw [List.all_eq_true]
  exact ⟨fun digits => ⟨digits.length, digits.isDigit, digits.value⟩,
    fun ⟨length, isDigit, value⟩ => ⟨length, isDigit, value⟩⟩

instance (width n : Nat) (cs : List Char) : Decidable (AreDigits width n cs) :=
  decidable_of_iff _ areDigits_iff.symm

theorem isBlank_of_isDigit {c : Char} (digit : c.isDigit = true) : Text.isBlank c = false := by
  have bounds := Text.toNat_of_isDigit digit
  rw [show '0'.toNat = 0x30 from rfl] at bounds
  simp only [Text.isBlank, Bool.or_eq_false_iff, Bool.and_eq_false_iff, decide_eq_false_iff_not]
  omega

theorem digitsValue_append (start : Nat) (front back : List Char) :
    digitsValue start (front ++ back) = digitsValue (digitsValue start front) back :=
  List.foldl_append

theorem digitsValue_concat (start : Nat) (cs : List Char) (c : Char) :
    digitsValue start (cs ++ [c]) = 10 * digitsValue start cs + (c.toNat - '0'.toNat) :=
  digitsValue_append start cs [c]

theorem eq_of_digitsValue_eq {cs ds : List Char} (length : cs.length = ds.length)
    (digits : ∀ c ∈ cs, c.isDigit = true) (others : ∀ d ∈ ds, d.isDigit = true)
    (same : digitsValue 0 cs = digitsValue 0 ds) : cs = ds := by
  induction cs using List.reverseRecOn generalizing ds with
  | nil => exact (List.length_eq_zero_iff.1 length.symm).symm
  | append_singleton cs c ih =>
      obtain rfl | ⟨ds, d, rfl⟩ := List.eq_nil_or_concat ds
      · simp at length
      · rw [List.concat_eq_append] at length others same ⊢
        have hc := Text.toNat_of_isDigit (digits c (by simp))
        have hd := Text.toNat_of_isDigit (others d (by simp))
        rw [digitsValue_concat, digitsValue_concat] at same
        have front : cs = ds := ih (by simpa using length)
          (fun x member => digits x (List.mem_append_left _ member))
          (fun x member => others x (List.mem_append_left _ member)) (by omega)
        have last : c = d := Char.toNat_inj.1 (by omega)
        rw [front, last]

theorem powerOfTen_succ (n : Nat) : powerOfTen (n + 1) = powerOfTen n * 10 := rfl

theorem digitsValue_lt {cs : List Char} (digits : ∀ c ∈ cs, c.isDigit = true) :
    digitsValue 0 cs < powerOfTen cs.length := by
  induction cs using List.reverseRecOn with
  | nil => exact Nat.one_pos
  | append_singleton cs c ih =>
      have front := ih fun x member => digits x (List.mem_append_left _ member)
      have hc := Text.toNat_of_isDigit (digits c (by simp))
      rw [digitsValue_concat, List.length_append, List.length_singleton, powerOfTen_succ]
      omega

theorem digitsValue_zeros (count start : Nat) :
    digitsValue start (List.replicate count '0') = powerOfTen count * start :=
  Nat.ofDigitChars_eq_foldl.symm.trans Nat.ofDigitChars_replicate_zero

/-- A number that has digits in a width is written out with these. -/
theorem areDigits_paddedDigits {width n : Nat} (wide : 0 < width) (bounded : n < powerOfTen width) :
    AreDigits width n (paddedDigits width n) where
  length := by
    have fits := (Nat.length_toDigits_le_iff (by decide : 1 < 10) wide).2 bounded
    rw [paddedDigits, List.length_append, List.length_replicate]
    omega
  isDigit c member := by
    rcases List.mem_append.1 member with zero | digit
    · rw [(List.mem_replicate.1 zero).2]
      rfl
    · exact Nat.isDigit_of_mem_toDigits (by decide) (by decide) digit
  value := by
    rw [paddedDigits, digitsValue_append, digitsValue_zeros, Nat.mul_zero]
    exact Nat.ofDigitChars_eq_foldl.symm.trans Nat.ofDigitChars_ten_toDigits

namespace AreDigits

variable {width n : Nat} {cs : List Char}

theorem lt (digits : AreDigits width n cs) : n < powerOfTen width := by
  rw [← digits.value, ← digits.length]
  exact digitsValue_lt digits.isDigit

/-- What is read as a number is written out again as it is. -/
theorem paddedDigits_eq (digits : AreDigits width n cs) (wide : 0 < width) :
    paddedDigits width n = cs := by
  have padded := areDigits_paddedDigits wide digits.lt
  exact eq_of_digitsValue_eq (padded.length.trans digits.length.symm) padded.isDigit digits.isDigit
    (padded.value.trans digits.value.symm)

theorem takeExactly_append (digits : AreDigits width n cs) (rest : List Char) :
    takeExactly width (cs ++ rest) = some (n, rest) := by
  rw [takeExactly, List.take_left' digits.length, List.drop_left' digits.length,
    if_pos ⟨digits.length, List.all_eq_true.2 digits.isDigit⟩, digits.value]

theorem takeExactly_eq (digits : AreDigits width n cs) : takeExactly width cs = some (n, []) := by
  have read := digits.takeExactly_append []
  rwa [List.append_nil] at read

theorem takeUpTo_append (digits : AreDigits width n cs) (wide : 0 < width) (rest : List Char) :
    takeUpTo width (cs ++ rest) = some (n, rest) := by
  have all : cs.takeWhile Char.isDigit = cs := List.takeWhile_eq_self_iff.2 digits.isDigit
  have given : cs.isEmpty = false := by
    rw [List.isEmpty_eq_false_iff_exists_mem, ← List.length_pos_iff_exists_mem, digits.length]
    exact wide
  rw [takeUpTo, List.take_left' digits.length, all, given, if_neg Bool.false_ne_true,
    List.drop_left, digits.value]

theorem exists_cons (digits : AreDigits width n cs) (wide : 0 < width) :
    ∃ first others, cs = first :: others ∧ first.isDigit = true := by
  cases cs with
  | nil => exact absurd digits.length wide.ne
  | cons first others => exact ⟨first, others, rfl, digits.isDigit first List.mem_cons_self⟩

/-- There is no white space before digits. -/
theorem trimLeft_append (digits : AreDigits width n cs) (wide : 0 < width) (rest : List Char) :
    Text.trimLeft (cs ++ rest) = cs ++ rest := by
  obtain ⟨first, others, rfl, digit⟩ := digits.exists_cons wide
  refine List.dropWhile_cons_of_neg ?_
  rw [isBlank_of_isDigit digit]
  exact Bool.false_ne_true

end AreDigits

/-! ## Ways of writing -/

/-- Year, month and day with hyphens between them. -/
inductive Date.IsWritten (date : Date) : List Char → Prop where
  | digits {year : Nat} {years months days : List Char} (ofYear : date.year = year)
      (yearDigits : AreDigits 4 year years) (monthDigits : AreDigits 2 date.month months)
      (dayDigits : AreDigits 2 date.day days) :
      IsWritten date (years ++ '-' :: (months ++ '-' :: days))

/-- Nothing, or a point and up to nine digits, which zeros fill up to nanoseconds. -/
inductive IsFraction : Nat → List Char → Prop where
  | nothing : IsFraction 0 []
  | point {nanosecond : Nat} {digits : List Char} (given : digits ≠ [])
      (filled : AreDigits 9 nanosecond (digits ++ List.replicate (9 - digits.length) '0')) :
      IsFraction nanosecond ('.' :: digits)

/-- Hour, minute and second with colons between them, and a fraction. -/
inductive TimeOfDay.IsWritten (time : TimeOfDay) : List Char → Prop where
  | digits {hours minutes seconds fraction : List Char} (hourDigits : AreDigits 2 time.hour hours)
      (minuteDigits : AreDigits 2 time.minute minutes)
      (secondDigits : AreDigits 2 time.second seconds)
      (ofSecond : IsFraction time.nanosecond fraction) :
      IsWritten time (hours ++ ':' :: (minutes ++ ':' :: (seconds ++ fraction)))

/-- A letter for universal time, or hours and minutes ahead of it or behind. -/
inductive IsOffset : List Char → Prop where
  | universal {letter : Char} (marked : letter = 'Z' ∨ letter = 'z') : IsOffset [letter]
  | apart {sign : Char} {hour minute : Nat} {hours minutes : List Char}
      (signed : sign = '+' ∨ sign = '-') (hourDigits : AreDigits 2 hour hours)
      (hour_le : hour ≤ 23) (minuteDigits : AreDigits 2 minute minutes) (minute_le : minute ≤ 59) :
      IsOffset (sign :: (hours ++ ':' :: minutes))

inductive DateTime.IsWritten (moment : DateTime) : List Char → Prop where
  | bare {date : List Char} (ofDate : moment.date.IsWritten date)
      (midnight : moment.time = .midnight) : IsWritten moment date
  | joined {mark : Char} {date time : List Char} (marked : mark = 'T' ∨ mark = ' ')
      (ofDate : moment.date.IsWritten date) (ofDay : moment.time.IsWritten time) :
      IsWritten moment (date ++ mark :: time)
  | withOffset {mark : Char} {date time offset : List Char} (marked : mark = 'T' ∨ mark = ' ')
      (ofDate : moment.date.IsWritten date) (ofDay : moment.time.IsWritten time)
      (apart : IsOffset offset) : IsWritten moment (date ++ mark :: (time ++ offset))

def EndsFraction (rest : List Char) : Prop :=
  ∀ c ∈ rest.head?, c ≠ '.' ∧ c.isDigit = false

theorem endsFraction_nil : EndsFraction [] := nofun

theorem IsOffset.endsFraction {offset : List Char} (apart : IsOffset offset) :
    EndsFraction offset := by
  intro c first
  cases apart with
  | universal marked =>
      cases first
      rcases marked with rfl | rfl <;> decide
  | apart signed =>
      cases first
      rcases signed with rfl | rfl <;> decide

theorem takeChar_cons (expected : Char) (rest : List Char) :
    takeChar expected (expected :: rest) = some rest :=
  if_pos rfl

theorem takeWhile_isDigit_append {digits rest : List Char}
    (all : ∀ c ∈ digits, c.isDigit = true) (ends : EndsFraction rest) :
    (digits ++ rest).takeWhile Char.isDigit = digits ∧
      (digits ++ rest).dropWhile Char.isDigit = rest := by
  rw [List.takeWhile_append_of_pos all, List.dropWhile_append_of_pos all]
  cases rest with
  | nil => exact ⟨List.append_nil _, rfl⟩
  | cons c others =>
      have other : ¬c.isDigit = true := by simp [(ends c rfl).2]
      rw [List.takeWhile_cons_of_neg other, List.dropWhile_cons_of_neg other]
      exact ⟨List.append_nil _, rfl⟩

theorem IsFraction.takeFraction_append {nanosecond : Nat} {fraction rest : List Char}
    (written : IsFraction nanosecond fraction) (ends : EndsFraction rest) :
    takeFraction (fraction ++ rest) = some (nanosecond, rest) := by
  cases written with
  | nothing =>
      rw [List.nil_append, takeFraction]
      rintro others rfl
      exact (ends '.' rfl).1 rfl
  | @point _ digits given filled =>
      have isDigit : ∀ c ∈ digits, c.isDigit = true := fun c member =>
        filled.isDigit c (List.mem_append_left _ member)
      have short : digits.length ≤ 9 := by
        rw [← filled.length, List.length_append]
        exact Nat.le_add_right _ _
      have value : digitsValue 0 digits * powerOfTen (9 - digits.length) = nanosecond := by
        rw [← filled.value, digitsValue_append, digitsValue_zeros, Nat.mul_comm]
      obtain ⟨front, back⟩ := takeWhile_isDigit_append isDigit ends
      rw [List.cons_append, takeFraction]
      simp only [front, back, List.isEmpty_eq_false_iff.2 given, Bool.false_eq_true, if_false,
        List.take_of_length_le short, value]

theorem AreDigits.takeNumber_append {n : Nat} {cs : List Char} (digits : AreDigits 2 n cs)
    (rest : List Char) : takeNumber (cs ++ rest) = some (n, rest) := by
  rw [takeNumber, digits.trimLeft_append (by decide), digits.takeUpTo_append (by decide)]

theorem AreDigits.takeYear_append {n : Nat} {cs : List Char} (digits : AreDigits 4 n cs)
    (rest : List Char) : takeYear (cs ++ rest) = some ((n : Int), rest) := by
  obtain ⟨first, others, rfl, digit⟩ := digits.exists_cons (by decide)
  rw [takeYear, digits.trimLeft_append (by decide), List.cons_append]
  split
  · next same =>
      cases same
      cases digit
  · next same =>
      cases same
      cases digit
  · rw [← List.cons_append, digits.takeUpTo_append (by decide)]
    rfl

/-- Year, month and day are read off a date. -/
theorem Date.IsWritten.takeDate_append {date : Date} {cs : List Char} (written : date.IsWritten cs)
    (rest : List Char) :
    takeDate (cs ++ rest) = some ((date.year, date.month, date.day), rest) := by
  obtain ⟨ofYear, yearDigits, monthDigits, dayDigits⟩ := written
  simp only [List.append_assoc, List.cons_append, takeDate, yearDigits.takeYear_append,
    takeChar_cons, monthDigits.takeNumber_append, dayDigits.takeNumber_append, ofYear,
    Option.bind_eq_bind, Option.bind_some, Option.pure_def]

theorem Date.IsWritten.takeDate_eq {date : Date} {cs : List Char} (written : date.IsWritten cs) :
    takeDate cs = some ((date.year, date.month, date.day), []) := by
  have read := written.takeDate_append []
  rwa [List.append_nil] at read

/-- A date is written out as it has been read. -/
theorem Date.IsWritten.chars_eq {date : Date} {cs : List Char} (written : date.IsWritten cs) :
    date.chars = cs := by
  obtain @⟨year, _, _, _, ofYear, yearDigits, monthDigits, dayDigits⟩ := written
  have small : year < 10000 := yearDigits.lt
  rw [Date.chars, yearChars, ofYear, if_neg (by omega), if_neg (by omega), Int.natAbs_natCast,
    yearDigits.paddedDigits_eq (by decide), monthDigits.paddedDigits_eq (by decide),
    dayDigits.paddedDigits_eq (by decide)]
  simp only [List.append_assoc, List.cons_append, List.nil_append]

theorem daysOfMonth_le (year : Int) (month : Nat) : Date.daysOfMonth year month ≤ 31 := by
  unfold Date.daysOfMonth
  split
  · split <;> decide
  all_goals decide

/-- The dates of the years from 0000 to 9999 can all be written. -/
theorem Date.isWritten_chars {date : Date} (inCalendar : date.isValid = true)
    (early : 0 ≤ date.year) (late : date.year ≤ 9999) : date.IsWritten date.chars := by
  simp only [Date.isValid, Bool.and_eq_true, decide_eq_true_eq] at inCalendar
  obtain ⟨⟨⟨⟨⟨-, -⟩, -⟩, month_le⟩, -⟩, day_le⟩ := inCalendar
  have days := daysOfMonth_le date.year date.month
  have ofYear : date.year = (date.year.natAbs : Int) := by omega
  have written := Date.IsWritten.digits ofYear
    (areDigits_paddedDigits (by decide : 0 < 4) (show date.year.natAbs < 10000 by omega))
    (areDigits_paddedDigits (by decide : 0 < 2) (show date.month < 100 by omega))
    (areDigits_paddedDigits (by decide : 0 < 2) (show date.day < 100 by omega))
  exact written.chars_eq.symm ▸ written

theorem IsOffset.takeOffset_eq {offset : List Char} (apart : IsOffset offset) :
    takeOffset offset = some [] := by
  cases apart with
  | universal marked => rcases marked with rfl | rfl <;> rfl
  | @apart sign hour minute hours minutes signed hourDigits hour_le minuteDigits minute_le =>
      rw [takeOffset]
      · have skipped : takeOffsetSign (sign :: (hours ++ ':' :: minutes)) =
            some (hours ++ ':' :: minutes) := by
          rcases signed with rfl | rfl <;> rfl
        simp only [skipped, hourDigits.takeExactly_append, takeChar_cons,
          minuteDigits.takeExactly_eq, Option.bind_eq_bind, Option.bind_some, minute_le, hour_le,
          and_self, if_true]
      · rintro rest ⟨⟩
        simp at signed
      · rintro rest ⟨⟩
        simp at signed

section

variable {moment : DateTime} {date time rest : List Char} {mark : Char}

/-- The numbers of a date in the calendar and of a time of day make them up. -/
theorem ofParts?_eq (inCalendar : moment.date.isValid = true) (ofDay : moment.time.isValid = true) :
    DateTime.ofParts? moment.date.year moment.date.month moment.date.day moment.time.hour
      moment.time.minute moment.time.second moment.time.nanosecond = some moment := by
  rw [DateTime.ofParts?, Date.ofParts?, TimeOfDay.ofParts?, if_pos inCalendar, if_pos ofDay]
  rfl

/-- What is read as a timestamp is decided by what stands behind the time of day. -/
theorem ofTimestamp?_append (inCalendar : moment.date.isValid = true)
    (onClock : moment.time.isValid = true) (ofDate : moment.date.IsWritten date)
    (marked : mark = 'T' ∨ mark = ' ') (ofDay : moment.time.IsWritten time)
    (ends : EndsFraction rest) :
    DateTime.ofTimestamp? (date ++ mark :: (time ++ rest)) =
      (takeOffset rest).bind fun cs => if cs.isEmpty then some moment else none := by
  rw [← ofParts?_eq inCalendar onClock]
  obtain ⟨ofYear, yearDigits, monthDigits, dayDigits⟩ := ofDate
  obtain ⟨hourDigits, minuteDigits, secondDigits, ofSecond⟩ := ofDay
  have marks (cs : List Char) : takeTimeMark (mark :: cs) = some cs := by
    rcases marked with rfl | rfl <;> rfl
  simp only [DateTime.ofTimestamp?, List.append_assoc, List.cons_append,
    yearDigits.takeExactly_append, monthDigits.takeExactly_append, dayDigits.takeExactly_append,
    marks, hourDigits.takeExactly_append, minuteDigits.takeExactly_append,
    secondDigits.takeExactly_append, ofSecond.takeFraction_append ends, takeChar_cons,
    Option.bind_eq_bind, Option.bind_some, ofYear]

theorem ofTimestamp?_bare (ofDate : moment.date.IsWritten date) :
    DateTime.ofTimestamp? date = none := by
  obtain ⟨ofYear, yearDigits, monthDigits, dayDigits⟩ := ofDate
  simp only [DateTime.ofTimestamp?, yearDigits.takeExactly_append,
    monthDigits.takeExactly_append, dayDigits.takeExactly_eq, takeChar_cons, takeTimeMark,
    Option.bind_eq_bind, Option.bind_some, Option.bind_none]

/-- Without the mark that is looked for behind the date, nothing is read. -/
theorem ofLocal?_of_none {takeMark : List Char → Option (List Char)}
    (ofDate : moment.date.IsWritten date) (unmarked : takeMark rest = none) :
    DateTime.ofLocal? takeMark (date ++ rest) = none := by
  simp only [DateTime.ofLocal?, ofDate.takeDate_append, unmarked, Option.bind_eq_bind,
    Option.bind_some, Option.bind_none]

/-- Where no mark is needed, nothing is read without a time of day. -/
theorem ofLocal?_bare {takeMark : List Char → Option (List Char)}
    (ofDate : moment.date.IsWritten date) (free : takeMark [] = some []) :
    DateTime.ofLocal? takeMark date = none := by
  have noHour : takeNumber [] = none := rfl
  simp only [DateTime.ofLocal?, ofDate.takeDate_eq, free, noHour, Option.bind_eq_bind,
    Option.bind_some, Option.bind_none]

theorem ofLocal?_joined {takeMark : List Char → Option (List Char)}
    (inCalendar : moment.date.isValid = true) (onClock : moment.time.isValid = true)
    (ofDate : moment.date.IsWritten date) (ofDay : moment.time.IsWritten time)
    (marked : takeMark rest = some time) :
    DateTime.ofLocal? takeMark (date ++ rest) = some moment := by
  rw [← ofParts?_eq inCalendar onClock]
  obtain ⟨hourDigits, minuteDigits, secondDigits, ofSecond⟩ := ofDay
  have whole := ofSecond.takeFraction_append endsFraction_nil
  rw [List.append_nil] at whole
  simp only [DateTime.ofLocal?, ofDate.takeDate_append, marked, hourDigits.takeNumber_append,
    minuteDigits.takeNumber_append, secondDigits.takeNumber_append, whole, takeChar_cons,
    Option.bind_eq_bind, Option.bind_some, List.isEmpty_nil, if_true]

theorem ofBareDate?_eq (inCalendar : moment.date.isValid = true)
    (ofDate : moment.date.IsWritten date) :
    DateTime.ofBareDate? date = some ⟨moment.date, .midnight⟩ := by
  simp only [DateTime.ofBareDate?, ofDate.takeDate_eq, Option.bind_eq_bind, Option.bind_some,
    List.isEmpty_nil, if_true, Date.ofParts?, inCalendar, Option.map_some]

/-- There is no white space before a time of day. -/
theorem TimeOfDay.IsWritten.trimLeft_eq {ofDay : TimeOfDay} (written : ofDay.IsWritten time) :
    Text.trimLeft time = time := by
  obtain ⟨hourDigits, -, -, -⟩ := written
  exact hourDigits.trimLeft_append (by decide) _

/-- A date and time is read as it is, in whichever way it is written. -/
theorem DateTime.IsWritten.ofText?_eq {cs : List Char} (written : moment.IsWritten cs)
    (inCalendar : moment.date.isValid = true) (onClock : moment.time.isValid = true) :
    DateTime.ofText? (String.ofList cs) = some moment := by
  rw [DateTime.ofText?, String.toList_ofList]
  cases written with
  | bare ofDate midnight =>
      have notMarked : DateTime.ofLocal? (takeChar 'T') cs = none := by
        rw [← List.append_nil cs]
        exact ofLocal?_of_none ofDate rfl
      have noTime : DateTime.ofLocal? (fun cs => some (Text.trimLeft cs)) cs = none :=
        ofLocal?_bare ofDate rfl
      rw [ofTimestamp?_bare ofDate, notMarked, noTime, ofBareDate?_eq inCalendar ofDate, ← midnight]
      rfl
  | @joined mark date time marked ofDate ofDay =>
      -- The first way reads all of the text and then misses the offset.
      have noOffset := ofTimestamp?_append inCalendar onClock ofDate marked ofDay endsFraction_nil
      rw [List.append_nil] at noOffset
      rw [noOffset]
      rcases marked with rfl | rfl
      · rw [ofLocal?_joined inCalendar onClock ofDate ofDay (takeChar_cons 'T' time)]
        rfl
      · have spaced : DateTime.ofLocal? (fun cs => some (Text.trimLeft cs)) (date ++ ' ' :: time) =
            some moment :=
          ofLocal?_joined inCalendar onClock ofDate ofDay (congrArg some ofDay.trimLeft_eq)
        rw [ofLocal?_of_none ofDate (rfl : takeChar 'T' (' ' :: time) = none), spaced]
        rfl
  | withOffset marked ofDate ofDay apart =>
      rw [ofTimestamp?_append inCalendar onClock ofDate marked ofDay apart.endsFraction,
        apart.takeOffset_eq]
      rfl

end

/-! ## Version dates -/

/-- The document with another text for the date of its version. -/
def Document.dated (document : Document) (text : String) : Document :=
  { document with version := { document.version with date := text } }

theorem normalize_dated (document : Document) (text : String) :
    (document.dated text).normalize = document.normalize.map (·.dated text) := by
  unfold Document.normalize
  rw [show (document.dated text).terms = document.terms from rfl]
  split <;> rfl

/-- Another date changes nothing else in a compiled dictionary. -/
theorem compile_dated {document : Document} {dictionary : Dictionary} {warnings : List Warning}
    (compiled : document.compile = .ok ⟨dictionary, warnings⟩) {text : String} {moment : DateTime}
    (read : versionDateOf text = .ok moment) :
    (document.dated text).compile = .ok ⟨{ dictionary with versionDate := moment }, warnings⟩ := by
  obtain ⟨normal, normalized, built, rfl⟩ := compile_eq_ok_iff.1 compiled
  have renormalized : (document.dated text).normalize = .ok (normal.dated text) := by
    rw [normalize_dated, normalized]
    rfl
  exact compile_eq_ok_iff.2 ⟨_, renormalized, { built with versionDate := read }, rfl⟩

/-- Every file shows the date of the version, without the time of day. -/
theorem field?_versionDate {language : Language} {artifact : Artifact} {dictionary : Dictionary}
    {subject : Subject} {functions : List FunctionStub} {context : Context}
    (given : Context.of language artifact dictionary subject functions = .ok context) :
    context.toJson.field? "version_date" = some (.text dictionary.versionDate.date.text) := by
  obtain ⟨body, -, made⟩ := bind_eq_ok.1 given
  cases pure_eq_ok.1 made
  refine Json.lookup_sortFields ?_ (by simp)
  cases body <;> simp [ContextBody.fields, EnumerationView.fields, Language.algorithmFields]

/--
All ways of writing a date and time are read as that date and time.  A document that compiles with
one of them compiles to the same dictionary with the others, and all files show the date in its four
digits for the year and two for the month and the day.
-/
theorem compile_of_isWritten {moment : DateTime} (inCalendar : moment.date.isValid = true)
    (early : 0 ≤ moment.date.year) (late : moment.date.year ≤ 9999)
    (onClock : moment.time.isValid = true) {document : Document} {dictionary : Dictionary}
    {warnings : List Warning} (compiled : document.compile = .ok ⟨dictionary, warnings⟩) :
    let dated : Dictionary := { dictionary with versionDate := moment }
    (∀ cs, moment.IsWritten cs →
      versionDateOf (String.ofList cs) = .ok moment ∧
      (document.dated (String.ofList cs)).compile = .ok ⟨dated, warnings⟩) ∧
    ∃ date, moment.date.IsWritten date ∧
      ∀ language artifact subject functions context,
        Context.of language artifact dated subject functions = .ok context →
        context.toJson.field? "version_date" = some (.text (String.ofList date)) := by
  refine ⟨fun cs written => ?_, moment.date.chars, Date.isWritten_chars inCalendar early late,
    fun language artifact subject functions context given => ?_⟩
  · have read : versionDateOf (String.ofList cs) = .ok moment := by
      rw [versionDateOf, written.ofText?_eq inCalendar onClock]
    exact ⟨read, compile_dated compiled read⟩
  · rw [field?_versionDate given, Date.text]

/-- The last second and a half of the leap day in the year 0000. -/
def leapDay : DateTime :=
  ⟨⟨0, 2, 29⟩, ⟨23, 59, 59, 500000000⟩⟩

theorem compile_of_leapDay :
    ∃ dictionary warnings,
      ((Document.plain [] [.plain "ANN" "ann"] []).dated "0000-02-29T23:59:59.5").compile =
          .ok ⟨dictionary, warnings⟩ ∧
        ((Document.plain [] [.plain "ANN" "ann"] []).dated
          "0000-02-29 23:59:59.500-23:59").compile = .ok ⟨dictionary, warnings⟩ ∧
        dictionary.versionDate = leapDay ∧
        ∀ language artifact subject functions context,
          Context.of language artifact dictionary subject functions = .ok context →
          context.toJson.field? "version_date" = some (.text "0000-02-29") := by
  obtain ⟨⟨dictionary, warnings⟩, compiled⟩ := faultOf_eq_none.1
    (show faultOf (Document.plain [] [.plain "ANN" "ann"] []).compile = none by decide +kernel)
  have year : AreDigits 4 0 ['0', '0', '0', '0'] := by decide
  have month : AreDigits 2 2 ['0', '2'] := by decide
  have day : AreDigits 2 29 ['2', '9'] := by decide
  have hour : AreDigits 2 23 ['2', '3'] := by decide
  have last : AreDigits 2 59 ['5', '9'] := by decide
  have ofDate : leapDay.date.IsWritten
      (['0', '0', '0', '0'] ++ '-' :: (['0', '2'] ++ '-' :: ['2', '9'])) :=
    .digits rfl year month day
  have half : leapDay.time.IsWritten
      (['2', '3'] ++ ':' :: (['5', '9'] ++ ':' :: (['5', '9'] ++ ['.', '5']))) :=
    .digits hour last last (.point (by decide) (by decide))
  have zeros : leapDay.time.IsWritten
      (['2', '3'] ++ ':' :: (['5', '9'] ++ ':' :: (['5', '9'] ++ ['.', '5', '0', '0']))) :=
    .digits hour last last (.point (by decide) (by decide))
  have behind : IsOffset ('-' :: (['2', '3'] ++ ':' :: ['5', '9'])) :=
    .apart (.inr rfl) hour (by decide) last (by decide)
  obtain ⟨readings, date, written, shown⟩ := compile_of_isWritten
    (show leapDay.date.isValid = true by decide) (by decide) (by decide) (by decide) compiled
  have same := written.chars_eq.symm.trans ofDate.chars_eq
  refine ⟨_, _, (readings _ (.joined (.inl rfl) ofDate half)).2,
    (readings _ (.withOffset (.inr rfl) ofDate zeros behind)).2, rfl, ?_⟩
  intro language artifact subject functions context given
  rw [shown language artifact subject functions context given, same]
  rfl

end ContractDictionary
