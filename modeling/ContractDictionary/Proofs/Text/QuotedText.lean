import ContractDictionary.Json.Token
import ContractDictionary.Text.Basic

/-!
# Reading quoted text

A literal in double quotes is read character by character up to the first quote that no backslash
stands before.  The escapes of one letter are those that all target languages share; the escapes of
code points have their digits in braces, or a fixed number of them.
-/

namespace ContractDictionary.Text

/-- What a letter behind a backslash begins. -/
inductive Escape where
  /-- The letter stands for a character. -/
  | short (c : Char)
  /-- One to six hexadecimal digits of a code point follow in braces. -/
  | braced
  /-- A number of hexadecimal digits of a code point follow. -/
  | fixed (digits : Nat)

/-- How much of a character has been read. -/
inductive Progress where
  | start
  | backslash
  /-- Behind the letter of an escape with braces. -/
  | brace
  /-- Within braces: the digits so far, and their number. -/
  | braced (digits point : Nat)
  /-- Within a fixed number of digits: those that are missing, and the number so far. -/
  | fixed (missing point : Nat)

/-- The escapes that all target languages share, and those of code points as a language has them. -/
def escape? (pointEscape? : Char → Option Escape) : Char → Option Escape
  | 't' => some (.short '\t')
  | 'r' => some (.short '\r')
  | 'n' => some (.short '\n')
  | '\'' => some (.short '\'')
  | '"' => some (.short '"')
  | '\\' => some (.short '\\')
  | c => pointEscape? c

def withChar (c : Char) (behind : Option (List Char × List Char)) :
    Option (List Char × List Char) :=
  behind.map fun (value, rest) => (c :: value, rest)

def withPoint (point : Nat) (behind : Option (List Char × List Char)) :
    Option (List Char × List Char) :=
  if point.isValidChar then withChar (Char.ofNat point) behind else none

/-- Reads up to the closing quote: the value, and what stands behind the quote. -/
def readFrom (pointEscape? : Char → Option Escape) :
    Progress → List Char → Option (List Char × List Char)
  | _, [] => none
  | .start, c :: rest =>
      if c = '"' then some ([], rest)
      else if c = '\\' then readFrom pointEscape? .backslash rest
      else if c = '\n' ∨ c = '\r' then none
      else withChar c (readFrom pointEscape? .start rest)
  | .backslash, c :: rest =>
      match escape? pointEscape? c with
      | none => none
      | some (.short value) => withChar value (readFrom pointEscape? .start rest)
      | some .braced => readFrom pointEscape? .brace rest
      | some (.fixed digits) => readFrom pointEscape? (.fixed digits 0) rest
  | .brace, c :: rest => if c = '{' then readFrom pointEscape? (.braced 0 0) rest else none
  | .braced digits point, c :: rest =>
      if c = '}' then
        if digits = 0 then none else withPoint point (readFrom pointEscape? .start rest)
      else
        match Json.hexValue? c with
        | none => none
        | some value =>
            if digits < 6 then
              readFrom pointEscape? (.braced (digits + 1) (16 * point + value)) rest
            else none
  | .fixed missing point, c :: rest =>
      match Json.hexValue? c with
      | none => none
      | some value =>
          if missing ≤ 1 then withPoint (16 * point + value) (readFrom pointEscape? .start rest)
          else readFrom pointEscape? (.fixed (missing - 1) (16 * point + value)) rest

/-- Reads a literal in double quotes: the value, and what stands behind it. -/
def readQuoted? (pointEscape? : Char → Option Escape) : List Char → Option (List Char × List Char)
  | '"' :: rest => readFrom pointEscape? .start rest
  | _ => none

theorem hexValue?_digitChar {digit : Nat} (single : digit < 16) :
    Json.hexValue? digit.digitChar = some digit := by
  have evaluated : ∀ digit < 16, Json.hexValue? digit.digitChar = some digit := by decide
  exact evaluated digit single

def hexNumber (start : Nat) (digits : List Char) : Nat :=
  digits.foldl (fun point c => 16 * point + (Json.hexValue? c).getD 0) start

/-- The digits of a number are hexadecimal, and write the number. -/
theorem toDigits_hex (n : Nat) :
    (∀ c ∈ Nat.toDigits 16 n, ∃ digit < 16, c = digit.digitChar) ∧
      hexNumber 0 (Nat.toDigits 16 n) = n := by
  induction n using Nat.strongRecOn with
  | ind n ih =>
      by_cases single : n < 16
      · rw [Nat.toDigits_of_lt_base single]
        refine ⟨fun c member => ⟨n, single, List.mem_singleton.1 member⟩, ?_⟩
        show 16 * 0 + (Json.hexValue? n.digitChar).getD 0 = n
        rw [hexValue?_digitChar single, Option.getD_some]
        omega
      · obtain ⟨digits, number⟩ := ih (n / 16) (by omega)
        have last : n % 16 < 16 := Nat.mod_lt _ (by decide)
        rw [Nat.toDigits_of_base_le (by decide) (by omega)]
        refine ⟨fun c member => ?_, ?_⟩
        · rcases List.mem_append.1 member with front | own
          · exact digits c front
          · exact ⟨_, last, List.mem_singleton.1 own⟩
        · unfold hexNumber at number ⊢
          rw [List.foldl_append, number]
          show 16 * (n / 16) + (Json.hexValue? (n % 16).digitChar).getD 0 = n
          rw [hexValue?_digitChar last, Option.getD_some]
          omega

section

variable {pointEscape? : Char → Option Escape}

/-- Digits within braces are gathered into a number. -/
theorem readFrom_braced {digits : List Char} (hex : ∀ c ∈ digits, ∃ digit < 16, c = digit.digitChar)
    {count : Nat} (room : count + digits.length ≤ 6) (point : Nat) (rest : List Char) :
    readFrom pointEscape? (.braced count point) (digits ++ rest) =
      readFrom pointEscape? (.braced (count + digits.length) (hexNumber point digits)) rest := by
  induction digits generalizing count point with
  | nil => rfl
  | cons c digits ih =>
      obtain ⟨own, later⟩ := List.forall_mem_cons.1 hex
      obtain ⟨digit, single, rfl⟩ := own
      have value := hexValue?_digitChar single
      have inner : digit.digitChar ≠ '}' := by
        intro closes
        rw [closes] at value
        cases value
      rw [List.length_cons] at room ⊢
      rw [List.cons_append, readFrom, if_neg inner, value]
      dsimp only
      rw [if_pos (by omega), ih later (by omega), hexNumber, hexNumber, List.foldl_cons, value,
        Option.getD_some, Nat.add_right_comm, Nat.add_assoc]

theorem readFrom_point (braced : pointEscape? 'u' = some .braced) (c : Char) (rest : List Char) :
    readFrom pointEscape? .start
        ('\\' :: 'u' :: '{' :: (Nat.toDigits 16 c.toNat ++ '}' :: rest)) =
      withChar c (readFrom pointEscape? .start rest) := by
  obtain ⟨hex, number⟩ := toDigits_hex c.toNat
  have valid : c.toNat.isValidChar := c.valid
  have positive : 0 < (Nat.toDigits 16 c.toNat).length := Nat.length_toDigits_pos
  have bounded : (Nat.toDigits 16 c.toNat).length ≤ 6 := by
    rw [Nat.length_toDigits_le_iff (by decide) (by decide)]
    rcases valid with low | ⟨-, high⟩ <;> omega
  have opened : escape? pointEscape? 'u' = some .braced := braced
  show readFrom pointEscape? .backslash ('u' :: '{' :: _) = _
  rw [readFrom, opened]
  show readFrom pointEscape? (.braced 0 0) _ = _
  rw [readFrom_braced hex (by omega), number, readFrom, if_pos rfl, if_neg (by omega), withPoint,
    if_pos valid, Char.ofNat_toNat]

def isPrintable (c : Char) : Bool :=
  0x20 ≤ c.toNat && c.toNat ≤ 0x7E

/-- The character is written by its code point: it is neither printable nor a tab or line end. -/
def needsPoint (c : Char) : Bool :=
  !(isPrintable c || c = '\t' || c = '\r' || c = '\n')

/-- How a character is written in quoted text. -/
inductive WrittenAs (c : Char) : List Char → Prop where
  | itself (printable : isPrintable c = true) (noQuote : c ≠ '"') (noBackslash : c ≠ '\\') :
      WrittenAs c [c]
  | letter (letter : Char) (plain : needsPoint c = false) (printable : isPrintable letter = true)
      (short : ∀ pointEscape?, escape? pointEscape? letter = some (.short c)) :
      WrittenAs c ['\\', letter]
  | point (special : needsPoint c = true) :
      WrittenAs c ('\\' :: 'u' :: '{' :: (Nat.toDigits 16 c.toNat ++ ['}']))

theorem writtenAs_escapeChar (c : Char) : WrittenAs c (escapeChar c) := by
  unfold escapeChar
  split
  · next tab =>
      subst tab
      exact .letter 't' (by decide) (by decide) fun _ => rfl
  split
  · next lineEnd =>
      subst lineEnd
      exact .letter 'r' (by decide) (by decide) fun _ => rfl
  split
  · next lineEnd =>
      subst lineEnd
      exact .letter 'n' (by decide) (by decide) fun _ => rfl
  split
  · next marked =>
      rcases marked with rfl | rfl | rfl
      · exact .letter '\'' (by decide) (by decide) fun _ => rfl
      · exact .letter '"' (by decide) (by decide) fun _ => rfl
      · exact .letter '\\' (by decide) (by decide) fun _ => rfl
  next noTab noReturn noFeed unmarked =>
    rw [not_or, not_or] at unmarked
    split
    · next within =>
        have printable : isPrintable c = true := by simpa [isPrintable] using within
        exact .itself printable unmarked.2.1 unmarked.2.2
    · next beyond =>
        have unprintable : isPrintable c = false := by simpa [isPrintable] using beyond
        exact .point (by simp [needsPoint, unprintable, noTab, noReturn, noFeed])

/-- Whatever a character is written as can be read again, if code points can. -/
theorem readFrom_of_writtenAs {c : Char} {written : List Char} (spelled : WrittenAs c written)
    (readable : needsPoint c = false ∨ pointEscape? 'u' = some .braced) (rest : List Char) :
    readFrom pointEscape? .start (written ++ rest) =
      withChar c (readFrom pointEscape? .start rest) := by
  cases spelled with
  | itself printable noQuote noBackslash =>
      have noLineEnd : ¬(c = '\n' ∨ c = '\r') := by
        rintro (rfl | rfl)
        · cases printable
        · cases printable
      rw [List.singleton_append, readFrom, if_neg noQuote, if_neg noBackslash, if_neg noLineEnd]
  | letter letter plain printable short =>
      show readFrom pointEscape? .backslash (letter :: rest) = _
      rw [readFrom, short]
  | point special =>
      obtain plain | braced := readable
      · rw [special] at plain
        cases plain
      · rw [← readFrom_point braced]
        simp only [List.cons_append, List.append_assoc, List.nil_append]

/-- A code point in braces cannot be read where a number of digits are to follow. -/
theorem readFrom_point_of_fixed {c : Char} {digits : Nat} (special : needsPoint c = true)
    (fixed : pointEscape? 'u' = some (.fixed digits)) {written : List Char}
    (spelled : WrittenAs c written) (rest : List Char) :
    readFrom pointEscape? .start (written ++ rest) = none := by
  cases spelled with
  | itself printable noQuote noBackslash =>
      rw [needsPoint, printable] at special
      cases special
  | letter letter plain printable short =>
      rw [special] at plain
      cases plain
  | point special =>
      show readFrom pointEscape? .backslash ('u' :: '{' :: _) = _
      rw [readFrom, show escape? pointEscape? 'u' = some (.fixed digits) from fixed]
      rfl

theorem escapeChars_cons (c : Char) (rest : List Char) :
    escapeChars (c :: rest) = escapeChar c ++ escapeChars rest :=
  List.flatMap_cons

/-- A text is read again up to the quote behind it, if code points can be read or it needs none. -/
theorem readFrom_escapeChars {cs : List Char}
    (readable : ∀ c ∈ cs, needsPoint c = false ∨ pointEscape? 'u' = some .braced)
    (rest : List Char) :
    readFrom pointEscape? .start (escapeChars cs ++ '"' :: rest) = some (cs, rest) := by
  induction cs with
  | nil => rfl
  | cons c cs ih =>
      obtain ⟨own, later⟩ := List.forall_mem_cons.1 readable
      rw [escapeChars_cons, List.append_assoc,
        readFrom_of_writtenAs (writtenAs_escapeChar c) own, ih later]
      rfl

/-- A text with a code point cannot be read where a number of digits are to follow. -/
theorem readFrom_escapeChars_of_fixed {cs : List Char} {digits : Nat}
    (special : ∃ c ∈ cs, needsPoint c = true) (fixed : pointEscape? 'u' = some (.fixed digits))
    (rest : List Char) : readFrom pointEscape? .start (escapeChars cs ++ rest) = none := by
  induction cs with
  | nil =>
      obtain ⟨c, member, -⟩ := special
      cases member
  | cons c cs ih =>
      rw [escapeChars_cons, List.append_assoc]
      cases own : needsPoint c with
      | true => exact readFrom_point_of_fixed own fixed (writtenAs_escapeChar c) _
      | false =>
          obtain ⟨other, member, asked⟩ := special
          rcases List.mem_cons.1 member with rfl | later
          · rw [own] at asked
            cases asked
          · rw [readFrom_of_writtenAs (writtenAs_escapeChar c) (.inl own), ih ⟨other, later, asked⟩]
            rfl

end

theorem isPrintable_of_writtenAs {c : Char} {written : List Char} (spelled : WrittenAs c written) :
    ∀ d ∈ written, isPrintable d = true := by
  cases spelled with
  | itself printable => exact List.forall_mem_singleton.2 printable
  | letter letter plain printable =>
      exact List.forall_mem_cons.2 ⟨by decide, List.forall_mem_singleton.2 printable⟩
  | point =>
      have digitsPrintable : ∀ digit < 16, isPrintable digit.digitChar = true := by decide
      intro d member
      simp only [List.mem_cons, List.mem_append, List.not_mem_nil, or_false] at member
      rcases member with rfl | rfl | rfl | digit | rfl
      · decide
      · decide
      · decide
      · obtain ⟨value, single, rfl⟩ := (toDigits_hex c.toNat).1 d digit
        exact digitsPrintable value single
      · decide

theorem isPrintable_of_mem_quoted {text : String} :
    ∀ d ∈ (quoted text).toList, isPrintable d = true := by
  have inside : ∀ d ∈ escapeChars text.toList, isPrintable d = true := by
    intro d member
    obtain ⟨c, -, among⟩ := List.mem_flatMap.1 member
    exact isPrintable_of_writtenAs (writtenAs_escapeChar c) d among
  intro d member
  rw [quoted, String.toList_ofList, List.mem_append, List.mem_append, List.mem_singleton] at member
  rcases member with (rfl | among) | rfl
  · decide
  · exact inside d among
  · decide

end ContractDictionary.Text
