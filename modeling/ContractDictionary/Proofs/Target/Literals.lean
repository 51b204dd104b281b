import ContractDictionary.Proofs.Text.QuotedText
import ContractDictionary.Target.Literal
import Mathlib.Data.List.Basic

/-!
# Literals of defaults

The literal for the default of an enumerated term is that of the first member which the default
names by acronym or identifier, case aside, and else that of the first member of all, with a
warning.  The literal of a text is read by the rules of its language: where code points are escaped
with their digits in braces, every text is read as the default again; where a number of digits is
asked for, only a text that escapes no code point is.
-/

namespace ContractDictionary

namespace Term

/-- A single value of an enumerated type has its default among the members. -/
theorem literal_eq_memberDefault {term : Term} (single : term.isArray = false)
    (enumerated : term.scalarType = .enumeration) {token : String}
    (given : term.default = some (.acronym token)) (language : Language) :
    term.literal language = term.memberDefault language token := by
  have effective : term.effectiveDefault? = some (.acronym token) := by
    rw [effectiveDefault?, admitsDefault, enumerated]
    exact given
  rw [literal, if_neg (by rw [single]; exact Bool.false_ne_true), effective, enumerated]

/-- Where the literal of a term comes from: there is none for any other default. -/
inductive LiteralFrom (term : Term) (language : Language) (literal : Literal) : Prop where
  | array (array : term.isArray = true) (empty : literal = { text := language.emptyArray })
  | absent (single : term.isArray = false) (lacking : term.effectiveDefault? = none)
      (absent : literal = { text := language.absent })
  | member {default : TermDefault} {token : String} (single : term.isArray = false)
      (given : term.effectiveDefault? = some default) (enumerated : term.scalarType = .enumeration)
      (named : default = .acronym token ∨ default = .text token)
      (chosen : term.memberDefault language token = .ok literal)
  | real {value : Binary64} (single : term.isArray = false)
      (given : term.effectiveDefault? = some (.real value)) (numeric : term.scalarType = .real)
      (shown : literal = term.realDefault (some value) (realLayout.text value))
  | readReal {default : TermDefault} {text : String} (single : term.isArray = false)
      (given : term.effectiveDefault? = some default) (numeric : term.scalarType = .real)
      (written : default = .acronym text ∨ default = .text text)
      (shown : literal = term.realDefault (Binary64.ofText? (Text.trim text)) text)
  | text {default : TermDefault} {text : String} (single : term.isArray = false)
      (given : term.effectiveDefault? = some default) (textual : term.scalarType = .varchar)
      (written : default = .acronym text ∨ default = .text text)
      (shown : literal = { text := language.textLiteral text })

theorem literalFrom {term : Term} {language : Language} {made : Literal}
    (given : term.literal language = .ok made) : term.LiteralFrom language made := by
  unfold literal at given
  cases single : term.isArray with
  | true =>
      rw [single, if_pos rfl] at given
      exact .array single (Except.ok.inj given).symm
  | false =>
      rw [single, if_neg Bool.false_ne_true] at given
      cases effective : term.effectiveDefault? with
      | none =>
          rw [effective] at given
          exact .absent single effective (Except.ok.inj given).symm
      | some default =>
          rw [effective] at given
          cases scalar : term.scalarType with
          | enumeration =>
              rw [scalar] at given
              cases default with
              | acronym token => exact .member single effective scalar (.inl rfl) given
              | text token => exact .member single effective scalar (.inr rfl) given
              | real value => cases given
          | real =>
              rw [scalar] at given
              cases default with
              | acronym written =>
                  exact .readReal single effective scalar (.inl rfl) (Except.ok.inj given).symm
              | text written =>
                  exact .readReal single effective scalar (.inr rfl) (Except.ok.inj given).symm
              | real value => exact .real single effective scalar (Except.ok.inj given).symm
          | varchar =>
              rw [scalar] at given
              cases default with
              | acronym written =>
                  exact .text single effective scalar (.inl rfl) (Except.ok.inj given).symm
              | text written =>
                  exact .text single effective scalar (.inr rfl) (Except.ok.inj given).symm
              | real value => cases given
          | contractReference | cycle | period | timestamp | unknown =>
              rw [scalar] at given
              cases default <;> cases given

/-- What the literal is: that of the first member named, or of the first member, or none. -/
theorem memberDefault_cases (term : Term) (language : Language) (token : String) :
    (term.members = [] ∧
      term.memberDefault language token = .error (.emptyEnumeration term.identifier)) ∨
    (∃ member, term.members.find? (·.isMatch token) = some member ∧
      term.memberDefault language token =
        .ok { text := language.memberLiteral term.identifier member.acronym }) ∨
    (∃ first, term.members.head? = some first ∧
      (∀ member ∈ term.members, member.isMatch token = false) ∧
      term.memberDefault language token = .ok {
        text := language.memberLiteral term.identifier first.acronym
        warning := some (.unmatchedDefault term.identifier token first.acronym) }) := by
  unfold memberDefault
  cases term.members with
  | nil => exact .inl ⟨rfl, rfl⟩
  | cons first rest =>
      dsimp only
      cases found : (first :: rest).find? (·.isMatch token) with
      | some member => exact .inr (.inl ⟨member, rfl, rfl⟩)
      | none =>
          have unmatched : ∀ member ∈ first :: rest, member.isMatch token = false := by
            simpa only [Bool.not_eq_true] using List.find?_eq_none.1 found
          exact .inr (.inr ⟨first, rfl, unmatched, rfl⟩)

end Term

theorem exists_member_of_memberDefault {term : Term} {language : Language} {token : String}
    {literal : Literal} (given : term.memberDefault language token = .ok literal) :
    ∃ member ∈ term.members,
      literal.text = language.memberLiteral term.identifier member.acronym := by
  obtain ⟨-, failed⟩ | ⟨member, found, shown⟩ | ⟨first, front, -, shown⟩ :=
    term.memberDefault_cases language token
  · cases failed.symm.trans given
  · cases shown.symm.trans given
    exact ⟨member, List.mem_of_find?_eq_some found, rfl⟩
  · cases shown.symm.trans given
    exact ⟨first, List.mem_of_mem_head? front, rfl⟩

/-- A warning about the default of an enumerated term says what takes its place. -/
theorem warning_of_memberDefault_iff {term : Term} {language : Language} {token : String}
    {literal : Literal} (given : term.memberDefault language token = .ok literal)
    {warning : Warning} :
    literal.warning = some warning ↔
      ∃ fallback, warning = .unmatchedDefault term.identifier token fallback ∧
        term.members.head?.map (·.acronym) = some fallback ∧
        ∀ member ∈ term.members, member.isMatch token = false := by
  obtain ⟨-, failed⟩ | ⟨member, found, shown⟩ | ⟨first, front, unmatched, shown⟩ :=
    term.memberDefault_cases language token
  · cases failed.symm.trans given
  · cases shown.symm.trans given
    refine iff_of_false (Option.some_ne_none _).symm ?_
    rintro ⟨_, -, -, unmatched⟩
    have matched := List.find?_some found
    exact absurd matched
      (Bool.eq_false_iff.1 (unmatched member (List.mem_of_find?_eq_some found)))
  · cases shown.symm.trans given
    rw [front]
    constructor
    · rintro ⟨⟩
      exact ⟨first.acronym, rfl, rfl, unmatched⟩
    · rintro ⟨_, rfl, ⟨⟩, -⟩
      rfl

/-- The literal is that of a member which the token names, and it comes without a warning. -/
structure Literal.ShowsNamed (literal : Literal) (term : Term) (language : Language)
    (token : String) : Prop where
  unwarned : literal.warning = none
  named : ∃ member ∈ term.members, member.isMatch token = true ∧
    literal.text = language.memberLiteral term.identifier member.acronym

/-- The literal shows a member that the token names if there is one. -/
theorem exists_showsNamed_iff {term : Term} {language : Language} {token : String} :
    (∃ literal, term.memberDefault language token = .ok literal ∧
      literal.ShowsNamed term language token) ↔
      ∃ member ∈ term.members, member.isMatch token = true := by
  constructor
  · rintro ⟨literal, -, shown⟩
    obtain ⟨member, listed, matched, -⟩ := shown.named
    exact ⟨member, listed, matched⟩
  · rintro ⟨member, listed, matched⟩
    obtain ⟨none, -⟩ | ⟨first, found, given⟩ | ⟨_, -, unmatched, -⟩ :=
      term.memberDefault_cases language token
    · rw [none] at listed
      cases listed
    · have named := List.find?_some found
      exact ⟨_, given, rfl, first, List.mem_of_find?_eq_some found, named, rfl⟩
    · rw [unmatched member listed] at matched
      cases matched

/-! ## Texts -/

namespace Language

def pointEscape? : Language → Char → Option Text.Escape
  | .python, 'x' => some (.fixed 2)
  | .python, 'u' => some (.fixed 4)
  | .python, 'U' => some (.fixed 8)
  | .rust, 'u' | .typeScript, 'u' => some .braced
  | _, _ => none

def textOpening : Language → List Char
  | .python | .typeScript => []
  | .rust => "String::from(".toList

def textClosing : Language → List Char
  | .python | .typeScript => []
  | .rust => [')']

/-- Reads the literal of a text: the value, and what stands behind the literal. -/
def readText? (language : Language) (cs : List Char) : Option (List Char × List Char) := do
  let inside ← language.textOpening.isPrefixOf? cs
  let (value, behind) ← Text.readQuoted? language.pointEscape? inside
  let rest ← language.textClosing.isPrefixOf? behind
  return (value, rest)

/-- The literal is read as the value, and reading ends with it whatever stands behind it. -/
def Denotes (language : Language) (literal value : String) : Prop :=
  ∀ rest, language.readText? (literal.toList ++ rest) = some (value.toList, rest)

theorem toList_textLiteral (language : Language) (value : String) :
    (language.textLiteral value).toList =
      language.textOpening ++ ((Text.quoted value).toList ++ language.textClosing) := by
  have bare : [] ++ ((Text.quoted value).toList ++ []) = (Text.quoted value).toList := by
    rw [List.append_nil, List.nil_append]
  cases language with
  | python => exact bare.symm
  | typeScript => exact bare.symm
  | rust =>
      have framed : Language.rust.textLiteral value = "String::from(" ++ Text.quoted value ++ ")" :=
        rfl
      rw [framed, String.toList_append, String.toList_append, List.append_assoc]
      rfl

/-- Behind what opens the literal stands the quoted text. -/
theorem isPrefixOf?_textLiteral (language : Language) (value : String) (rest : List Char) :
    language.textOpening.isPrefixOf? ((language.textLiteral value).toList ++ rest) =
      some ('"' :: (Text.escapeChars value.toList ++ '"' :: (language.textClosing ++ rest))) := by
  rw [List.isPrefixOf?_eq_some_iff_append_eq, toList_textLiteral, Text.quoted, String.toList_ofList]
  simp only [List.append_assoc, List.cons_append, List.nil_append]

section

variable {language : Language} {value : String}

theorem denotes_textLiteral
    (readable : ∀ c ∈ value.toList,
      Text.needsPoint c = false ∨ language.pointEscape? 'u' = some .braced) :
    language.Denotes (language.textLiteral value) value := by
  intro rest
  have closed : language.textClosing.isPrefixOf? (language.textClosing ++ rest) = some rest :=
    List.isPrefixOf?_eq_some_iff_append_eq.2 rfl
  simp only [readText?, isPrefixOf?_textLiteral, Option.bind_eq_bind, Option.bind_some,
    Text.readQuoted?, Text.readFrom_escapeChars readable, closed, pure]

theorem readText?_of_fixed {digits : Nat} (special : ∃ c ∈ value.toList, Text.needsPoint c = true)
    (fixed : language.pointEscape? 'u' = some (.fixed digits)) (rest : List Char) :
    language.readText? ((language.textLiteral value).toList ++ rest) = none := by
  simp only [readText?, isPrefixOf?_textLiteral, Option.bind_eq_bind, Option.bind_some,
    Text.readQuoted?, Text.readFrom_escapeChars_of_fixed special fixed, Option.bind_none]

end

theorem isPrintable_of_mem_textLiteral {language : Language} {value : String} :
    ∀ c ∈ (language.textLiteral value).toList, Text.isPrintable c = true := by
  have opening : language.textOpening.all Text.isPrintable = true := by
    cases language <;> decide +kernel
  have closing : language.textClosing.all Text.isPrintable = true := by
    cases language <;> decide
  intro c member
  rw [toList_textLiteral, List.mem_append, List.mem_append] at member
  rcases member with before | inside | behind
  · exact List.all_eq_true.1 opening c before
  · exact Text.isPrintable_of_mem_quoted c inside
  · exact List.all_eq_true.1 closing c behind

end Language

/-- The term is a single text that has the value for its default. -/
structure Term.DefaultsToText (term : Term) (value : String) : Prop where
  type : term.type = ⟨.varchar, false⟩
  default : term.default = some (.text value) ∨ term.default = some (.acronym value)

theorem Term.literal_of_defaultsToText {term : Term} {value : String}
    (given : term.DefaultsToText value) (language : Language) :
    term.literal language = .ok { text := language.textLiteral value } := by
  obtain ⟨type, default⟩ := given
  have single : term.isArray = false := congrArg DeclaredType.isArray type
  have scalar : term.scalarType = .varchar := congrArg DeclaredType.scalar type
  have effective : term.effectiveDefault? = term.default := by
    rw [effectiveDefault?, admitsDefault, scalar]
    rfl
  rw [literal, single, effective, scalar]
  rcases default with given | given
  · rw [given]
    rfl
  · rw [given]
    rfl

def textTerm (value : String) : Term where
  acronym := "TEXT"
  description := ""
  identifier := "text"
  name := "Text"
  allowedValues := []
  default := some (.text value)
  group := ""
  type := ⟨.varchar, false⟩

/--
Where code points are escaped in braces, the literal of a text is printable and denotes the default,
whatever this is, so that no other default has the literal.
-/
theorem literal_denotes_default {term : Term} {value : String} (given : term.DefaultsToText value)
    {language : Language} (braces : language = .rust ∨ language = .typeScript) :
    ∃ text, term.literal language = .ok { text } ∧
      (∀ c ∈ text.toList, Text.isPrintable c = true) ∧
      language.Denotes text value ∧
      ∀ (other : Term) (otherValue : String), other.DefaultsToText otherValue →
        otherValue ≠ value → other.literal language ≠ term.literal language := by
  have braced : language.pointEscape? 'u' = some .braced := by
    rcases braces with rfl | rfl
    · rfl
    · rfl
  have denotes (value : String) : language.Denotes (language.textLiteral value) value :=
    Language.denotes_textLiteral fun _ _ => .inr braced
  refine ⟨_, Term.literal_of_defaultsToText given language,
    Language.isPrintable_of_mem_textLiteral, denotes value, ?_⟩
  intro other otherValue otherGiven differ same
  rw [Term.literal_of_defaultsToText given, Term.literal_of_defaultsToText otherGiven] at same
  have text : language.textLiteral otherValue = language.textLiteral value :=
    congrArg Literal.text (Except.ok.inj same)
  have read := denotes otherValue []
  rw [text, denotes value []] at read
  exact differ (String.toList_inj.1 (Prod.mk.inj (Option.some.inj read)).1.symm)

/-- A quote, text that looks like an escape, and a code point before what could be its digit. -/
def misleadingText : String :=
  "\"\\u\x7be9\x7d \u00e99"

theorem literal_denotes_misleadingText :
    (textTerm misleadingText).DefaultsToText misleadingText ∧
      ∃ text, (textTerm misleadingText).literal .rust = .ok { text } ∧
        text = "String::from(\"\\\"\\\\u\x7be9\x7d \\u\x7be9\x7d9\")" ∧
        Language.rust.readText? text.toList = some (misleadingText.toList, []) := by
  have given : (textTerm misleadingText).DefaultsToText misleadingText := ⟨rfl, .inl rfl⟩
  obtain ⟨text, literal, -, denotes, -⟩ := literal_denotes_default given (.inl rfl)
  have read := denotes []
  rw [List.append_nil] at read
  refine ⟨given, text, literal, ?_, read⟩
  have written : (textTerm misleadingText).literal .rust =
      .ok { text := "String::from(\"\\\"\\\\u\x7be9\x7d \\u\x7be9\x7d9\")" } := by
    decide +kernel
  rw [literal] at written
  exact congrArg Literal.text (Except.ok.inj written)

/--
Where a number of digits is asked for, the literal of a text cannot be read at all if a character of
the default is written by its code point, and denotes the default otherwise.
-/
theorem python_literal_denotes_default {term : Term} {value : String}
    (given : term.DefaultsToText value) :
    ∃ text, term.literal .python = .ok { text } ∧
      if value.toList.any Text.needsPoint then
        ∀ rest, Language.python.readText? (text.toList ++ rest) = none
      else Language.python.Denotes text value := by
  refine ⟨_, Term.literal_of_defaultsToText given .python, ?_⟩
  cases special : value.toList.any Text.needsPoint with
  | true => exact Language.readText?_of_fixed (List.any_eq_true.1 special) rfl
  | false =>
      refine Language.denotes_textLiteral fun c member => .inl ?_
      simpa only [Bool.not_eq_true] using List.any_eq_false.1 special c member

/-- A text with all short escapes, and one with an accented letter. -/
theorem python_literal_denotes_lineEnds :
    (textTerm "a\t\r\n\"'\\x").DefaultsToText "a\t\r\n\"'\\x" ∧
      (textTerm "\u00e9").DefaultsToText "\u00e9" ∧
      (∃ text, (textTerm "a\t\r\n\"'\\x").literal .python = .ok { text } ∧
        Language.python.Denotes text "a\t\r\n\"'\\x") ∧
      ∃ text, (textTerm "\u00e9").literal .python = .ok { text } ∧
        ∀ rest, Language.python.readText? (text.toList ++ rest) = none := by
  have plain : (textTerm "a\t\r\n\"'\\x").DefaultsToText "a\t\r\n\"'\\x" := ⟨rfl, .inl rfl⟩
  have accented : (textTerm "\u00e9").DefaultsToText "\u00e9" := ⟨rfl, .inl rfl⟩
  obtain ⟨text, literal, denotes⟩ := python_literal_denotes_default plain
  obtain ⟨text', literal', unread⟩ := python_literal_denotes_default accented
  rw [if_neg (by decide +kernel)] at denotes
  rw [if_pos (by decide +kernel)] at unread
  exact ⟨plain, accented, ⟨text, literal, denotes⟩, text', literal', unread⟩

/-- The literal of an accented letter has braces, where four digits should stand. -/
theorem python_literal_of_accent :
    ¬∀ (term : Term) (value : String), term.DefaultsToText value →
      ∃ text, term.literal .python = .ok { text } ∧ Language.python.Denotes text value := by
  intro all
  have given : (textTerm "\u00e9").DefaultsToText "\u00e9" := ⟨rfl, .inl rfl⟩
  obtain ⟨text, literal, denotes⟩ := all _ _ given
  rw [Term.literal_of_defaultsToText given] at literal
  have written : Language.python.textLiteral "\u00e9" = text :=
    congrArg Literal.text (Except.ok.inj literal)
  have braces : Language.python.textLiteral "\u00e9" = "\"\\u\x7be9\x7d\"" := by decide +kernel
  have unread : Language.python.readText? "\"\\u\x7be9\x7d\"".toList = none := by decide +kernel
  have read := denotes []
  rw [List.append_nil, ← written, braces, unread] at read
  cases read

end ContractDictionary
