import ContractDictionary.Proofs.Generation.References

/-!
# Types and initial values of fields

That a term has no value to start with is told by the text of its literal.  No default is written
with this text, whatever its type and content: a text is in quotes, and a number begins with a sign
or a digit.  So the declared type of a field always admits the value that the field starts with.
-/

namespace ContractDictionary

def BeginsWithDigit (cs : List Char) : Prop :=
  ∃ c ∈ cs.head?, c.isDigit = true

theorem BeginsWithDigit.append {cs : List Char} (begins : BeginsWithDigit cs) (rest : List Char) :
    BeginsWithDigit (cs ++ rest) := by
  obtain ⟨c, first, digit⟩ := begins
  obtain ⟨others, rfl⟩ := List.head?_eq_some_iff.1 first
  exact ⟨c, rfl, digit⟩

theorem BeginsWithDigit.take {cs : List Char} (begins : BeginsWithDigit cs) {count : Nat}
    (positive : 0 < count) : BeginsWithDigit (cs.take count) := by
  obtain ⟨c, first, digit⟩ := begins
  obtain ⟨others, rfl⟩ := List.head?_eq_some_iff.1 first
  obtain ⟨less, rfl⟩ := Nat.exists_eq_add_one_of_ne_zero (Nat.ne_of_gt positive)
  exact ⟨c, rfl, digit⟩

theorem beginsWithDigit_toDigits (n : Nat) : BeginsWithDigit (Nat.toDigits 10 n) := by
  cases digits : Nat.toDigits 10 n with
  | nil => exact absurd digits Nat.toDigits_ne_nil
  | cons c rest =>
      have member : c ∈ Nat.toDigits 10 n := digits ▸ List.mem_cons_self
      exact ⟨c, rfl, Nat.isDigit_of_mem_toDigits (by decide) (by decide) member⟩

namespace NumberLayout

variable {layout : NumberLayout} {digits : List Char} {exponent : Int}

theorem beginsWithDigit_positional (begins : BeginsWithDigit digits) :
    BeginsWithDigit (layout.positional digits exponent) := by
  unfold positional
  split
  · exact (begins.append _).append _
  · dsimp only
    split
    · next point => exact ((begins.take (Int.pos_iff_toNat_pos.1 point)).append _).append _
    · exact ⟨'0', rfl, rfl⟩

theorem beginsWithDigit_exponential (begins : BeginsWithDigit digits) :
    BeginsWithDigit (layout.exponential digits exponent) := by
  unfold exponential
  exact ((((begins.take Nat.one_pos).append _).append _).append _).append _

/-- What stands behind the sign of a number begins with a digit. -/
theorem exists_body_of_isFinite (layout : NumberLayout) {number : Binary64}
    (finite : number.isFinite = true) :
    ∃ sign ∈ ["", "-"], ∃ body, layout.text number = sign ++ String.ofList body ∧
      BeginsWithDigit body := by
  cases number with
  | infinite negative => cases finite
  | nan => cases finite
  | finite negative significand exponent =>
      have signed : (if negative then "-" else "") ∈ ["", "-"] := by
        cases negative <;> decide
      refine ⟨_, signed, ?_⟩
      by_cases zero : significand = 0
      · refine ⟨'0' :: layout.integerEnd.toList, ?_, '0', rfl, rfl⟩
        have whole :
            "0" ++ layout.integerEnd = String.ofList ('0' :: layout.integerEnd.toList) := by
          rw [← String.toList_inj, String.toList_append]
          exact String.toList_ofList.symm
        simp only [text, zero, if_true, String.append_assoc, whole]
      · have digits := beginsWithDigit_toDigits
          (Decimal.shortest layout.tie significand exponent).digits
        simp only [text, zero, if_false]
        refine ⟨_, rfl, ?_⟩
        split
        · exact beginsWithDigit_positional digits
        · exact beginsWithDigit_exponential digits

/-- The text of a number begins with a sign or a digit. -/
theorem head_text_of_isFinite (layout : NumberLayout) {number : Binary64}
    (finite : number.isFinite = true) :
    ∃ c ∈ (layout.text number).toList.head?, c = '-' ∨ c.isDigit = true := by
  obtain ⟨sign, signed, body, written, c, first, digit⟩ := layout.exists_body_of_isFinite finite
  rw [written, String.toList_append, String.toList_ofList]
  simp only [List.mem_cons, List.not_mem_nil, or_false] at signed
  obtain rfl | rfl := signed
  · exact ⟨c, first, .inr digit⟩
  · exact ⟨'-', rfl, .inl rfl⟩

end NumberLayout

theorem textLiteral_ne_absent (language : Language) (value : String) :
    language.textLiteral value ≠ language.absent := by
  intro same
  have first := congrArg (fun text => text.toList.head?) same
  cases language <;>
    simp [Language.textLiteral, Language.absent, Text.quoted, String.toList_append] at first

theorem realText_ne_absent (language : Language) {number : Binary64}
    (finite : number.isFinite = true) : realLayout.text number ≠ language.absent := by
  intro same
  obtain ⟨c, first, begins⟩ := realLayout.head_text_of_isFinite finite
  have letter : language.absent.toList.head? = some 'N' ∨
      language.absent.toList.head? = some 'n' := by
    cases language <;> decide
  rw [same] at first
  obtain capital | small := letter
  · cases capital.symm.trans first
    exact absurd begins (by decide)
  · cases small.symm.trans first
    exact absurd begins (by decide)

theorem realDefault_ne_absent (term : Term) (language : Language) (value : Option Binary64)
    (written : String) : (term.realDefault value written).text ≠ language.absent := by
  unfold Term.realDefault
  split
  · next number found => exact realText_ne_absent language (Option.filter_eq_some_iff.1 found).2
  · exact realText_ne_absent language (show Binary64.zero.isFinite = true from rfl)

/-- An array starts empty, whatever its default. -/
theorem text_literal_of_isArray {term : Term} {language : Language} {literal : Literal}
    (given : term.literal language = .ok literal) (array : term.isArray = true) :
    literal.text = language.emptyArray := by
  cases Term.literalFrom given with
  | array _ empty => rw [empty]
  | absent single | member single | real single | readReal single | text single =>
      cases array.symm.trans single

/-- A single value without a default starts absent. -/
theorem text_literal_of_not_hasDefault {term : Term} {language : Language} {literal : Literal}
    (given : term.literal language = .ok literal) (single : term.isArray = false)
    (none : term.hasDefault = false) : literal.text = language.absent := by
  rw [Term.hasDefault, Option.isSome_eq_false_iff, Option.isNone_iff_eq_none] at none
  cases Term.literalFrom given with
  | array array => cases array.symm.trans single
  | absent _ _ absent => rw [absent]
  | member _ default | real _ default | readReal _ default | text _ default =>
      cases none.symm.trans default

/-- A single value with a default does not start absent, whatever type and default are. -/
theorem text_literal_of_hasDefault {term : Term} {language : Language} {literal : Literal}
    (given : term.literal language = .ok literal) (single : term.isArray = false)
    (default : term.hasDefault = true) : literal.text ≠ language.absent := by
  cases Term.literalFrom given with
  | array array => cases array.symm.trans single
  | absent _ lacking =>
      rw [Term.hasDefault, lacking] at default
      cases default
  | member _ _ _ _ chosen =>
      obtain ⟨member, -, named⟩ := exists_member_of_memberDefault chosen
      rw [named]
      exact memberLiteral_ne_absent language term.identifier member.acronym
  | real _ _ _ shown | readReal _ _ _ _ shown =>
      rw [shown]
      exact realDefault_ne_absent term language _ _
  | text _ _ _ _ shown =>
      rw [shown]
      exact textLiteral_ne_absent language _

theorem isAbsent_literal_iff {term : Term} {language : Language} {literal : Literal}
    (given : term.literal language = .ok literal) :
    literal.isAbsent language = true ↔ term.isArray = false ∧ term.hasDefault = false := by
  rw [Literal.isAbsent, beq_iff_eq]
  cases array : term.isArray with
  | true =>
      have filled : language.emptyArray ≠ language.absent := by
        cases language <;> decide
      rw [text_literal_of_isArray given array]
      simp [filled]
  | false =>
      cases default : term.hasDefault with
      | true => simp [text_literal_of_hasDefault given array default]
      | false => simp [text_literal_of_not_hasDefault given array default]

/--
A field of a language for values of a type, or for arrays of them, starts as its type admits: empty,
absent, or with the literal of a default, which is not the expression for absence.
-/
inductive FieldView.StartsWith (element literal : String) :
    Language → (isArray hasDefault : Bool) → FieldView → Prop where
  | rustArray (hasDefault : Bool) :
      StartsWith element literal .rust true hasDefault ⟨"Vec<" ++ element ++ ">", "Vec::new()"⟩
  | rustAbsent :
      StartsWith element literal .rust false false ⟨"Option<" ++ element ++ ">", "None"⟩
  | rustPresent (present : literal ≠ "None") :
      StartsWith element literal .rust false true
        ⟨"Option<" ++ element ++ ">", "Some(" ++ literal ++ ")"⟩
  | pythonArray (hasDefault : Bool) :
      StartsWith element literal .python true hasDefault ⟨"typing.List[" ++ element ++ "]", "[]"⟩
  | pythonAbsent :
      StartsWith element literal .python false false
        ⟨"typing.Optional[" ++ element ++ "]", "None"⟩
  | pythonPresent (present : literal ≠ "None") :
      StartsWith element literal .python false true ⟨element, literal⟩
  | typeScriptArray (hasDefault : Bool) :
      StartsWith element literal .typeScript true hasDefault ⟨"Array<" ++ element ++ ">", "[]"⟩
  | typeScriptAbsent : StartsWith element literal .typeScript false false ⟨element, "null"⟩
  | typeScriptPresent (present : literal ≠ "null") :
      StartsWith element literal .typeScript false true ⟨element, literal⟩

theorem startsWith_field {term : Term} {language : Language} {literal : Literal}
    (given : term.literal language = .ok literal) (element : String) :
    FieldView.StartsWith element literal.text language term.isArray term.hasDefault
      (literal.field language term.isArray
        (if term.isArray then language.arrayType element else element)) := by
  cases array : term.isArray with
  | true =>
      have empty := text_literal_of_isArray given array
      rw [if_pos rfl, field_emptyArray empty, empty]
      cases language with
      | rust => exact .rustArray _
      | python => exact .pythonArray _
      | typeScript => exact .typeScriptArray _
  | false =>
      rw [if_neg Bool.false_ne_true]
      cases default : term.hasDefault with
      | true =>
          have present := text_literal_of_hasDefault given array default
          rw [field_present present]
          cases language with
          | rust => exact .rustPresent present
          | python => exact .pythonPresent present
          | typeScript => exact .typeScriptPresent present
      | false =>
          have absent := text_literal_of_not_hasDefault given array default
          rw [field_absent absent, absent]
          cases language with
          | rust => exact .rustAbsent
          | python => exact .pythonAbsent
          | typeScript => exact .typeScriptAbsent

theorem scalarReference?_ne_optional {identifier element : String} {scalar : ScalarType}
    (named : Language.python.scalarReference? identifier scalar = some element) (inner : String) :
    element ≠ "typing.Optional[" ++ inner ++ "]" := by
  intro same
  have first := congrArg (fun text => text.toList.head?) same
  cases scalar <;> cases named <;>
    simp [Language.qualified, Language.pathMark, Language.realType, Language.timestampType,
      Language.textType, String.toList_append] at first

/-- A field of Python has an optional type exactly if it starts absent. -/
theorem FieldView.StartsWith.isOptional_iff {element literal : String} {isArray hasDefault : Bool}
    {field : FieldView} (starts : StartsWith element literal .python isArray hasDefault field)
    (scalar : ∀ inner, element ≠ "typing.Optional[" ++ inner ++ "]") :
    (∃ inner, field.type = "typing.Optional[" ++ inner ++ "]") ↔ field.initializer = "None" := by
  cases starts with
  | pythonArray =>
      refine iff_of_false ?_ (show "[]" ≠ "None" by decide)
      rintro ⟨inner, same⟩
      have chars := congrArg String.toList same
      simp [String.toList_append] at chars
  | pythonAbsent => exact iff_of_true ⟨element, rfl⟩ rfl
  | pythonPresent present => exact iff_of_false (fun ⟨inner, same⟩ => scalar inner same) present

theorem typeReference_eq_ok {language : Language} {identifier type : String}
    {declared : DeclaredType} (typed : language.typeReference identifier declared = .ok type) :
    ∃ element, language.scalarReference? identifier declared.scalar = some element ∧
      type = if declared.isArray then language.arrayType element else element := by
  unfold Language.typeReference at typed
  cases scalar : language.scalarReference? identifier declared.scalar with
  | none =>
      rw [scalar] at typed
      cases typed
  | some element =>
      rw [scalar] at typed
      exact ⟨element, rfl, (Except.ok.inj typed).symm⟩

/-- A term with a type and a literal has a view, whose field the two make up. -/
theorem exists_view_of_literal {term : Term} {language : Language} {type : String}
    {literal : Literal} (typed : language.typeReference term.identifier term.type = .ok type)
    (given : term.literal language = .ok literal) :
    ∃ view, term.view language = .ok view ∧
      view.field = literal.field language term.isArray type := by
  rw [Term.view, typed, given]
  exact ⟨_, rfl, rfl⟩

/--
A literal is the one for absence exactly if the term is no array and has no default, and the field
of the term has a type that admits what it starts with.
-/
theorem field_startsWith_literal {term : Term} {language : Language} {type : String}
    {literal : Literal} (typed : language.typeReference term.identifier term.type = .ok type)
    (given : term.literal language = .ok literal) :
    (literal.isAbsent language = true ↔ term.isArray = false ∧ term.hasDefault = false) ∧
      ∃ element view, language.scalarReference? term.identifier term.scalarType = some element ∧
        term.view language = .ok view ∧
        view.field.StartsWith element literal.text language term.isArray term.hasDefault ∧
        (language = .python →
          ((∃ inner, view.field.type = "typing.Optional[" ++ inner ++ "]") ↔
            view.field.initializer = "None")) := by
  obtain ⟨element, named, written⟩ := typeReference_eq_ok typed
  obtain ⟨view, viewed, field⟩ := exists_view_of_literal typed given
  have starts := startsWith_field given element
  rw [written] at field
  refine ⟨isAbsent_literal_iff given, element, view, named, viewed, field ▸ starts, ?_⟩
  rintro rfl
  exact (field ▸ starts).isOptional_iff (scalarReference?_ne_optional named)

/-- A default that spells the expression for absence is given in quotes. -/
theorem field_startsWith_quotedNone :
    ∃ type literal, Language.python.typeReference "text" ⟨.varchar, false⟩ = .ok type ∧
      (textTerm "None").literal .python = .ok literal ∧ literal.isAbsent .python = false ∧
      ∃ view, (textTerm "None").view .python = .ok view ∧
        view.field.StartsWith "str" "\"None\"" .python false true ∧
        ¬∃ inner, view.field.type = "typing.Optional[" ++ inner ++ "]" := by
  have typed : Language.python.typeReference (textTerm "None").identifier (textTerm "None").type =
      .ok "str" := rfl
  have given : (textTerm "None").literal .python = .ok { text := "\"None\"" } := by
    decide +kernel
  obtain ⟨absent, element, view, named, viewed, starts, optional⟩ :=
    field_startsWith_literal typed given
  cases named
  refine ⟨_, _, typed, given, ?_, view, viewed, starts, ?_⟩
  · exact Bool.eq_false_iff.2 fun isAbsent => Bool.noConfusion (absent.1 isAbsent).2
  · rw [optional rfl]
    generalize view.field = field at starts ⊢
    cases starts with
    | pythonPresent present => exact present

end ContractDictionary
