import ContractDictionary.Proofs.Target.FunctionFiles
import ContractDictionary.Proofs.Text.WordBoundaries
import ContractDictionary.Target.Naming
import Mathlib.Data.List.Basic

/-!
# Names of generated modules

The module of a function begins with the token of its type in lower case and is one part of a
path if the parts of its name are.  Where modules keep capitals, they tell apart all functions
of one type and contract that are found.

An identifier in camel case has a capital at the beginning of each word but the first.  Where no two
capitals touch, every capital is a boundary and every boundary a capital, so that the words can be
written with underscores and be joined again.  So identifiers in camel case are read back from the
names that are made of them, and no two of them share a module, a type or a field in any language.
-/

namespace ContractDictionary

/-- The token of a type in lower case, with the underscore behind it. -/
def FunctionType.mark : FunctionType → String
  | .payoff => "pof_"
  | .stateTransition => "stf_"

def FunctionStub.moduleText (stub : FunctionStub) : String :=
  stub.functionType.mark ++
    if stub.suffix = "" then stub.eventType else stub.eventType ++ "_" ++ stub.suffix

theorem lower_token (type : FunctionType) : Text.lower type.token ++ "_" = type.mark := by
  cases type <;> decide +kernel

theorem stubModule_eq (language : Language) (stub : FunctionStub) :
    language.stubModule stub =
      if language = .typeScript then stub.moduleText else Text.lower stub.moduleText := by
  have text : (if stub.suffix = "" then
        Text.lower stub.functionType.token ++ "_" ++ stub.eventType
      else Text.lower stub.functionType.token ++ "_" ++ stub.eventType ++ "_" ++ stub.suffix) =
      stub.moduleText := by
    unfold FunctionStub.moduleText
    rw [lower_token]
    split
    · rfl
    · simp only [String.append_assoc]
  unfold Language.stubModule
  dsimp only
  rw [text]
  cases language <;> rfl

/-- The module of a function begins with the mark of its type. -/
theorem exists_toList_stubModule (language : Language) (stub : FunctionStub) :
    ∃ rest, (language.stubModule stub).toList = stub.functionType.mark.toList ++ rest := by
  rw [stubModule_eq]
  split
  · exact ⟨_, String.toList_append⟩
  · rw [Text.lower, String.toList_ofList, FunctionStub.moduleText, String.toList_append]
    cases stub.functionType with
    | payoff => exact ⟨_, rfl⟩
    | stateTransition => exact ⟨_, rfl⟩

theorem slash_notMem_stubModule (language : Language) {stub : FunctionStub}
    (event : '/' ∉ stub.eventType.toList) (suffix : '/' ∉ stub.suffix.toList) :
    '/' ∉ (language.stubModule stub).toList := by
  have mark : '/' ∉ stub.functionType.mark.toList := by
    cases stub.functionType <;> decide
  have text : '/' ∉ stub.moduleText.toList := by
    rw [FunctionStub.moduleText, String.toList_append, List.mem_append, not_or]
    refine ⟨mark, ?_⟩
    split
    · exact event
    · rw [String.toList_append, String.toList_append, List.mem_append, List.mem_append, not_or,
        not_or]
      exact ⟨⟨event, by decide⟩, suffix⟩
  rw [stubModule_eq]
  split
  · exact text
  · exact Text.slash_notMem_lower text

/-- The digits with an underscore before them, if there are any. -/
def FunctionStub.ending (stub : FunctionStub) : List Char :=
  if stub.suffix = "" then [] else '_' :: stub.suffix.toList

theorem toList_moduleText (stub : FunctionStub) :
    stub.moduleText.toList =
      stub.functionType.mark.toList ++ (stub.eventType.toList ++ stub.ending) := by
  unfold FunctionStub.moduleText FunctionStub.ending
  rw [String.toList_append]
  split
  · rw [List.append_nil]
  · rw [String.toList_append, String.toList_append, List.append_assoc]
    rfl

theorem takeWhile_event {stub : FunctionStub} (event : '_' ∉ stub.eventType.toList) :
    (stub.eventType.toList ++ stub.ending).takeWhile (· ≠ '_') = stub.eventType.toList := by
  have inner : ∀ c ∈ stub.eventType.toList, decide (c ≠ '_') = true := by
    intro c member
    rw [decide_eq_true_eq]
    rintro rfl
    exact event member
  have stops : stub.ending.takeWhile (· ≠ '_') = [] := by
    unfold FunctionStub.ending
    split <;> rfl
  rw [List.takeWhile_append_of_pos inner, stops, List.append_nil]

theorem suffix_eq_of_ending_eq {left right : FunctionStub} (same : left.ending = right.ending) :
    left.suffix = right.suffix := by
  unfold FunctionStub.ending at same
  split at same
  · next hleft =>
      split at same
      · next hright => rw [hleft, hright]
      · cases same
  · split at same
    · cases same
    · exact String.toList_inj.1 (List.cons.inj same).2

/-- Behind the mark, an event without underscores and the digits can be told apart. -/
theorem eq_of_moduleText_eq {left right : FunctionStub}
    (type : left.functionType = right.functionType)
    (leftEvent : '_' ∉ left.eventType.toList) (rightEvent : '_' ∉ right.eventType.toList)
    (same : left.moduleText = right.moduleText) :
    left.eventType = right.eventType ∧ left.suffix = right.suffix := by
  have chars := congrArg String.toList same
  rw [toList_moduleText, toList_moduleText, type] at chars
  have behind := List.append_cancel_left chars
  have event : left.eventType.toList = right.eventType.toList := by
    rw [← takeWhile_event leftEvent, ← takeWhile_event rightEvent, behind]
  rw [event] at behind
  exact ⟨String.toList_inj.1 event, suffix_eq_of_ending_eq (List.append_cancel_left behind)⟩

end ContractDictionary

/-! ## Camel case -/

namespace ContractDictionary.Text

def isAlphanumeric (c : Char) : Bool :=
  isCapital c || isSmall c || isDigit c

/--
The name is an identifier in camel case: ASCII letters and digits, a small letter first, and no
capital directly behind another one.
-/
structure IsCamelCase (name : String) : Prop where
  alphanumeric : ∀ c ∈ name.toList, isAlphanumeric c = true
  begins : name.toList.head?.any isSmall = true
  apart : name.toList.IsChain fun before c => ¬(isCapital before = true ∧ isCapital c = true)

instance (name : String) : Decidable (IsCamelCase name) :=
  decidable_of_iff (name.toList.all isAlphanumeric = true ∧ name.toList.head?.any isSmall = true ∧
      name.toList.IsChain fun before c => ¬(isCapital before = true ∧ isCapital c = true))
    ⟨fun h => ⟨List.all_eq_true.1 h.1, h.2.1, h.2.2⟩,
      fun h => ⟨List.all_eq_true.2 h.alphanumeric, h.begins, h.apart⟩⟩

theorem toNat_lt_of_isAlphanumeric {c : Char} (alphanumeric : isAlphanumeric c = true) :
    c.toNat < 0x80 := by
  rw [isAlphanumeric, Bool.or_eq_true, Bool.or_eq_true, isCapital_iff, isSmall_iff,
    isDigit_iff] at alphanumeric
  omega

/-- The characters with an underscore and the small letter in the place of each capital. -/
def underscored (cs : List Char) : List Char :=
  cs.flatMap fun c => if isCapital c then '_' :: lowerChar c else [c]

theorem underscored_cons (c : Char) (rest : List Char) :
    underscored (c :: rest) =
      (if isCapital c then '_' :: lowerChar c else [c]) ++ underscored rest :=
  List.flatMap_cons

/-- Where no two capitals touch, a word begins at each of them. -/
theorem spaceAfter_of_apart {before : Char} {rest : List Char}
    (alphanumeric : ∀ c ∈ before :: rest, isAlphanumeric c = true)
    (apart : (before :: rest).IsChain fun before c =>
      ¬(isCapital before = true ∧ isCapital c = true)) :
    spaceAfter beginsBetween ['_'] before rest =
      rest.flatMap fun c => if isCapital c then ['_', c] else [c] := by
  induction rest generalizing before with
  | nil => rfl
  | cons c rest ih =>
      obtain ⟨own, later⟩ := List.forall_mem_cons.1 alphanumeric
      obtain ⟨touch, onward⟩ := List.isChain_cons_cons.1 apart
      have begins : beginsBetween before c rest.head? = isCapital c := by
        cases capital : isCapital c with
        | false => rw [beginsBetween, capital, Bool.false_and]
        | true =>
            have behind : isCapital before = false :=
              Bool.eq_false_iff.2 fun also => touch ⟨also, capital⟩
            rw [isAlphanumeric, behind, Bool.false_or] at own
            rw [beginsBetween, capital, own, Bool.true_or, Bool.true_and]
      rw [spaceAfter, begins, ih later onward, List.flatMap_cons]
      cases isCapital c <;> rfl

/-- Lower-casing leaves underscores and turns capitals into small letters. -/
theorem lowerAfter_spaced {cs : List Char} (ascii : ∀ c ∈ cs, c.toNat < 0x80)
    (before : List Char) :
    lowerAfter before (cs.flatMap fun c => if isCapital c then ['_', c] else [c]) =
      underscored cs := by
  have spacedAscii : ∀ c ∈ cs.flatMap fun c => if isCapital c then ['_', c] else [c],
      c.toNat < 0x80 := by
    intro d member
    obtain ⟨c, listed, among⟩ := List.mem_flatMap.1 member
    split at among
    · rcases List.mem_pair.1 among with rfl | rfl
      · decide
      · exact ascii _ listed
    · rw [List.mem_singleton.1 among]
      exact ascii c listed
  rw [lowerAfter_of_ascii spacedAscii, List.flatMap_assoc]
  refine List.flatMap_congr fun c listed => ?_
  cases capital : isCapital c with
  | false =>
      exact (List.flatMap_singleton _ _).trans (lowerChar_of_not_isCapital (ascii c listed) capital)
  | true =>
      show lowerChar '_' ++ (lowerChar c ++ []) = '_' :: lowerChar c
      rw [List.append_nil]
      rfl

theorem isNeutral_underscore : IsNeutral ['_'] :=
  ⟨by decide, List.forall_mem_singleton.2 (by decide)⟩

/-- The words of an identifier in camel case, joined by underscores. -/
theorem toList_snake {name : String} (camelCase : IsCamelCase name) :
    (snake name).toList = underscored name.toList := by
  obtain ⟨alphanumeric, begins, apart⟩ := camelCase
  have ascii : ∀ c ∈ name.toList, c.toNat < 0x80 := fun c member =>
    toNat_lt_of_isAlphanumeric (alphanumeric c member)
  have spaced : separateChars ['_'] name.toList =
      name.toList.flatMap fun c => if isCapital c then ['_', c] else [c] := by
    cases whole : name.toList with
    | nil => rfl
    | cons first rest =>
        rw [whole] at alphanumeric begins apart
        have small : isCapital first = false := isCapital_of_isSmall begins
        rw [separateChars, separateCapitals_separateWords isNeutral_underscore,
          spaceAfter_of_apart alphanumeric apart, List.flatMap_cons, small]
        rfl
  show (lower (String.ofList (separateChars ['_'] name.toList))).toList = _
  rw [spaced, lower, String.toList_ofList, String.toList_ofList, lowerAfter_spaced ascii]

theorem splitFrom_cons {c : Char} (other : c ≠ '_') (part rest : List Char) :
    splitFrom ['_'] 0 part (c :: rest) = splitFrom ['_'] 0 (c :: part) rest := by
  rw [splitFrom, if_neg]
  simpa using Ne.symm other

theorem ne_underscore_of_isAlphanumeric {c : Char} (alphanumeric : isAlphanumeric c = true) :
    c ≠ '_' := by
  rintro rfl
  cases alphanumeric

theorem capitalize_append {front : List Char} (filled : front ≠ []) (rest : List Char) :
    capitalize (front ++ rest) = capitalize front ++ rest := by
  cases front with
  | nil => exact absurd rfl filled
  | cons c others => simp [capitalize]

/-- The words have their capitals again, behind the word under way. -/
theorem flatMap_capitalize_splitFrom {part : List Char} (filled : part ≠ []) {rest : List Char}
    (alphanumeric : ∀ c ∈ rest, isAlphanumeric c = true) :
    (splitFrom ['_'] 0 part (underscored rest)).flatMap capitalize =
      capitalize part.reverse ++ rest := by
  induction rest generalizing part with
  | nil => simp [underscored, splitFrom]
  | cons c rest ih =>
      obtain ⟨own, later⟩ := List.forall_mem_cons.1 alphanumeric
      rw [underscored_cons]
      cases capital : isCapital c with
      | false =>
          show (splitFrom ['_'] 0 part (c :: underscored rest)).flatMap capitalize = _
          rw [splitFrom_cons (ne_underscore_of_isAlphanumeric own), ih (List.cons_ne_nil _ _) later,
            List.reverse_cons, capitalize_append (mt List.reverse_eq_nil_iff.1 filled),
            List.append_assoc]
          rfl
      | true =>
          obtain ⟨small, isSmall, lowered, raised⟩ := exists_small_of_isCapital capital
          have inner : small ≠ '_' := by
            rintro rfl
            cases isSmall
          have restored : capitalize [small] = [c] := by
            rw [capitalize, raised]
            rfl
          rw [lowered]
          show (part.reverse :: splitFrom ['_'] 0 [] (small :: underscored rest)).flatMap
            capitalize = _
          rw [List.flatMap_cons, splitFrom_cons inner, ih (List.cons_ne_nil _ _) later,
            List.reverse_singleton, restored]
          rfl

/-- The words of an identifier in camel case are the identifier with a capital in front. -/
theorem pascalChars_underscored {name : String} (camelCase : IsCamelCase name) :
    pascalChars ['_'] (underscored name.toList) = capitalize name.toList := by
  obtain ⟨alphanumeric, begins, -⟩ := camelCase
  cases whole : name.toList with
  | nil =>
      rw [whole] at begins
      cases begins
  | cons first rest =>
      rw [whole] at alphanumeric begins
      obtain ⟨own, later⟩ := List.forall_mem_cons.1 alphanumeric
      have small : isCapital first = false := isCapital_of_isSmall begins
      rw [underscored_cons, small]
      show (splitFrom ['_'] 0 [] (first :: underscored rest)).flatMap capitalize = _
      rw [splitFrom_cons (ne_underscore_of_isAlphanumeric own),
        flatMap_capitalize_splitFrom (List.cons_ne_nil _ _) later]
      exact (capitalize_append (List.cons_ne_nil _ _) rest).symm

theorem splitFrom_of_notMem {part rest : List Char} (absent : '_' ∉ rest) :
    splitFrom ['_'] 0 part rest = [part.reverse ++ rest] := by
  induction rest generalizing part with
  | nil => simp [splitFrom]
  | cons c rest ih =>
      rw [List.mem_cons, not_or] at absent
      rw [splitFrom_cons (Ne.symm absent.1), ih absent.2]
      simp

/-- An identifier without underscores is a word by itself. -/
theorem pascalChars_of_isCamelCase {name : String} (camelCase : IsCamelCase name) :
    pascalChars ['_'] name.toList = capitalize name.toList := by
  have absent : '_' ∉ name.toList := fun member =>
    ne_underscore_of_isAlphanumeric (camelCase.alphanumeric _ member) rfl
  show (splitFrom ['_'] 0 [] name.toList).flatMap capitalize = _
  rw [splitFrom_of_notMem absent, List.flatMap_singleton]
  rfl

/-- A small letter in front is restored. -/
theorem decapitalize_capitalize {name : String} (camelCase : IsCamelCase name) :
    decapitalize (capitalize name.toList) = name.toList := by
  have begins := camelCase.begins
  cases whole : name.toList with
  | nil => rfl
  | cons first rest =>
      rw [whole] at begins
      obtain ⟨capital, raised, lowered⟩ := exists_capital_of_isSmall begins
      rw [capitalize, raised]
      show lowerChar capital ++ rest = _
      rw [lowered]
      rfl

section

variable {name : String}

theorem pascal_eq_capitalize (camelCase : IsCamelCase name) :
    pascal "_" name = String.ofList (capitalize name.toList) :=
  congrArg String.ofList (pascalChars_of_isCamelCase camelCase)

theorem pascal_snake (camelCase : IsCamelCase name) :
    pascal "_" (snake name) = pascal "_" name := by
  rw [pascal_eq_capitalize camelCase, pascal, toList_snake camelCase]
  exact congrArg String.ofList (pascalChars_underscored camelCase)

theorem camel_eq_decapitalize (separator name : String) :
    camel separator name = String.ofList (decapitalize (pascal separator name).toList) := by
  rw [pascal, String.toList_ofList, camel]

theorem camel_of_isCamelCase (camelCase : IsCamelCase name) : camel "_" name = name := by
  rw [camel_eq_decapitalize, pascal_eq_capitalize camelCase, String.toList_ofList,
    decapitalize_capitalize camelCase, String.ofList_toList]

theorem camel_snake (camelCase : IsCamelCase name) : camel "_" (snake name) = name := by
  rw [camel_eq_decapitalize, pascal_snake camelCase, ← camel_eq_decapitalize,
    camel_of_isCamelCase camelCase]

end

end ContractDictionary.Text

namespace ContractDictionary

section

variable {first second : String} (firstCamel : Text.IsCamelCase first)
  (secondCamel : Text.IsCamelCase second)

include firstCamel secondCamel

theorem eq_of_snake_eq (same : Text.snake first = Text.snake second) : first = second := by
  rw [← Text.camel_snake firstCamel, ← Text.camel_snake secondCamel, same]

theorem eq_of_camel_eq (same : Text.camel "_" first = Text.camel "_" second) : first = second := by
  rw [← Text.camel_of_isCamelCase firstCamel, ← Text.camel_of_isCamelCase secondCamel, same]

theorem eq_of_typeName_eq (same : typeName first = typeName second) : first = second := by
  have words : Text.pascal "_" first = Text.pascal "_" second := same
  refine eq_of_camel_eq firstCamel secondCamel ?_
  rw [Text.camel_eq_decapitalize, words, ← Text.camel_eq_decapitalize]

theorem eq_of_enumerationModule_eq {language : Language}
    (same : language.enumerationModule first = language.enumerationModule second) :
    first = second := by
  cases language with
  | python => exact eq_of_snake_eq firstCamel secondCamel same
  | rust => exact eq_of_snake_eq firstCamel secondCamel same
  | typeScript => exact eq_of_camel_eq firstCamel secondCamel same

theorem eq_of_fieldName_eq {language : Language}
    (same : language.fieldName first = language.fieldName second) : first = second := by
  cases language with
  | python => exact eq_of_snake_eq firstCamel secondCamel same
  | rust => exact eq_of_snake_eq firstCamel secondCamel same
  | typeScript => exact same

end

/--
An identifier in camel case is restored from its words in lower case, with the capitals of its type
among them, and no other such identifier shares its type, its module or its field in a language.
-/
theorem names_of_isCamelCase {identifier : String} (camelCase : Text.IsCamelCase identifier) :
    Text.camel "_" (Text.snake identifier) = identifier ∧
      Text.pascal "_" (Text.snake identifier) = Text.pascal "_" identifier ∧
      ∀ other, Text.IsCamelCase other → other ≠ identifier →
        typeName other ≠ typeName identifier ∧
        ∀ language : Language,
          language.enumerationModule other ≠ language.enumerationModule identifier ∧
          language.fieldName other ≠ language.fieldName identifier := by
  refine ⟨Text.camel_snake camelCase, Text.pascal_snake camelCase,
    fun other otherCamel differs => ⟨?_, fun language => ⟨?_, ?_⟩⟩⟩
  · exact mt (eq_of_typeName_eq otherCamel camelCase) differs
  · exact mt (eq_of_enumerationModule_eq otherCamel camelCase) differs
  · exact mt (eq_of_fieldName_eq otherCamel camelCase) differs

/-- A word of one letter, a word behind a digit, and an identifier that differs in one capital. -/
theorem names_of_rateX2B :
    Text.IsCamelCase "rateX2By" ∧ Text.snake "rateX2By" = "rate_x2_by" ∧
      Text.camel "_" "rate_x2_by" = "rateX2By" ∧
      Text.IsCamelCase "rateX2by" ∧
      Language.python.enumerationModule "rateX2by" ≠
        Language.python.enumerationModule "rateX2By" := by
  have camelCase : Text.IsCamelCase "rateX2By" := by decide +kernel
  have otherCamel : Text.IsCamelCase "rateX2by" := by decide +kernel
  obtain ⟨restored, -, apart⟩ := names_of_isCamelCase camelCase
  have words : Text.snake "rateX2By" = "rate_x2_by" := by decide +kernel
  rw [words] at restored
  exact ⟨camelCase, words, restored, otherCamel,
    ((apart _ otherCamel (by decide)).2 .python).1⟩

end ContractDictionary
