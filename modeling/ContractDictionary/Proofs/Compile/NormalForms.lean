import ContractDictionary.Proofs.Compile.ScalingEffects
import Mathlib.Data.List.DropRight

/-!
# What the normal form changes

The normal form of a document is a document of the same terms under the same keys.  Besides the
identifiers of the references it changes allowed values and defaults alone: the values of the
contract types have others behind them, defaults lose the white space around them, and acronyms of
scaling effects get letters.
-/

namespace ContractDictionary

namespace Text

/-- The text is the trimmed one between white space, which this neither begins nor ends with. -/
structure IsTrimmed (text trimmed : String) : Prop where
  surrounded : ∃ front back, text.toList = front ++ trimmed.toList ++ back ∧
    (∀ c ∈ front, isBlank c = true) ∧ ∀ c ∈ back, isBlank c = true
  first : ∀ c ∈ trimmed.toList.head?, isBlank c = false
  last : ∀ c ∈ trimmed.toList.getLast?, isBlank c = false

theorem isTrimmed_trim (text : String) : IsTrimmed text (trim text) := by
  have chars : (trim text).toList = (trimLeft text.toList).rdropWhile isBlank :=
    String.toList_ofList
  constructor
  case surrounded =>
    refine ⟨text.toList.takeWhile isBlank, (trimLeft text.toList).rtakeWhile isBlank, ?_,
      fun c => List.mem_takeWhile_imp, fun c => List.mem_rtakeWhile_imp⟩
    rw [chars, List.append_assoc, List.rdropWhile_append_rtakeWhile, trimLeft,
      List.takeWhile_append_dropWhile]
  case first =>
    intro c first
    rw [chars] at first
    obtain ⟨back, whole⟩ := List.rdropWhile_prefix isBlank (trimLeft text.toList)
    obtain ⟨rest, begins⟩ := List.head?_eq_some_iff.1 first
    rw [begins] at whole
    exact isBlank_head_trimLeft whole.symm
  case last =>
    intro c last
    rw [chars] at last
    obtain ⟨filled, same⟩ := List.mem_getLast?_eq_getLast last
    rw [same]
    exact Bool.eq_false_iff.2 (List.rdropWhile_last_not isBlank _ filled)

theorem trimLeft_eq_self {cs : List Char} (first : ∀ c ∈ cs.head?, isBlank c = false) :
    trimLeft cs = cs := by
  cases cs with
  | nil => rfl
  | cons c rest =>
      refine List.dropWhile_cons_of_neg ?_
      rw [first c rfl]
      exact Bool.false_ne_true

theorem IsTrimmed.trim_eq {text trimmed : String} (trims : IsTrimmed text trimmed) :
    trim text = trimmed := by
  obtain ⟨⟨front, back, whole, before, after⟩, first, last⟩ := trims
  rw [trim, ← String.toList_inj, String.toList_ofList, whole]
  generalize trimmed.toList = middle at first last
  by_cases filled : middle = []
  · subst filled
    refine trimChars_eq_nil_iff.2 fun c member => ?_
    rw [List.append_nil, List.mem_append] at member
    exact member.elim (before c) (after c)
  · have begins : (middle ++ back).head? = middle.head? := by
      rw [List.head?_append_of_ne_nil _ filled]
    have fromLeft : trimLeft (front ++ middle ++ back) = middle ++ back := by
      rw [List.append_assoc, trimLeft, List.dropWhile_append_of_pos before]
      exact trimLeft_eq_self (begins ▸ first)
    have fromRight : trimLeft (middle ++ back).reverse = middle.reverse := by
      rw [List.reverse_append, trimLeft,
        List.dropWhile_append_of_pos fun c member => after c (List.mem_reverse.1 member)]
      exact trimLeft_eq_self (by rwa [List.head?_reverse])
    rw [trimChars, fromLeft, fromRight, List.reverse_reverse]

end Text

/-- The acronym of a scaling effect with letters in the place of zeros. -/
inductive Lettered : String → String → Prop where
  | none : Lettered "000" "OOO"
  | interest : Lettered "I00" "IOO"
  | notional : Lettered "0N0" "ONO"
  | both : Lettered "IN0" "INO"
  | other {acronym : String} (regular : acronym ∉ ["000", "I00", "0N0", "IN0"]) :
      Lettered acronym acronym

theorem lettered_repairAcronym (acronym : String) : Lettered acronym (repairAcronym acronym) := by
  obtain kept | listed := repairAcronym_cases acronym
  · rw [kept]
    refine .other fun zeros => ?_
    have changed : ∀ name ∈ ["000", "I00", "0N0", "IN0"], repairAcronym name ≠ name := by decide
    exact changed acronym zeros kept
  · generalize repairAcronym acronym = letters at listed
    simp only [scalingAcronyms, List.mem_cons, List.not_mem_nil, or_false, Prod.mk.injEq] at listed
    obtain ⟨rfl, rfl⟩ | ⟨rfl, rfl⟩ | ⟨rfl, rfl⟩ | ⟨rfl, rfl⟩ := listed
    · exact .none
    · exact .interest
    · exact .notional
    · exact .both

/-- The default of the term with a key as it is written, and in normal form. -/
inductive NormalDefault (key : String) : Option String → Option String → Prop where
  | absent : NormalDefault key none none
  | blank {text : String} (blank : ∀ c ∈ text.toList, Text.isBlank c = true) :
      NormalDefault key (some text) none
  | trimmed {text trimmed : String} (other : key ≠ "scalingEffect") (filled : trimmed ≠ "")
      (trims : Text.IsTrimmed text trimmed) : NormalDefault key (some text) (some trimmed)
  | lettered {text trimmed letters : String} (scaling : key = "scalingEffect")
      (filled : trimmed ≠ "") (trims : Text.IsTrimmed text trimmed)
      (lettered : Lettered trimmed letters) : NormalDefault key (some text) (some letters)

theorem normalDefault_normalDefault? (record : TermRecord) (key : String) :
    NormalDefault key record.default (record.normalDefault? key) := by
  unfold TermRecord.normalDefault?
  cases record.default with
  | none => exact .absent
  | some text =>
      by_cases blank : text.toList.all Text.isBlank = true
      · simp only [blank, if_true]
        exact .blank (List.all_eq_true.1 blank)
      · have filled : Text.trim text ≠ "" := mt Text.trim_eq_empty_iff.1 blank
        have trims := Text.isTrimmed_trim text
        by_cases scaling : key = scalingEffectTerm
        · simp only [blank, scaling, if_true]
          exact .lettered rfl filled trims (lettered_repairAcronym _)
        · simp only [blank, scaling, if_false]
          exact .trimmed scaling filled trims

/-- A field of an allowed value of a scaling effect, and with letters in its acronym. -/
inductive LetteredField : String × Json → String × Json → Prop where
  | acronym {zeros letters : String} (lettered : Lettered zeros letters) :
      LetteredField ("acronym", .text zeros) ("acronym", .text letters)
  | other {field : String × Json} (regular : ∀ text, field ≠ ("acronym", .text text)) :
      LetteredField field field

/-- An allowed value of a scaling effect, and with letters in its acronym if it is a record. -/
inductive LetteredValue : Json → Json → Prop where
  | record {fields fields' : List (String × Json)}
      (each : List.Forall₂ LetteredField fields fields') :
      LetteredValue (.record fields) (.record fields')
  | other {value : Json} (regular : ∀ fields, value ≠ .record fields) : LetteredValue value value

theorem letteredField_repairField (field : String × Json) :
    LetteredField field (repairField field) := by
  unfold repairField
  split
  · exact .acronym (lettered_repairAcronym _)
  · next regular => exact .other regular

theorem letteredValue_repairValue (value : Json) : LetteredValue value (repairValue value) := by
  unfold repairValue
  split
  · refine .record ?_
    rw [List.forall₂_map_right_iff]
    exact List.forall₂_same.2 fun field _ => letteredField_repairField field
  · next regular => exact .other regular

/-- The allowed values of the term with a key as they are written, and in normal form. -/
inductive NormalValues (key : String) (values : List Json) : List Json → Prop where
  | extended (types : key = "contractType") (added : List Json) :
      NormalValues key values (values ++ added)
  | lettered {values' : List Json} (scaling : key = "scalingEffect")
      (each : List.Forall₂ LetteredValue values values') : NormalValues key values values'
  | same (other : key ∉ ["contractType", "scalingEffect"]) : NormalValues key values values

theorem normalValues_normalize (taxonomy : Keyed ContractTypeRecord) (key : String)
    (record : TermRecord) :
    NormalValues key record.allowedValues (record.normalize taxonomy key).allowedValues := by
  by_cases scaling : key = scalingEffectTerm
  · rw [scaling, allowedValues_scalingEffect]
    refine .lettered rfl ?_
    rw [List.forall₂_map_right_iff]
    exact List.forall₂_same.2 fun value _ => letteredValue_repairValue value
  · by_cases types : key = contractTypeTerm
    · rw [TermRecord.normalize, if_pos types, if_neg scaling]
      exact .extended types _
    · rw [TermRecord.normalize, if_neg types, if_neg scaling]
      refine .same fun listed => ?_
      simp only [List.mem_cons, List.not_mem_nil, or_false] at listed
      exact listed.elim types scaling

/-- A term under a key and its normal form, which differ in allowed values and default alone. -/
structure TermRecord.NormalizesTo (record : TermRecord) (key : String) (normal : TermRecord) :
    Prop where
  rest : normal =
    { record with allowedValues := normal.allowedValues, default := normal.default }
  values : NormalValues key record.allowedValues normal.allowedValues
  default : NormalDefault key record.default normal.default

theorem normalizesTo_normalize (taxonomy : Keyed ContractTypeRecord) (key : String)
    (record : TermRecord) : record.NormalizesTo key (record.normalize taxonomy key) where
  rest := by
    unfold TermRecord.normalize
    split <;> split <;> rfl
  values := normalValues_normalize taxonomy key record
  default := by
    rw [default_normalize]
    exact normalDefault_normalDefault? record key

/-- A document and its normal form, which differ in the references and in the terms alone. -/
structure Document.NormalizesTo (document normal : Document) : Prop where
  rest : normal =
    { document with
      terms := normal.terms
      referenceRole := normal.referenceRole
      referenceType := normal.referenceType }
  referenceRole : normal.referenceRole =
    { document.referenceRole with identifier := some "referenceRole" }
  referenceType : normal.referenceType =
    { document.referenceType with identifier := some "referenceType" }
  /-- The terms stand under the same keys. -/
  terms : List.Forall₂ (fun entry normal =>
      normal.1 = entry.1 ∧ TermRecord.NormalizesTo entry.2 entry.1 normal.2)
    document.terms.entries normal.terms.entries

/-- A document that declares the contract types has a normal form, which changes no more than the
identifiers of references and the values and defaults of terms. -/
theorem normalizesTo_of_contractType {document : Document} {record : TermRecord}
    (declared : document.terms.get? "contractType" = some record) :
    ∃ normal, document.normalize = .ok normal ∧ document.NormalizesTo normal := by
  refine ⟨_, by rw [Document.normalize, contractTypeTerm, declared], rfl, rfl, rfl, ?_⟩
  refine List.forall₂_map_right_iff.2 (List.forall₂_same.2 fun entry _ => ⟨rfl, ?_⟩)
  exact normalizesTo_normalize document.taxonomy entry.1 entry.2

/-- Scaling effects of which only the first is a record with an acronym, a default of white space,
and a contract type without a member. -/
def looselyWritten : Document :=
  let effects : TermRecord := { TermRecord.plain scalingEffectTerm "Enum" (some " 0N0\n") with
    allowedValues := [.object [("acronym", .text "000"), ("name", .text "000")],
      .object [("name", .text "I00")], .list [.text "000"], .text "000"] }
  .plain [effects, .plain "note" "Varchar" (some " \t")] [.plain "ANN" "ann"] []

theorem normalizesTo_of_looselyWritten :
    ∃ record, looselyWritten.terms.get? "contractType" = some record ∧
      ∃ normal, looselyWritten.normalize = .ok normal ∧ looselyWritten.NormalizesTo normal ∧
        normal.terms.entries.map (fun entry =>
            (entry.1, entry.2.allowedValues.length, entry.2.default)) =
          [("contractPerformance", 0, none), ("contractRole", 0, none),
            ("contractType", 1, none), ("note", 0, none), ("scalingEffect", 4, some "ONO")] := by
  obtain ⟨record, declared⟩ : ∃ record, looselyWritten.terms.get? "contractType" = some record :=
    ⟨_, rfl⟩
  have evaluated : looselyWritten.normalize.toOption.any (fun normal => decide
      (normal.terms.entries.map (fun entry =>
          (entry.1, entry.2.allowedValues.length, entry.2.default)) =
        [("contractPerformance", 0, none), ("contractRole", 0, none),
          ("contractType", 1, none), ("note", 0, none), ("scalingEffect", 4, some "ONO")])) =
      true := by
    decide +kernel
  obtain ⟨normal, normalized, shown⟩ := exists_ok_of_any evaluated
  obtain ⟨_, same, changes⟩ := normalizesTo_of_contractType declared
  cases normalized.symm.trans same
  exact ⟨record, declared, normal, normalized, changes, of_decide_eq_true shown⟩

end ContractDictionary
