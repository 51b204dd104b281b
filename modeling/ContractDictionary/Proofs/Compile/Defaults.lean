import ContractDictionary.Proofs.Compile.Sections
import Mathlib.Data.List.TakeWhile

/-!
# Defaults and allowed values of terms

What a term is given for the default that a document writes: nothing for white space, and else a
default that suits the type of the term.  A number that cannot be read is zero and leaves a
warning, so the warnings of a compilation are those of its numeric terms.
-/

namespace ContractDictionary

namespace Text

theorem trimChars_eq_nil_iff {cs : List Char} :
    trimChars cs = [] ↔ ∀ c ∈ cs, isBlank c = true := by
  unfold trimChars trimLeft
  rw [List.reverse_eq_nil_iff, List.dropWhile_eq_nil_iff]
  constructor
  · intro later c member
    rw [← List.takeWhile_append_dropWhile (p := isBlank) (l := cs), List.mem_append] at member
    rcases member with leading | member
    · exact List.mem_takeWhile_imp leading
    · exact later c (List.mem_reverse.2 member)
  · intro blank c member
    exact blank c ((List.dropWhile_sublist isBlank).mem (List.mem_reverse.1 member))

/-- Nothing remains of a text of white space, and something of every other. -/
theorem trim_eq_empty_iff {text : String} :
    trim text = "" ↔ text.toList.all isBlank = true := by
  rw [List.all_eq_true, ← trimChars_eq_nil_iff, ← String.toList_eq_nil_iff, trim,
    String.toList_ofList]

end Text

/--
The default in normal form of the term with a key: the text without white space around it, with
letters for zeros in the acronym of a scaling effect; nothing for a text of white space.
-/
def TermRecord.normalDefault? (record : TermRecord) (key : String) : Option String :=
  match record.default with
  | none => none
  | some text =>
      if text.toList.all Text.isBlank then none
      else if key = scalingEffectTerm then some (repairAcronym (Text.trim text))
      else some (Text.trim text)

theorem repairAcronym_ne_empty {acronym : String} (notEmpty : acronym ≠ "") :
    repairAcronym acronym ≠ "" := by
  unfold repairAcronym
  cases found : scalingAcronyms.lookup acronym with
  | none => exact notEmpty
  | some repaired =>
      obtain ⟨front, rest, entries, -⟩ := List.lookup_eq_some_iff.1 found
      have member : (acronym, repaired) ∈ scalingAcronyms := by
        rw [entries]
        exact List.mem_append_right _ List.mem_cons_self
      have letters : ∀ entry ∈ scalingAcronyms, entry.2 ≠ "" := by decide
      exact letters _ member

theorem TermRecord.normalDefault?_eq_none_iff {record : TermRecord} {key : String} :
    record.normalDefault? key = none ↔
      ∀ text, record.default = some text → ∀ c ∈ text.toList, Text.isBlank c = true := by
  unfold normalDefault?
  cases record.default with
  | none => simp
  | some text =>
      simp only [Option.some.injEq, forall_eq']
      split
      · next blank => exact iff_of_true rfl (List.all_eq_true.1 blank)
      · next other =>
          refine iff_of_false ?_ (mt List.all_eq_true.2 other)
          split <;> exact Option.some_ne_none _

theorem TermRecord.ne_empty_of_normalDefault? {record : TermRecord} {key text : String}
    (given : record.normalDefault? key = some text) : text ≠ "" := by
  unfold normalDefault? at given
  split at given
  · cases given
  · next written _ =>
      split at given
      · cases given
      · next other =>
          have trimmed : Text.trim written ≠ "" := mt Text.trim_eq_empty_iff.1 other
          split at given
          · cases given
            exact repairAcronym_ne_empty trimmed
          · cases given
            exact trimmed

theorem default_normalize (taxonomy : Keyed ContractTypeRecord) (key : String)
    (record : TermRecord) :
    (record.normalize taxonomy key).default = record.normalDefault? key := by
  have trimmed : (record.normalize taxonomy key).default =
      if key = scalingEffectTerm then (trimDefault record.default).map repairAcronym
      else trimDefault record.default := by
    unfold TermRecord.normalize
    split <;> split <;> rfl
  rw [trimmed, trimDefault, TermRecord.normalDefault?]
  cases record.default with
  | none => split <;> rfl
  | some text =>
      by_cases blank : text.toList.all Text.isBlank = true
      · simp only [Option.map_some, if_pos blank, Text.trim_eq_empty_iff.2 blank]
        split <;> rfl
      · have kept : Text.trim text ≠ "" := mt Text.trim_eq_empty_iff.1 blank
        simp only [Option.map_some, if_neg blank, Option.filter_some, ne_eq, kept,
          not_false_eq_true, decide_true, if_true]

/-- The default is what a text stands for as a default of a scalar type. -/
structure TermDefault.Denotes (default : TermDefault) (scalar : ScalarType) (text : String) :
    Prop where
  notEmpty : text ≠ ""
  enumerated : scalar = .enumeration → default = .acronym (Text.upper text)
  /-- A number is finite, and zero where the text is none. -/
  numeric : scalar = .real → ∃ value, default = .real value ∧ value.isFinite = true ∧
    value = (finiteReal? text).getD .zero
  textual : scalar ≠ .enumeration → scalar ≠ .real → default = .text text

theorem isFinite_of_finiteReal? (text : String) :
    ((finiteReal? text).getD .zero).isFinite = true := by
  cases found : finiteReal? text with
  | none => rfl
  | some value => exact (Option.filter_eq_some_iff.1 found).2

theorem denotes_ofText {scalar : ScalarType} {text : String} (notEmpty : text ≠ "") :
    (TermDefault.ofText scalar text).Denotes scalar text where
  notEmpty := notEmpty
  enumerated := by
    rintro rfl
    rfl
  numeric := by
    rintro rfl
    exact ⟨_, rfl, isFinite_of_finiteReal? text, rfl⟩
  textual := by
    intro notEnumerated notReal
    cases scalar with
    | enumeration => exact absurd rfl notEnumerated
    | real => exact absurd rfl notReal
    | _ => rfl

/--
The term is what a record under a key stands for in a document with some contract types: its
default is the one in normal form, and its values are those in normal form in their order.
-/
structure TermRecord.StandsFor (record : TermRecord) (taxonomy : Keyed ContractTypeRecord)
    (key : String) (term : Term) : Prop where
  identifier : term.identifier = record.identifier
  type : record.type = term.type.text
  absent : term.default = none ↔
    ∀ text, record.default = some text → ∀ c ∈ text.toList, Text.isBlank c = true
  present : ∀ default, term.default = some default →
    ∃ text, record.normalDefault? key = some text ∧ default.Denotes term.scalarType text
  members : term.scalarType = .enumeration →
    ∃ records, (record.normalize taxonomy key).allowedValues.mapM MemberRecord.ofJson =
        .ok records ∧
      term.allowedValues =
        records.map fun record => .member (record.member (some (defaultAcronym term.default)))
  scalars : term.scalarType ≠ .enumeration →
    term.allowedValues = (record.normalize taxonomy key).allowedValues.map .scalar

theorem standsFor_of_compileTerm {record : TermRecord} {taxonomy : Keyed ContractTypeRecord}
    {key : String} {term : Term}
    (compiled : (record.normalize taxonomy key).compile key = .ok term) :
    record.StandsFor taxonomy key term := by
  simp only [TermRecord.compile, bind_eq_ok, pure_eq_ok, typeAt_eq_ok_iff, type_normalize,
    default_normalize] at compiled
  obtain ⟨type, declared, allowed, values, rfl⟩ := compiled
  exact {
    identifier := identifier_normalize taxonomy key record
    type := declared
    absent := by
      rw [← TermRecord.normalDefault?_eq_none_iff]
      exact Option.map_eq_none_iff
    present := by
      intro default given
      obtain ⟨text, normal, rfl⟩ := Option.map_eq_some_iff.1 given
      exact ⟨text, normal, denotes_ofText (TermRecord.ne_empty_of_normalDefault? normal)⟩
    members := by
      intro enumerated
      change type.scalar = .enumeration at enumerated
      unfold allowedValuesOf at values
      split at values
      · obtain ⟨_, declared, rfl⟩ := map_eq_ok.1 values
        obtain ⟨records, read, rfl⟩ := membersOf_eq_ok.1 declared
        exact ⟨records, read, List.map_map⟩
      · next other => exact absurd enumerated other
    scalars := by
      intro other
      change type.scalar ≠ .enumeration at other
      unfold allowedValuesOf at values
      split at values
      · next enumerated => exact absurd enumerated other
      · exact (Except.ok.inj values).symm }

/-- The default of an enumerated term is the one in normal form, in upper case. -/
theorem default_of_standsFor {record : TermRecord} {taxonomy : Keyed ContractTypeRecord}
    {key : String} {term : Term} (stands : record.StandsFor taxonomy key term)
    (enumerated : term.scalarType = .enumeration) {text : String}
    (normal : record.normalDefault? key = some text) :
    term.default = some (.acronym (Text.upper text)) := by
  cases given : term.default with
  | none =>
      have absent : record.normalDefault? key = none :=
        TermRecord.normalDefault?_eq_none_iff.2 (stands.absent.1 given)
      rw [normal] at absent
      cases absent
  | some default =>
      obtain ⟨own, read, denoted⟩ := stands.present default given
      cases normal.symm.trans read
      rw [denoted.enumerated enumerated]

def DeclaresReal (declaration : String) : Prop :=
  declaration = "Real" ∨ declaration = "Real[]"

instance (declaration : String) : Decidable (DeclaresReal declaration) :=
  inferInstanceAs (Decidable (_ ∨ _))

theorem declaresReal_text_iff {type : DeclaredType} :
    DeclaresReal type.text ↔ type.scalar = .real := by
  obtain ⟨scalar, isArray⟩ := type
  unfold DeclaresReal
  cases scalar <;> cases isArray <;> decide

/-- The warning about the term with a key: its type is numeric, but not its default. -/
def TermRecord.unreadable? (record : TermRecord) (key : String) : Option Warning :=
  match record.normalDefault? key with
  | none => none
  | some text =>
      if DeclaresReal record.type ∧ finiteReal? text = none then
        some (.unreadableReal record.identifier text)
      else
        none

theorem warning?_eq (record : TermRecord) :
    record.warning? = record.default.bind fun text =>
      if DeclaresReal record.type ∧ finiteReal? text = none then
        some (.unreadableReal record.identifier text)
      else
        none := by
  unfold TermRecord.warning?
  cases read : DeclaredType.ofText record.type with
  | error error =>
      have notReal : ¬ DeclaresReal record.type := by
        rintro (real | reals)
        · rw [real] at read
          cases read
        · rw [reals] at read
          cases read
      cases record.default <;> simp [notReal]
  | ok type =>
      simp only [ofText_eq_ok_iff.1 read, declaresReal_text_iff]
      cases record.default with
      | none => cases type.scalar <;> rfl
      | some text => cases type.scalar <;> simp [realWarning?]

theorem warning?_normalize (taxonomy : Keyed ContractTypeRecord) (key : String)
    (record : TermRecord) :
    (record.normalize taxonomy key).warning? = record.unreadable? key := by
  rw [warning?_eq, default_normalize, type_normalize, identifier_normalize,
    TermRecord.unreadable?]
  cases record.normalDefault? key <;> rfl

theorem terms_of_normalize {document normal : Document}
    (normalized : document.normalize = .ok normal) :
    normal.terms = document.terms.map (TermRecord.normalize document.taxonomy) := by
  rw [eq_of_normalize normalized]

theorem exists_terms_of_compile {document : Document} {dictionary : Dictionary}
    {warnings : List Warning} (compiled : document.compile = .ok ⟨dictionary, warnings⟩) :
    ∃ terms, dictionary.terms = .ofList terms ∧
      document.terms.entries.mapM (fun entry =>
        (entry.2.normalize document.taxonomy entry.1).compile entry.1) = .ok terms := by
  obtain ⟨normal, normalized, built, -⟩ := compile_eq_ok_iff.1 compiled
  obtain ⟨terms, compiledTerms, listed⟩ := built.terms
  rw [compileSection, terms_of_normalize normalized, mapM_eq_ok] at compiledTerms
  exact ⟨terms, listed, mapM_eq_ok.2 (List.forall₂_map_left_iff.1 compiledTerms)⟩

theorem mem_terms_iff {document : Document} {dictionary : Dictionary}
    {warnings : List Warning} (compiled : document.compile = .ok ⟨dictionary, warnings⟩)
    {term : Term} :
    term ∈ dictionary.terms.toList ↔ ∃ entry ∈ document.terms.entries,
      (entry.2.normalize document.taxonomy entry.1).compile entry.1 = .ok term := by
  obtain ⟨terms, listed, compiledTerms⟩ := exists_terms_of_compile compiled
  rw [listed, EntitySet.mem_ofList]
  constructor
  · exact exists_of_mapM_eq_ok compiledTerms
  · rintro ⟨entry, member, own⟩
    obtain ⟨other, found, same⟩ := exists_result_of_mapM_eq_ok compiledTerms member
    cases own.symm.trans same
    exact found

/--
The terms of a compiled dictionary are what the records of the document stand for, and the
warnings are those about its numeric terms, both one for one in the order of the keys.
-/
theorem terms_of_compile {document : Document} {dictionary : Dictionary}
    {warnings : List Warning} (compiled : document.compile = .ok ⟨dictionary, warnings⟩) :
    (∃ terms, dictionary.terms = .ofList terms ∧
      List.Forall₂ (fun entry term => entry.2.StandsFor document.taxonomy entry.1 term)
        document.terms.entries terms) ∧
    warnings = document.terms.entries.filterMap fun entry => entry.2.unreadable? entry.1 := by
  constructor
  · obtain ⟨terms, listed, compiledTerms⟩ := exists_terms_of_compile compiled
    exact ⟨terms, listed, (mapM_eq_ok.1 compiledTerms).imp
      fun entry term own => standsFor_of_compileTerm own⟩
  · obtain ⟨normal, normalized, -, rfl⟩ := compile_eq_ok_iff.1 compiled
    rw [Document.warnings, terms_of_normalize normalized, Keyed.values_map, List.filterMap_map]
    exact List.filterMap_congr fun entry _ => warning?_normalize _ _ _

/-- Defaults of several types, one of which is white space and one an infinite number. -/
def writtenDefaults : Document :=
  .plain [.plain "limit" "Real[]" (some "inf"), .plain "note" "Varchar" (some " \t"),
    .plain "rate" "Real" (some " 1.5 "), .plain scalingEffectTerm "Enum" (some " I00\n")] [] []

theorem terms_of_writtenDefaults :
    ∃ dictionary terms,
      writtenDefaults.compile = .ok ⟨dictionary, [.unreadableReal "limit" "inf"]⟩ ∧
      dictionary.terms = .ofList terms ∧
      List.Forall₂ (fun entry term => entry.2.StandsFor writtenDefaults.taxonomy entry.1 term)
        writtenDefaults.terms.entries terms ∧
      (writtenDefaults.terms.entries.map fun entry => entry.2.normalDefault? entry.1) =
        [none, none, none, some "inf", none, some "1.5", some "IOO"] := by
  obtain ⟨⟨dictionary, warnings⟩, compiled⟩ :=
    faultOf_eq_none.1 (show faultOf writtenDefaults.compile = none by decide +kernel)
  obtain ⟨⟨terms, listed, each⟩, warned⟩ := terms_of_compile compiled
  have unreadable : (writtenDefaults.terms.entries.filterMap fun entry =>
      entry.2.unreadable? entry.1) = [.unreadableReal "limit" "inf"] := by
    decide +kernel
  have same : warnings = [.unreadableReal "limit" "inf"] := warned.trans unreadable
  rw [same] at compiled
  exact ⟨dictionary, terms, compiled, listed, each, by decide +kernel⟩

end ContractDictionary
