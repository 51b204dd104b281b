import ContractDictionary.Proofs.Compile.Defaults
import ContractDictionary.Proofs.Document.AlikeMembers
import ContractDictionary.Proofs.Target.Literals
import ContractDictionary.Proofs.Text.Case

/-!
# Defaults of scaling effects

The acronyms of scaling effects that are written with zeros get letters, in the default as well as
in the members.  An acronym gets them only if it is written in upper case, and only in a member
that is written as a record, whereas a default names a member in any case.  So the repair parts
a default from the member that it named exactly if it changes one of the two alone.
-/

namespace ContractDictionary

open Text (upper upper_upper sameIgnoringCase)

/-- An acronym is repaired by an entry of the table, or it is left alone. -/
theorem repairAcronym_cases (acronym : String) :
    repairAcronym acronym = acronym ∨ (acronym, repairAcronym acronym) ∈ scalingAcronyms := by
  unfold repairAcronym
  cases found : scalingAcronyms.lookup acronym with
  | none => exact .inl rfl
  | some letters => exact .inr (mem_of_lookup found)

/-- The entries of the table are in upper case and change what they repair. -/
theorem upper_of_mem_scalingAcronyms :
    ∀ entry ∈ scalingAcronyms,
      upper entry.1 = entry.1 ∧ upper entry.2 = entry.2 ∧ entry.2 ≠ entry.1 := by
  decide +kernel

/-- Two spellings of one acronym remain so if the repair changes both or none. -/
theorem upper_repairAcronym_iff {left right : String} (same : upper left = upper right) :
    upper (repairAcronym left) = upper (repairAcronym right) ↔
      (repairAcronym left = left ↔ repairAcronym right = right) := by
  obtain keptLeft | inLeft := repairAcronym_cases left <;>
    obtain keptRight | inRight := repairAcronym_cases right
  · simp only [keptLeft, keptRight, same]
  · obtain ⟨own, letters, changed⟩ := upper_of_mem_scalingAcronyms _ inRight
    simp only [keptLeft, same, own, letters, changed, changed.symm, true_iff]
  · obtain ⟨own, letters, changed⟩ := upper_of_mem_scalingAcronyms _ inLeft
    simp only [keptRight, ← same, own, letters, changed, iff_true]
  · have equal : left = right :=
      (upper_of_mem_scalingAcronyms _ inLeft).1.symm.trans
        (same.trans (upper_of_mem_scalingAcronyms _ inRight).1)
    rw [equal]
    exact iff_of_true rfl Iff.rfl

/-- The member that a value writes once its acronym is repaired, as it is in records alone. -/
def MemberRecord.repaired (value : Json) (member : MemberRecord) : MemberRecord :=
  match value with
  | .record _ => { member with acronym := repairAcronym member.acronym }
  | _ => member

section

variable {room : Nat} {fields : List (String × Json)} {found found' : Fields}

/-- Fields other than the acronym are read as before. -/
theorem get_of_repairField
    (finds : FindsRecord memberShapes room (Json.fieldTrees fields) found)
    (finds' : FindsRecord memberShapes room (Json.fieldTrees (fields.map repairField)) found')
    {α : Type} {field : Field α} (listed : field.shape ∈ memberShapes)
    (other : field.name ≠ "acronym") : field.get found' = field.get found := by
  refine finds.get_congr finds' listed ?_
  rw [lookup_fieldTrees, lookup_fieldTrees, lookup_map_repairField]
  have kept (value : Json) : (repairField (field.name, value)).2 = value := by
    obtain kept | ⟨_, own, -⟩ := repairField_eq (field.name, value)
    · rw [kept]
    · exact absurd (congrArg Prod.fst own) other
  simp only [kept, Option.map_id']

theorem getAcronym_of_repairField
    (finds : FindsRecord memberShapes room (Json.fieldTrees fields) found)
    (finds' : FindsRecord memberShapes room (Json.fieldTrees (fields.map repairField)) found')
    {acronym : String} (read : acronymField.get found = .ok acronym) :
    acronymField.get found' = .ok (repairAcronym acronym) := by
  have listed : acronymField.shape ∈ memberShapes := by simp [memberShapes]
  have before : found.found.lookup acronymField.name = (fields.lookup "acronym").map Json.toTree :=
    (finds.lookup _ listed).trans (lookup_fieldTrees fields "acronym")
  have after := (lookup_fieldTrees (fields.map repairField) "acronym")
  rw [lookup_map_repairField] at after
  cases written : fields.lookup "acronym" with
  | none =>
      rw [written] at before
      rw [Field.get, before] at read
      cases read
  | some value =>
      rw [written] at before after
      rw [Field.get, before] at read
      rw [finds'.get_eq listed after]
      cases value with
      | text own =>
          cases read
          rfl
      | _ => cases read

end

theorem ofJson_repairValue {value : Json} {member : MemberRecord}
    (read : MemberRecord.ofJson value = .ok member) :
    MemberRecord.ofJson (repairValue value) = .ok (member.repaired value) := by
  cases value with
  | record fields =>
      obtain ⟨_, read'⟩ := isMember_repairValue_iff.2 ⟨member, read⟩
      obtain ⟨found, scanned, give⟩ := readMember_eq_ok_iff.1 read
      obtain ⟨found', scanned', -⟩ := readMember_eq_ok_iff.1 read'
      have finds := (finds_of_readFields scanned).2
      have finds' := (finds_of_readFields scanned').2
      have same {α : Type} {field : Field α} (listed : field.shape ∈ memberShapes)
          (other : field.name ≠ "acronym") : field.get found' = field.get found :=
        get_of_repairField finds finds' listed other
      refine readMember_eq_ok_iff.2 ⟨found', scanned', ?_⟩
      constructor
      case option => exact (same (by simp [memberShapes]) (by decide)).trans give.option
      case identifier => exact (same (by simp [memberShapes]) (by decide)).trans give.identifier
      case name => exact (same (by simp [memberShapes]) (by decide)).trans give.name
      case acronym => exact getAcronym_of_repairField finds finds' give.acronym
      case description => exact (same (by simp [memberShapes]) (by decide)).trans give.description
  | _ => exact read

theorem mapM_ofJson_repairValue {values : List Json} {members : List MemberRecord}
    (read : (values.map repairValue).mapM MemberRecord.ofJson = .ok members) :
    ∃ declared, values.mapM MemberRecord.ofJson = .ok declared ∧
      members = values.zipWith MemberRecord.repaired declared := by
  induction values generalizing members with
  | nil =>
      cases read
      exact ⟨[], rfl, rfl⟩
  | cons value rest ih =>
      rw [List.map_cons] at read
      obtain _ | ⟨first, others⟩ := mapM_eq_ok.1 read
      obtain ⟨member, own⟩ := isMember_repairValue_iff.1 ⟨_, first⟩
      obtain ⟨declared, later, rfl⟩ := ih (mapM_eq_ok.2 others)
      cases first.symm.trans (ofJson_repairValue own)
      exact ⟨member :: declared, mapM_eq_ok.2 (.cons own (mapM_eq_ok.1 later)), rfl⟩

/-- A declaration of a single enumerated value. -/
theorem type_eq_of_text {type : DeclaredType} (declared : "Enum" = type.text) :
    type = ⟨.enumeration, false⟩ :=
  Except.ok.inj ((ofText_eq_ok_iff.2 declared).symm.trans rfl)

/-- The default of a scaling effect that is not white space has its acronym repaired. -/
theorem normalDefault?_scalingEffect {record : TermRecord} {text : String}
    (written : record.default = some text) (notBlank : text.toList.all Text.isBlank = false) :
    record.normalDefault? scalingEffectTerm = some (repairAcronym (Text.trim text)) := by
  rw [TermRecord.normalDefault?, written]
  simp only [notBlank, Bool.false_eq_true, if_false, if_true]

theorem allowedValues_scalingEffect (taxonomy : Keyed ContractTypeRecord) (record : TermRecord) :
    (record.normalize taxonomy scalingEffectTerm).allowedValues =
      record.allowedValues.map repairValue := by
  have other : scalingEffectTerm ≠ contractTypeTerm := by decide
  rw [TermRecord.normalize, if_neg other, if_pos rfl]
  rfl

theorem members_scalingEffect {record : TermRecord} {taxonomy : Keyed ContractTypeRecord}
    {term : Term} (stands : record.StandsFor taxonomy scalingEffectTerm term)
    (enumerated : term.scalarType = .enumeration) :
    ∃ members, record.allowedValues.mapM MemberRecord.ofJson = .ok members ∧
      term.members = (record.allowedValues.zipWith MemberRecord.repaired members).map
        (·.member (some (defaultAcronym term.default))) := by
  obtain ⟨records, read, values⟩ := stands.members enumerated
  rw [allowedValues_scalingEffect] at read
  obtain ⟨members, declared, rfl⟩ := mapM_ofJson_repairValue read
  have isEnumerated : term.isEnumerated = true := decide_eq_true enumerated
  refine ⟨members, declared, ?_⟩
  rw [Term.members, if_pos isEnumerated, values, List.filterMap_map]
  exact congrFun List.filterMap_eq_map' _

/-- A token names the same in upper case. -/
theorem EntityInfo.isMatch_upper (info : EntityInfo) (token : String) :
    info.isMatch (upper token) = info.isMatch token := by
  simp only [isMatch, sameIgnoringCase, upper_upper]

/-- A member that had the acronym of the default keeps it if the repair changes both or none. -/
theorem upper_repaired_iff {value : Json} {member : MemberRecord} {token : String}
    (same : upper member.acronym = upper token) :
    upper (member.repaired value).acronym = upper (repairAcronym token) ↔
      ((member.repaired value).acronym = member.acronym ↔ repairAcronym token = token) := by
  cases value with
  | record fields => exact upper_repairAcronym_iff same
  | _ =>
      simp only [MemberRecord.repaired, same, true_iff]
      obtain kept | listed := repairAcronym_cases token
      · simp only [kept]
      · obtain ⟨own, letters, changed⟩ := upper_of_mem_scalingAcronyms _ listed
        simp only [own, letters, changed, changed.symm]

/--
The default of a scaling effect is shown without a warning exactly if it names a member, once the
acronyms of both are repaired.  A member that it named before is still named by its acronym exactly
if the repair changes the acronyms of both or of none.
-/
theorem shown_scalingEffect_iff {document : Document} {dictionary : Dictionary}
    {warnings : List Warning} (compiled : document.compile = .ok ⟨dictionary, warnings⟩)
    {record : TermRecord} (declared : document.terms.get? scalingEffectTerm = some record)
    (single : record.type = "Enum") {text : String} (written : record.default = some text)
    (notBlank : text.toList.all Text.isBlank = false) :
    ∃ term ∈ dictionary.terms.toList,
      record.StandsFor document.taxonomy scalingEffectTerm term ∧
      ∃ members, record.allowedValues.mapM MemberRecord.ofJson = .ok members ∧
        (∀ language,
          (∃ literal, term.literal language = .ok literal ∧
            literal.ShowsNamed term language (upper (repairAcronym (Text.trim text)))) ↔
          ∃ member ∈ record.allowedValues.zipWith MemberRecord.repaired members,
            (member.member none).isMatch (repairAcronym (Text.trim text)) = true) ∧
        ∀ entry ∈ record.allowedValues.zip members,
          sameIgnoringCase entry.2.acronym (Text.trim text) = true →
            (sameIgnoringCase (entry.2.repaired entry.1).acronym
                (repairAcronym (Text.trim text)) = true ↔
              ((entry.2.repaired entry.1).acronym = entry.2.acronym ↔
                repairAcronym (Text.trim text) = Text.trim text)) := by
  obtain ⟨terms, listed, compiledTerms⟩ := exists_terms_of_compile compiled
  obtain ⟨term, found, own⟩ := exists_result_of_mapM_eq_ok compiledTerms (mem_of_lookup declared)
  have stands := standsFor_of_compileTerm own
  have typed : term.type = ⟨.enumeration, false⟩ := type_eq_of_text (single ▸ stands.type)
  have enumerated : term.scalarType = .enumeration := congrArg DeclaredType.scalar typed
  have notArray : term.isArray = false := congrArg DeclaredType.isArray typed
  have given :=
    default_of_standsFor stands enumerated (normalDefault?_scalingEffect written notBlank)
  obtain ⟨members, read, shown⟩ := members_scalingEffect stands enumerated
  refine ⟨term, listed ▸ EntitySet.mem_ofList.2 found, stands, members, read,
    fun language => ?_, fun entry _ same => ?_⟩
  · rw [Term.literal_eq_memberDefault notArray enumerated given, exists_showsNamed_iff, shown]
    simp only [List.mem_map, exists_exists_and_eq_and, EntityInfo.isMatch_upper]
    rfl
  · exact beq_iff_eq.trans (upper_repaired_iff (beq_iff_eq.1 same))

def Document.ofScalingEffect (default : String) (values : List Json) : Document :=
  .plain [{ TermRecord.plain scalingEffectTerm "Enum" (some default) with
    allowedValues := values }] [] []

def zeroEffects : List MemberRecord :=
  [⟨0, "none", "No Scaling", "000", ""⟩, ⟨1, "interest", "Interest", "I00", ""⟩]

/-- A default written as the member that it names, with white space around it. -/
def repairedEffect : Document :=
  .ofScalingEffect " I00\n" (zeroEffects.map MemberRecord.toJson)

theorem shown_repairedEffect :
    ∃ dictionary warnings, repairedEffect.compile = .ok ⟨dictionary, warnings⟩ ∧
      ∃ term ∈ dictionary.terms.toList, ∃ literal, term.literal .python = .ok literal ∧
        literal.ShowsNamed term .python "IOO" := by
  obtain ⟨⟨dictionary, warnings⟩, compiled⟩ :=
    faultOf_eq_none.1 (show faultOf repairedEffect.compile = none by decide +kernel)
  have evaluated : (repairedEffect.terms.get? scalingEffectTerm).any (fun record => decide
      (record.type = "Enum" ∧ record.default = some " I00\n" ∧
        record.allowedValues.mapM MemberRecord.ofJson = .ok zeroEffects ∧
        ∃ member ∈ record.allowedValues.zipWith MemberRecord.repaired zeroEffects,
          (member.member none).isMatch (repairAcronym (Text.trim " I00\n")) = true)) = true := by
    decide +kernel
  obtain ⟨record, declared, held⟩ := (Option.any_eq_true _ _).1 evaluated
  obtain ⟨single, written, own, named⟩ := of_decide_eq_true held
  obtain ⟨term, listed, -, members, read, shown, -⟩ :=
    shown_scalingEffect_iff compiled declared single written (by decide)
  cases own.symm.trans read
  have token : upper (repairAcronym (Text.trim " I00\n")) = "IOO" := by decide +kernel
  rw [token] at shown
  exact ⟨dictionary, warnings, compiled, term, listed, (shown .python).2 named⟩

def lowerCaseEffect : Document :=
  .ofScalingEffect "i00" (zeroEffects.map MemberRecord.toJson)

def listedEffect : Document :=
  .ofScalingEffect "I00"
    [MemberRecord.toJson ⟨0, "none", "No Scaling", "000", ""⟩,
      .list [.integer 1, .text "interest", .text "Interest", .text "I00", .text ""]]

/-- The default of the scaling effect names a member as they are written, but the document compiles
to a scaling effect that is shown as its first member, with a warning. -/
structure Document.PartsEffect (document : Document) : Prop where
  names : ∃ record, document.terms.get? scalingEffectTerm = some record ∧ record.type = "Enum" ∧
    ∃ text, record.default = some text ∧ text.toList.all Text.isBlank = false ∧
      ∃ members, record.allowedValues.mapM MemberRecord.ofJson = .ok members ∧
        ∃ member ∈ members, sameIgnoringCase member.acronym (Text.trim text) = true
  warns : ∃ dictionary warnings, document.compile = .ok ⟨dictionary, warnings⟩ ∧
    ∃ term ∈ dictionary.terms.toList, term.identifier = scalingEffectTerm ∧
      ∃ literal, term.literal .python = .ok literal ∧ ∃ token ∈ ["I00", "IOO"],
        literal.warning = some (.unmatchedDefault scalingEffectTerm token "OOO")

/-- The repair parts a default from its member if they are in different case, or if the member is
written as a list. -/
theorem partsEffect_of_spelling : lowerCaseEffect.PartsEffect ∧ listedEffect.PartsEffect := by
  have names : ∀ document ∈ [lowerCaseEffect, listedEffect],
      (document.terms.get? scalingEffectTerm).any (fun record => decide (record.type = "Enum" ∧
        ∃ text ∈ record.default, text.toList.all Text.isBlank = false ∧
          (record.allowedValues.mapM MemberRecord.ofJson).toOption.any (fun members =>
            members.any fun member =>
              sameIgnoringCase member.acronym (Text.trim text)) = true)) = true := by
    decide +kernel
  have warns : ∀ document ∈ [lowerCaseEffect, listedEffect],
      document.compile.toOption.any (fun compilation => decide
        (∃ term ∈ compilation.dictionary.terms.toList, term.identifier = scalingEffectTerm ∧
          ∃ token ∈ ["I00", "IOO"], term.literal .python = .ok {
            text := "enums.ScalingEffect.OOO"
            warning := some (.unmatchedDefault scalingEffectTerm token "OOO") })) = true := by
    decide +kernel
  have parts : ∀ document ∈ [lowerCaseEffect, listedEffect], document.PartsEffect := by
    intro document listed
    obtain ⟨record, found, held⟩ := (Option.any_eq_true _ _).1 (names document listed)
    obtain ⟨single, text, written, notBlank, members⟩ := of_decide_eq_true held
    obtain ⟨members, read, named⟩ := exists_ok_of_any members
    obtain ⟨⟨dictionary, warnings⟩, compiled, held⟩ := exists_ok_of_any (warns document listed)
    obtain ⟨term, declared, identifier, token, given, shown⟩ := of_decide_eq_true held
    exact {
      names := ⟨record, found, single, text, written, notBlank, members, read,
        List.any_eq_true.1 named⟩
      warns := ⟨dictionary, warnings, compiled, term, declared, identifier, _, shown, token,
        given, rfl⟩ }
  exact ⟨parts _ List.mem_cons_self, parts _ (List.mem_cons_of_mem _ List.mem_cons_self)⟩

end ContractDictionary
