import ContractDictionary.Proofs.Compile.Defaults
import ContractDictionary.Proofs.Target.Literals
import ContractDictionary.Proofs.Text.Case

/-!
# Members that are marked as the default

A compiled term marks the members whose acronym is its default letter by letter, and its default
is in upper case; generated code starts with the member that the default names in any case, by
acronym or identifier.  So a mark never stands at another member than the one that is shown, but
it is missing where the default names this member otherwise than by an acronym in upper case.
-/

namespace ContractDictionary

namespace Term

def markedMembers (term : Term) : List Member :=
  term.members.filter (·.isDefault = some true)

/-- Acronyms and identifiers of any two members differ in more than case. -/
def NamesApart (term : Term) : Prop :=
  term.members.Pairwise fun first second =>
    ∀ name ∈ [first.acronym, first.identifier], ∀ other ∈ [second.acronym, second.identifier],
      Text.sameIgnoringCase name other = false

instance (term : Term) : Decidable term.NamesApart :=
  inferInstanceAs (Decidable (List.Pairwise _ _))

/--
The marks are those that the literal asks for: the member that it shows bears the only one, and
there is none if it falls back on the first member.
-/
structure MarkAgrees (term : Term) (language : Language) (token : String) (literal : Literal) :
    Prop where
  shown : literal.warning = none → ∃ member ∈ term.members, member.isMatch token = true ∧
    literal.text = language.memberLiteral term.identifier member.acronym ∧
    term.markedMembers = [member]
  fallsBack : literal.warning ≠ none → term.markedMembers = []

end Term

theorem isMatch_iff_exists_name {info : EntityInfo} {token : String} :
    info.isMatch token = true ↔
      ∃ name ∈ [info.acronym, info.identifier], Text.upper name = Text.upper token := by
  simp [EntityInfo.isMatch, Text.sameIgnoringCase]

/-- Of items no two of which pass a test together, no other one passes it with a given item. -/
theorem filter_eq_singleton {α : Type} {test : α → Bool} {items : List α}
    (apart : items.Pairwise fun a b => test a = true → test b = false) {item : α}
    (listed : item ∈ items) (passed : test item = true) : items.filter test = [item] := by
  induction items with
  | nil => cases listed
  | cons first rest ih =>
      obtain ⟨head, tail⟩ := List.pairwise_cons.1 apart
      rcases List.mem_cons.1 listed with rfl | later
      · have others : rest.filter test = [] :=
          List.filter_eq_nil_iff.2 fun other member =>
            Bool.eq_false_iff.1 (head other member passed)
        rw [List.filter_cons_of_pos passed, others]
      · have failed : ¬ test first = true := by
          intro passedFirst
          rw [head item later passedFirst] at passed
          cases passed
        rw [List.filter_cons_of_neg failed, ih tail later]

/-- Where names are apart a token names no more than one member. -/
theorem filter_isMatch_of_namesApart {term : Term} (apart : term.NamesApart) {token : String}
    {member : Member} (listed : member ∈ term.members) (named : member.isMatch token = true) :
    term.members.filter (·.isMatch token) = [member] := by
  refine filter_eq_singleton (apart.imp fun {first second} differ matched => ?_) listed named
  rw [Bool.eq_false_iff]
  intro matched'
  obtain ⟨name, ofFirst, same⟩ := isMatch_iff_exists_name.1 matched
  obtain ⟨other, ofSecond, same'⟩ := isMatch_iff_exists_name.1 matched'
  have agree : Text.sameIgnoringCase name other = true := beq_iff_eq.2 (same.trans same'.symm)
  rw [differ name ofFirst other ofSecond] at agree
  cases agree

/-- A token names the members whose acronym it is. -/
theorem isMatch_of_acronym {info : EntityInfo} {token : String} (spelled : info.acronym = token) :
    info.isMatch token = true :=
  isMatch_iff_exists_name.2 ⟨info.acronym, List.mem_cons_self, congrArg Text.upper spelled⟩

/-- The only member that a token names is the one with this acronym if it is spelled so. -/
theorem filter_acronym_eq_singleton_iff {term : Term} (apart : term.NamesApart) {token : String}
    {member : Member} (listed : member ∈ term.members) (named : member.isMatch token = true) :
    term.members.filter (·.acronym == token) = [member] ↔
      ∀ other ∈ term.members, other.isMatch token = true → other.acronym = token := by
  have only := filter_isMatch_of_namesApart apart listed named
  constructor
  · intro one other declared matched
    have kept : other ∈ term.members.filter (·.isMatch token) :=
      List.mem_filter.2 ⟨declared, matched⟩
    rw [only, ← one] at kept
    exact beq_iff_eq.1 (List.mem_filter.1 kept).2
  · intro spelled
    rw [← only]
    refine List.filter_congr fun other declared => ?_
    rw [Bool.eq_iff_iff, beq_iff_eq]
    exact ⟨isMatch_of_acronym, spelled other declared⟩

/-- A compiled term marks the members whose acronym is its default. -/
theorem markedMembers_of_standsFor {record : TermRecord} {taxonomy : Keyed ContractTypeRecord}
    {key : String} {term : Term} (stands : record.StandsFor taxonomy key term)
    (enumerated : term.scalarType = .enumeration) {token : String}
    (given : term.default = some (.acronym token)) :
    term.markedMembers = term.members.filter (·.acronym == token) := by
  have marks : ∀ member ∈ term.members, member.isDefault = some (member.acronym == token) := by
    obtain ⟨records, -, values⟩ := stands.members enumerated
    rw [given] at values
    intro member listed
    have isEnumerated : term.isEnumerated = true := decide_eq_true enumerated
    rw [Term.members, if_pos isEnumerated, values, List.filterMap_map, List.mem_filterMap] at listed
    obtain ⟨own, -, declared⟩ := listed
    cases declared
    rfl
  refine List.filter_congr fun member listed => ?_
  rw [marks member listed]
  cases member.acronym == token <;> rfl

/-- The marked members are among those that the default names. -/
theorem isMatch_of_mem_markedMembers {term : Term} {token : String}
    (marked : term.markedMembers = term.members.filter (·.acronym == token)) {member : Member}
    (listed : member ∈ term.markedMembers) :
    member ∈ term.members ∧ member.isMatch token = true := by
  rw [marked, List.mem_filter, beq_iff_eq] at listed
  obtain ⟨declared, same⟩ := listed
  exact ⟨declared, isMatch_of_acronym same⟩

/-- Where names are apart, the marks agree with the literal if the default names no member
otherwise than by its acronym as it is written. -/
theorem markAgrees_iff {term : Term} (apart : term.NamesApart) {token : String}
    (marked : term.markedMembers = term.members.filter (·.acronym == token)) {language : Language}
    {literal : Literal} (given : term.memberDefault language token = .ok literal) :
    (∀ member ∈ term.markedMembers, literal.warning = none ∧
      literal.text = language.memberLiteral term.identifier member.acronym) ∧
    (term.MarkAgrees language token literal ↔
      ∀ member ∈ term.members, member.isMatch token = true → member.acronym = token) := by
  obtain ⟨-, failed⟩ | ⟨member, found, shown⟩ | ⟨first, -, unmatched, shown⟩ :=
    term.memberDefault_cases language token
  case inl =>
    rw [failed] at given
    cases given
  case inr.inl =>
    rw [shown] at given
    cases given
    have listed := List.mem_of_find?_eq_some found
    have named := List.find?_some found
    have same {other : Member} (declared : other ∈ term.members)
        (matched : other.isMatch token = true) : other = member := by
      have kept : other ∈ term.members.filter (·.isMatch token) :=
        List.mem_filter.2 ⟨declared, matched⟩
      rw [filter_isMatch_of_namesApart apart listed named] at kept
      exact List.mem_singleton.1 kept
    refine ⟨fun other mark => ?_, ?_⟩
    · obtain ⟨declared, matched⟩ := isMatch_of_mem_markedMembers marked mark
      rw [same declared matched]
      exact ⟨rfl, rfl⟩
    · rw [← filter_acronym_eq_singleton_iff apart listed named, ← marked]
      constructor
      · intro agrees
        obtain ⟨other, declared, matched, -, one⟩ := agrees.shown rfl
        rw [one, same declared matched]
      · intro one
        exact ⟨fun _ => ⟨member, listed, named, rfl, one⟩, fun warned => absurd rfl warned⟩
  case inr.inr =>
    rw [shown] at given
    cases given
    have none : term.markedMembers = [] := by
      refine List.eq_nil_iff_forall_not_mem.2 fun member mark => ?_
      obtain ⟨declared, matched⟩ := isMatch_of_mem_markedMembers marked mark
      rw [unmatched member declared] at matched
      cases matched
    refine ⟨fun member mark => ?_, iff_of_true ⟨fun other => ?_, fun _ => none⟩ ?_⟩
    · rw [none] at mark
      cases mark
    · cases other
    · intro member declared matched
      rw [unmatched member declared] at matched
      cases matched

/-- A compiled single value with a default has it in upper case, read from its record. -/
theorem exists_acronym_of_mem_terms {document : Document} {dictionary : Dictionary}
    {warnings : List Warning} (compiled : document.compile = .ok ⟨dictionary, warnings⟩)
    {term : Term} (declared : term ∈ dictionary.terms.toList)
    (enumerated : term.scalarType = .enumeration) (given : term.default ≠ none) :
    ∃ entry ∈ document.terms.entries, entry.2.StandsFor document.taxonomy entry.1 term ∧
      ∃ text, entry.2.normalDefault? entry.1 = some text ∧
        term.default = some (.acronym (Text.upper text)) := by
  obtain ⟨entry, listed, own⟩ := (mem_terms_iff compiled).1 declared
  have stands := standsFor_of_compileTerm own
  obtain ⟨default, present⟩ := Option.ne_none_iff_exists'.1 given
  obtain ⟨text, normal, -⟩ := stands.present default present
  exact ⟨entry, listed, stands, text, normal, default_of_standsFor stands enumerated normal⟩

/--
Where the names of its members are apart, a single value with a default marks no other member
than the one that its literal shows.  Marks and literal agree exactly if every member that the
default names has it as its acronym, in upper case.
-/
theorem marks_of_compile {document : Document} {dictionary : Dictionary}
    {warnings : List Warning} (compiled : document.compile = .ok ⟨dictionary, warnings⟩)
    {term : Term} (declared : term ∈ dictionary.terms.toList) (single : term.isArray = false)
    (enumerated : term.scalarType = .enumeration) (given : term.default ≠ none)
    (apart : term.NamesApart) (language : Language) :
    ∃ entry ∈ document.terms.entries, entry.2.StandsFor document.taxonomy entry.1 term ∧
      ∃ text, entry.2.normalDefault? entry.1 = some text ∧
        term.default = some (.acronym (Text.upper text)) ∧
        ((term.members = [] ∧
            term.literal language = .error (.emptyEnumeration term.identifier)) ∨
          ∃ literal, term.literal language = .ok literal ∧
            (∀ member ∈ term.markedMembers, literal.warning = none ∧
              literal.text = language.memberLiteral term.identifier member.acronym) ∧
            (term.MarkAgrees language (Text.upper text) literal ↔
              ∀ member ∈ term.members, member.isMatch (Text.upper text) = true →
                member.acronym = Text.upper text)) := by
  obtain ⟨entry, listed, stands, text, normal, present⟩ :=
    exists_acronym_of_mem_terms compiled declared enumerated given
  refine ⟨entry, listed, stands, text, normal, present, ?_⟩
  rw [Term.literal_eq_memberDefault single enumerated present language]
  have marked := markedMembers_of_standsFor stands enumerated present
  obtain ⟨none, failed⟩ | shown | shown := term.memberDefault_cases language (Text.upper text)
  · exact .inl ⟨none, failed⟩
  · obtain ⟨_, -, shown⟩ := shown
    exact .inr ⟨_, shown, markAgrees_iff apart marked shown⟩
  · obtain ⟨_, -, -, shown⟩ := shown
    exact .inr ⟨_, shown, markAgrees_iff apart marked shown⟩

/-- Two sides, of which the default is the second by an acronym in upper case. -/
def payingSide : Document :=
  .plain [.enumerated "side" "pay"
    [⟨0, "receive", "Receive", "REC", ""⟩, ⟨1, "deliver", "Deliver", "PAY", ""⟩]] [] []

theorem marks_of_payingSide :
    ∃ dictionary warnings, payingSide.compile = .ok ⟨dictionary, warnings⟩ ∧
      ∃ term ∈ dictionary.terms.toList, ∃ literal, term.literal .python = .ok literal ∧
        literal.text = "enums.Side.PAY" ∧ term.MarkAgrees .python "PAY" literal := by
  have evaluated : payingSide.compile.toOption.any (fun compilation => decide
      (∃ term ∈ compilation.dictionary.terms.toList, term.isArray = false ∧
        term.scalarType = .enumeration ∧ term.default = some (.acronym "PAY") ∧
        term.NamesApart ∧
        term.literal .python = .ok { text := "enums.Side.PAY" } ∧
        term.members ≠ [] ∧ ∀ member ∈ term.members, member.isMatch "PAY" = true →
          member.acronym = "PAY")) = true := by
    decide +kernel
  obtain ⟨⟨dictionary, warnings⟩, compiled, held⟩ := exists_ok_of_any evaluated
  obtain ⟨term, declared, single, enumerated, present, apart, shown, members, spelled⟩ :=
    of_decide_eq_true held
  have given : term.default ≠ none := Option.ne_none_iff_exists'.2 ⟨_, present⟩
  obtain ⟨_, -, -, text, -, same, cases⟩ :=
    marks_of_compile compiled declared single enumerated given apart .python
  have token : Text.upper text = "PAY" :=
    TermDefault.acronym.inj (Option.some.inj (same.symm.trans present))
  rw [token] at cases
  obtain ⟨none, -⟩ | ⟨literal, found, -, agrees⟩ := cases
  · exact absurd none members
  · have text : literal.text = "enums.Side.PAY" :=
      congrArg Literal.text (Except.ok.inj (found.symm.trans shown))
    exact ⟨dictionary, warnings, compiled, term, declared, literal, found, text, agrees.2 spelled⟩

/-- Two terms whose default names a member by an acronym in lower case and by an identifier. -/
def unmarkedDefaults : Document :=
  .plain [
    .enumerated "leg" "deliver"
      [⟨0, "receive", "Receive", "REC", ""⟩, ⟨1, "deliver", "Deliver", "PAY", ""⟩],
    .enumerated "side" "pay"
      [⟨0, "receive", "Receive", "rec", ""⟩, ⟨1, "deliver", "Deliver", "pay", ""⟩]] [] []

/-- Generated code starts with the member that is the default, but no member is marked. -/
theorem exists_literal_without_mark :
    ∃ dictionary warnings, unmarkedDefaults.compile = .ok ⟨dictionary, warnings⟩ ∧
      ∀ identifier ∈ ["leg", "side"], ∃ term ∈ dictionary.terms.toList,
        term.identifier = identifier ∧ term.isArray = false ∧ term.scalarType = .enumeration ∧
        term.default ≠ none ∧ term.NamesApart ∧ term.markedMembers = [] ∧
        ∃ literal, term.literal .python = .ok literal ∧ literal.warning = none ∧
          ∃ member ∈ term.members,
            literal.text = Language.python.memberLiteral term.identifier member.acronym := by
  obtain ⟨⟨dictionary, warnings⟩, compiled, held⟩ := exists_ok_of_any
    (show unmarkedDefaults.compile.toOption.any (fun compilation => decide
      (∀ identifier ∈ ["leg", "side"], ∃ term ∈ compilation.dictionary.terms.toList,
        term.identifier = identifier ∧ term.isArray = false ∧ term.scalarType = .enumeration ∧
        term.default ≠ none ∧ term.NamesApart ∧ term.markedMembers = [] ∧
        ∃ member ∈ term.members, term.literal .python =
          .ok { text := Language.python.memberLiteral term.identifier member.acronym })) = true by
      decide +kernel)
  refine ⟨dictionary, warnings, compiled, fun identifier listed => ?_⟩
  obtain ⟨term, declared, named, single, enumerated, given, apart, unmarked, member, own, shown⟩ :=
    of_decide_eq_true held identifier listed
  exact ⟨term, declared, named, single, enumerated, given, apart, unmarked, _, shown, rfl,
    member, own, rfl⟩

end ContractDictionary
