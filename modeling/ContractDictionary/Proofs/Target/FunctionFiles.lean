import ContractDictionary.Target.Artifact
import Mathlib.Data.List.TakeWhile

/-!
# Functions named by files

The name of a file is split at its last point, and what stands before it at underscores: a token
for the type of function, an event and, at the very end, digits.  A function that is found is named
by a file in the directory of its contract, and no two functions agree in acronym, event and digits.
-/

namespace ContractDictionary

theorem stub?_eq_some {contract : Contract} {type : FunctionType} {file : String}
    {stub : FunctionStub} :
    contract.stub? type file = some stub ↔
      ∃ parts, stemParts? (fileStem file).toList = some parts ∧ parts.functionType = type ∧
        stub = ⟨contract, type, String.ofList parts.eventType, String.ofList parts.suffix⟩ := by
  unfold Contract.stub?
  cases stemParts? (fileStem file).toList with
  | none => simp
  | some parts =>
      by_cases same : parts.functionType = type <;> simp [same, eq_comm]

theorem exists_of_mem_discover {reference : Reference} {contracts : ContractSet}
    {type : FunctionType} {stub : FunctionStub}
    (found : stub ∈ reference.discover contracts type) :
    stub.contract ∈ contracts.toList ∧ stub.functionType = type ∧
      ∃ file ∈ reference.files stub.contract.directory,
        stub.contract.stub? type file = some stub := by
  have sorted := (sublist_dropRepeats _ _).subset found
  obtain ⟨contract, member, named⟩ :=
    List.mem_flatMap.1 ((sortBy_perm _ _).mem_iff.1 sorted)
  obtain ⟨file, hfile, hstub⟩ := List.mem_filterMap.1 named
  obtain ⟨parts, -, -, rfl⟩ := stub?_eq_some.1 hstub
  exact ⟨member, rfl, file, hfile, hstub⟩

/-- Functions that are found differ in the acronym of the contract, the event or the digits. -/
theorem pairwise_discover (reference : Reference) (contracts : ContractSet)
    (type : FunctionType) :
    (reference.discover contracts type).Pairwise fun a b => a.sortKey ≠ b.sortKey := by
  refine pairwise_dropRepeats (pairwise_sortBy ?_ ?_ _)
  · exact fun a b => inTextOrder_total a.sortKey b.sortKey
  · exact fun a b c first second => inTextOrder_trans first second

theorem mem_of_mem_fileStem {name : String} {c : Char} (member : c ∈ (fileStem name).toList) :
    c ∈ name.toList := by
  unfold fileStem at member
  dsimp only at member
  split at member
  · exact member
  · rw [String.toList_ofList, List.mem_reverse] at member
    exact List.mem_reverse.1 ((List.dropWhile_sublist _).subset (List.mem_of_mem_tail member))

theorem isDigit_of_mem_trailingDigits {cs : List Char} {c : Char}
    (member : c ∈ trailingDigits cs) : c.isDigit = true := by
  rw [trailingDigits, List.mem_reverse] at member
  exact List.mem_takeWhile_imp member

/-- The event of a stem is part of the stem and ends before an underscore. -/
theorem eventType_of_stemParts? {stem : List Char} {parts : StemParts}
    (found : stemParts? stem = some parts) :
    (∀ c ∈ parts.eventType, c ∈ stem ∧ c ≠ '_') ∧ ∀ c ∈ parts.suffix, c.isDigit = true := by
  unfold stemParts? at found
  obtain ⟨type, -, rest⟩ := Option.bind_eq_some_iff.1 found
  dsimp only at rest
  split at rest
  · cases rest
  · cases rest
    refine ⟨fun c member => ⟨?_, ?_⟩, fun c member => isDigit_of_mem_trailingDigits member⟩
    · have behind := (List.takeWhile_sublist _).subset member
      exact (List.dropWhile_sublist _).subset (List.mem_of_mem_tail behind)
    · simpa using List.mem_takeWhile_imp member

/-- A function whose file is named without a slash is named without one. -/
theorem slash_notMem_of_stub? {contract : Contract} {type : FunctionType} {file : String}
    {stub : FunctionStub} (found : contract.stub? type file = some stub)
    (noSlash : '/' ∉ file.toList) :
    '/' ∉ stub.eventType.toList ∧ '/' ∉ stub.suffix.toList := by
  obtain ⟨parts, hparts, -, rfl⟩ := stub?_eq_some.1 found
  obtain ⟨event, digits⟩ := eventType_of_stemParts? hparts
  rw [String.toList_ofList, String.toList_ofList]
  constructor
  · intro member
    exact noSlash (mem_of_mem_fileStem (event _ member).1)
  · intro member
    exact absurd (digits _ member) (by decide)

theorem underscore_notMem_of_mem_discover {reference : Reference} {contracts : ContractSet}
    {type : FunctionType} {stub : FunctionStub}
    (found : stub ∈ reference.discover contracts type) : '_' ∉ stub.eventType.toList := by
  obtain ⟨-, -, file, -, named⟩ := exists_of_mem_discover found
  obtain ⟨parts, hparts, -, heq⟩ := stub?_eq_some.1 named
  rw [heq, String.toList_ofList]
  intro member
  exact ((eventType_of_stemParts? hparts).1 _ member).2 rfl

/-! ## Stems -/

/--
The text is the stem of a file name: what stands before the last point, or the whole name, which
then has no point but perhaps in front.
-/
def IsStem (name stem : String) : Prop :=
  (∃ extension, name = stem ++ "." ++ extension ∧ stem ≠ "" ∧ '.' ∉ extension.toList) ∨
    (name = stem ∧ '.' ∉ stem.toList.tail)

theorem passed_of_notMem {c : Char} {cs : List Char} (absent : c ∉ cs) :
    ∀ other ∈ cs, decide (other ≠ c) = true := by
  intro other listed
  rw [decide_eq_true_eq]
  rintro rfl
  exact absent listed

/-- What stands before the last occurrence of a character. -/
theorem tail_dropWhile_reverse {front rest : List Char} {c : Char} (last : c ∉ rest) :
    ((front ++ c :: rest).reverse.dropWhile (· ≠ c)).tail.reverse = front := by
  rw [List.reverse_append, List.reverse_cons, List.append_assoc,
    List.dropWhile_append_of_pos (passed_of_notMem (mt List.mem_reverse.1 last))]
  simp

theorem exists_last_of_mem {c : Char} {cs : List Char} (member : c ∈ cs) :
    ∃ front rest, cs = front ++ c :: rest ∧ c ∉ rest := by
  obtain ⟨rest, front, whole, last⟩ := List.eq_append_cons_of_mem (List.mem_reverse.2 member)
  refine ⟨front.reverse, rest.reverse, ?_, mt List.mem_reverse.1 last⟩
  rw [← List.reverse_reverse cs, whole]
  simp

theorem fileStem_of_last {name : String} {front rest : List Char}
    (whole : name.toList = front ++ '.' :: rest) (last : '.' ∉ rest) :
    fileStem name = if front.isEmpty then name else String.ofList front := by
  simp only [fileStem, whole, tail_dropWhile_reverse last]

theorem fileStem_of_notMem {name : String} (pointless : '.' ∉ name.toList) :
    fileStem name = name := by
  have skipped : name.toList.reverse.dropWhile (· ≠ '.') = [] :=
    List.dropWhile_eq_nil_iff.2 (passed_of_notMem (mt List.mem_reverse.1 pointless))
  simp only [fileStem, skipped]
  rfl

theorem fileStem_eq_iff {name stem : String} : fileStem name = stem ↔ IsStem name stem := by
  constructor
  · rintro rfl
    by_cases pointed : '.' ∈ name.toList
    · obtain ⟨front, rest, whole, last⟩ := exists_last_of_mem pointed
      rw [fileStem_of_last whole last]
      cases front with
      | nil =>
          refine .inr ⟨rfl, ?_⟩
          rw [List.isEmpty_nil, if_pos rfl, whole]
          exact last
      | cons first others =>
          refine .inl ⟨String.ofList rest, ?_, ?_, by rwa [String.toList_ofList]⟩
          · rw [← String.toList_inj, whole]
            simp
          · simp
    · rw [fileStem_of_notMem pointed]
      exact .inr ⟨rfl, mt List.mem_of_mem_tail pointed⟩
  · rintro (⟨extension, rfl, notEmpty, last⟩ | ⟨rfl, behind⟩)
    · have whole : (stem ++ "." ++ extension).toList = stem.toList ++ '.' :: extension.toList := by
        simp
      have filled : stem.toList.isEmpty = false := by
        rw [List.isEmpty_eq_false_iff, ne_eq, String.toList_eq_nil_iff]
        exact notEmpty
      rw [fileStem_of_last whole last, filled, if_neg Bool.false_ne_true, String.ofList_toList]
    · by_cases pointed : '.' ∈ name.toList
      · obtain ⟨front, rest, whole, last⟩ := exists_last_of_mem pointed
        rw [fileStem_of_last whole last]
        cases front with
        | nil => rfl
        | cons first others =>
            rw [whole] at behind
            simp at behind
      · exact fileStem_of_notMem pointed

/--
The stem is that of a file for a function of the type: the token, the event and whatever follows,
with underscores between them, where the digits are all those at the end of what follows.
-/
def StemReads (type : FunctionType) (event suffix stem : String) : Prop :=
  event ≠ "" ∧ '_' ∉ event.toList ∧
    (stem = type.token ++ "_" ++ event ∧ suffix = "" ∨
      ∃ middle, stem = type.token ++ "_" ++ event ++ "_" ++ middle ++ suffix ∧
        (∀ c ∈ suffix.toList, c.isDigit = true) ∧
        ∀ c ∈ middle.toList.getLast?, c.isDigit = false)

theorem ofToken?_eq_some_iff {token : String} {type : FunctionType} :
    FunctionType.ofToken? token = some type ↔ token = type.token := by
  constructor
  · intro found
    have named := List.find?_some found
    exact (beq_iff_eq.1 named).symm
  · rintro rfl
    cases type <;> decide

theorem underscore_notMem_token (type : FunctionType) : '_' ∉ type.token.toList := by
  cases type <;> decide

section

variable {c : Char} {front rest : List Char}

/-- A text is split at its first occurrence of a character. -/
theorem takeWhile_first (first : c ∉ front) :
    (front ++ c :: rest).takeWhile (· ≠ c) = front ∧
      (front ++ c :: rest).dropWhile (· ≠ c) = c :: rest := by
  have passed := passed_of_notMem first
  rw [List.takeWhile_append_of_pos passed, List.dropWhile_append_of_pos passed]
  simp

theorem takeWhile_of_notMem (absent : c ∉ front) :
    front.takeWhile (· ≠ c) = front ∧ front.dropWhile (· ≠ c) = [] := by
  have passed := passed_of_notMem absent
  exact ⟨List.takeWhile_eq_self_iff.2 passed, List.dropWhile_eq_nil_iff.2 passed⟩

end

/-- The digits at the end of a text are followed by nothing and preceded by no digit. -/
theorem trailingDigits_eq_iff {cs digits : List Char} :
    trailingDigits cs = digits ↔
      ∃ middle, cs = middle ++ digits ∧ (∀ c ∈ digits, c.isDigit = true) ∧
        ∀ c ∈ middle.getLast?, c.isDigit = false := by
  constructor
  · rintro rfl
    refine ⟨(cs.reverse.dropWhile Char.isDigit).reverse, ?_, fun c =>
      isDigit_of_mem_trailingDigits, ?_⟩
    · rw [trailingDigits, ← List.reverse_append, List.takeWhile_append_dropWhile,
        List.reverse_reverse]
    · intro c last
      rw [List.getLast?_reverse] at last
      have head := List.head?_dropWhile_not Char.isDigit cs.reverse
      rw [Option.mem_def.1 last] at head
      exact head
  · rintro ⟨middle, rfl, digit, last⟩
    have none : middle.reverse.takeWhile Char.isDigit = [] := by
      rw [← List.head?_reverse] at last
      cases reversed : middle.reverse with
      | nil => rfl
      | cons c others =>
          rw [reversed] at last
          exact List.takeWhile_cons_of_neg (by simp [last c rfl])
    have taken : ∀ c ∈ digits.reverse, c.isDigit = true :=
      fun c listed => digit c (List.mem_reverse.1 listed)
    rw [trailingDigits, List.reverse_append, List.takeWhile_append_of_pos taken, none,
      List.append_nil, List.reverse_reverse]

section

variable {front event rest digits : List Char} {parts : StemParts}

theorem stemParts?_of_notMem {stem : List Char} (absent : '_' ∉ stem) :
    stemParts? stem = none := by
  rw [stemParts?]
  simp only [(takeWhile_of_notMem absent).2]
  simp

theorem frontParts_eq_some_iff :
    ((FunctionType.ofToken? (String.ofList front)).bind fun type =>
        if event.isEmpty then none else some ⟨type, event, digits⟩) = some parts ↔
      front = parts.functionType.token.toList ∧ event ≠ [] ∧
        parts.eventType = event ∧ parts.suffix = digits := by
  constructor
  · intro found
    obtain ⟨type, token, given⟩ := Option.bind_eq_some_iff.1 found
    have spelled := ofToken?_eq_some_iff.1 token
    split at given
    · cases given
    · next filled =>
        cases given
        refine ⟨?_, mt List.isEmpty_iff.2 filled, rfl, rfl⟩
        rw [← spelled, String.toList_ofList]
  · rintro ⟨rfl, filled, rfl, rfl⟩
    rw [String.ofList_toList, ofToken?_eq_some_iff.2 rfl, Option.bind_some,
      if_neg (mt List.isEmpty_iff.1 filled)]

theorem stemParts?_of_event (first : '_' ∉ front) (absent : '_' ∉ event) :
    stemParts? (front ++ '_' :: event) = some parts ↔
      front = parts.functionType.token.toList ∧ event ≠ [] ∧
        parts.eventType = event ∧ parts.suffix = [] := by
  rw [← frontParts_eq_some_iff, stemParts?]
  simp only [takeWhile_first first, List.tail_cons, takeWhile_of_notMem absent, List.tail_nil]
  rfl

theorem stemParts?_of_rest (first : '_' ∉ front) (second : '_' ∉ event) :
    stemParts? (front ++ '_' :: (event ++ '_' :: rest)) = some parts ↔
      front = parts.functionType.token.toList ∧ event ≠ [] ∧
        parts.eventType = event ∧ parts.suffix = trailingDigits rest := by
  rw [← frontParts_eq_some_iff, stemParts?]
  simp only [takeWhile_first first, List.tail_cons, takeWhile_first second]
  rfl

end

theorem stemReads_ofList_iff {type : FunctionType} {event digits : List Char} {stem : String} :
    StemReads type (String.ofList event) (String.ofList digits) stem ↔
      event ≠ [] ∧ '_' ∉ event ∧
        (stem.toList = type.token.toList ++ '_' :: event ∧ digits = [] ∨
          ∃ rest, stem.toList = type.token.toList ++ '_' :: (event ++ '_' :: rest) ∧
            trailingDigits rest = digits) := by
  have empty {cs : List Char} : String.ofList cs = "" ↔ cs = [] := by
    rw [← String.toList_inj, String.toList_ofList, String.toList_empty]
  simp only [StemReads, ne_eq, empty, String.toList_ofList, ← String.toList_inj,
    String.toList_append, trailingDigits_eq_iff]
  refine and_congr_right fun _ => and_congr_right fun _ => or_congr ?_ ?_
  · simp
  · constructor
    · rintro ⟨middle, whole, digit, last⟩
      exact ⟨middle.toList ++ digits, by simpa using whole, middle.toList, rfl, digit, last⟩
    · rintro ⟨rest, whole, middle, rfl, digit, last⟩
      refine ⟨String.ofList middle, by simpa using whole, digit, ?_⟩
      rwa [String.toList_ofList]

theorem stemParts?_eq_some_iff {stem : String} {parts : StemParts} :
    stemParts? stem.toList = some parts ↔
      StemReads parts.functionType (String.ofList parts.eventType) (String.ofList parts.suffix)
        stem := by
  obtain ⟨type, event, digits⟩ := parts
  rw [stemReads_ofList_iff]
  constructor
  · intro found
    by_cases marked : '_' ∈ stem.toList
    · obtain ⟨front, after, whole, first⟩ := List.eq_append_cons_of_mem marked
      by_cases again : '_' ∈ after
      · obtain ⟨own, rest, rfl, second⟩ := List.eq_append_cons_of_mem again
        rw [whole, stemParts?_of_rest first second] at found
        obtain ⟨rfl, filled, rfl, rfl⟩ := found
        exact ⟨filled, second, .inr ⟨rest, whole, rfl⟩⟩
      · rw [whole, stemParts?_of_event first again] at found
        obtain ⟨rfl, filled, rfl, rfl⟩ := found
        exact ⟨filled, again, .inl ⟨whole, rfl⟩⟩
    · rw [stemParts?_of_notMem marked] at found
      cases found
  · rintro ⟨filled, second, ⟨whole, rfl⟩ | ⟨rest, whole, rfl⟩⟩
    · rw [whole, stemParts?_of_event (underscore_notMem_token type) second]
      exact ⟨rfl, filled, rfl, rfl⟩
    · rw [whole, stemParts?_of_rest (underscore_notMem_token type) second]
      exact ⟨rfl, filled, rfl, rfl⟩

/-- The file is named for the function of a type with an event and digits. -/
def NamesFunction (file : String) (type : FunctionType) (event suffix : String) : Prop :=
  ∃ stem, IsStem file stem ∧ StemReads type event suffix stem

/-- A contract has the functions that its files are named for. -/
theorem stub?_eq_some_iff {contract : Contract} {type : FunctionType} {file : String}
    {stub : FunctionStub} :
    contract.stub? type file = some stub ↔
      stub.contract = contract ∧ stub.functionType = type ∧
        NamesFunction file type stub.eventType stub.suffix := by
  rw [stub?_eq_some]
  constructor
  · rintro ⟨parts, found, rfl, rfl⟩
    exact ⟨rfl, rfl, _, fileStem_eq_iff.1 rfl, stemParts?_eq_some_iff.1 found⟩
  · rintro ⟨rfl, rfl, stem, named, reads⟩
    refine ⟨⟨stub.functionType, stub.eventType.toList, stub.suffix.toList⟩, ?_, rfl, ?_⟩
    · rw [fileStem_eq_iff.2 named, stemParts?_eq_some_iff, String.ofList_toList,
        String.ofList_toList]
      exact reads
    · rw [String.ofList_toList, String.ofList_toList]

end ContractDictionary
