import ContractDictionary.Proofs.Target.DiscoveredFunctions
import ContractDictionary.Proofs.Target.Naming

/-!
# Names of functions

The stem of a file says which function the file is for, and every function that is found has a stem
without anything else in it.  What such a stem says is the function again, so that modules which
keep the event as it is written tell the functions of a contract apart.
-/

namespace ContractDictionary

/-- The stem for the function that has nothing but the token, the event and the digits, if any. -/
def FunctionStub.canonicalStem (stub : FunctionStub) : String :=
  stub.functionType.token ++ "_" ++
    if stub.suffix = "" then stub.eventType else stub.eventType ++ "_" ++ stub.suffix

/-- What the stem of a file for the function is read as. -/
def FunctionStub.parts (stub : FunctionStub) : StemParts :=
  ⟨stub.functionType, stub.eventType.toList, stub.suffix.toList⟩

theorem stemParts?_eq_iff {stem event suffix : String} {type : FunctionType} :
    stemParts? stem.toList = some ⟨type, event.toList, suffix.toList⟩ ↔
      StemReads type event suffix stem := by
  rw [stemParts?_eq_some_iff, String.ofList_toList, String.ofList_toList]

/-- A stem is passed over if it is read as no function. -/
theorem stemParts?_eq_none_iff {stem : String} :
    stemParts? stem.toList = none ↔ ∀ type event suffix, ¬StemReads type event suffix stem := by
  rw [Option.eq_none_iff_forall_ne_some]
  constructor
  · intro unread type event suffix reads
    exact unread _ (stemParts?_eq_iff.2 reads)
  · intro unread parts found
    exact unread _ _ _ (stemParts?_eq_some_iff.1 found)

theorem namesFunction_iff {file event suffix : String} {type : FunctionType} :
    NamesFunction file type event suffix ↔ StemReads type event suffix (fileStem file) := by
  constructor
  · rintro ⟨stem, named, reads⟩
    rwa [fileStem_eq_iff.2 named]
  · intro reads
    exact ⟨_, fileStem_eq_iff.1 rfl, reads⟩

/-- A stem that is read as a function has the parts of the stem without anything else. -/
theorem stemReads_canonicalStem {stub : FunctionStub} {stem : String}
    (reads : StemReads stub.functionType stub.eventType stub.suffix stem) :
    StemReads stub.functionType stub.eventType stub.suffix stub.canonicalStem := by
  obtain ⟨filled, word, whole⟩ := reads
  refine ⟨filled, word, ?_⟩
  by_cases plain : stub.suffix = ""
  · exact .inl ⟨by rw [FunctionStub.canonicalStem, if_pos plain], plain⟩
  · obtain ⟨-, empty⟩ | ⟨-, -, digit, -⟩ := whole
    · exact absurd empty plain
    · refine .inr ⟨"", ?_, digit, by simp⟩
      rw [FunctionStub.canonicalStem, if_neg plain, String.append_empty]
      simp only [String.append_assoc]

theorem type_eq_of_mark_append_eq {first second : FunctionType} {front rest : String}
    (same : first.mark ++ front = second.mark ++ rest) : first = second := by
  have chars := congrArg String.toList same
  rw [String.toList_append, String.toList_append] at chars
  cases first <;> cases second
  · rfl
  · cases chars
  · cases chars
  · rfl

theorem eq_of_parts_eq {first second : FunctionStub} (ofContract : first.contract = second.contract)
    (same : first.parts = second.parts) : first = second := by
  cases first
  cases second
  simp_all [FunctionStub.parts, String.toList_inj]

theorem canonicalStem_eq_of_moduleText_eq {first second : FunctionStub}
    (same : first.moduleText = second.moduleText) : first.canonicalStem = second.canonicalStem := by
  have type := type_eq_of_mark_append_eq same
  unfold FunctionStub.moduleText at same
  rw [type, String.append_right_inj] at same
  rw [FunctionStub.canonicalStem, FunctionStub.canonicalStem, type, same]

section

variable {reference : Reference} {contracts : ContractSet} {type : FunctionType}

/-- The functions that are found are those that stems of files are read as. -/
theorem mem_discover_iff_parts {stub : FunctionStub} :
    stub ∈ reference.discover contracts type ↔
      contracts.toList.find? (·.acronym == stub.contract.acronym) = some stub.contract ∧
        stub.functionType = type ∧
        ∃ file ∈ reference.files stub.contract.directory,
          stemParts? (fileStem file).toList = some stub.parts := by
  rw [mem_discover_iff]
  refine and_congr_right fun _ => and_congr_right fun ofType => ?_
  simp only [namesFunction_iff, FunctionStub.parts, stemParts?_eq_iff, ofType]

/-- The stem without anything else is read as the function again. -/
theorem stemParts?_canonicalStem {stub : FunctionStub}
    (found : stub ∈ reference.discover contracts type) :
    stemParts? stub.canonicalStem.toList = some stub.parts := by
  obtain ⟨-, -, file, -, read⟩ := mem_discover_iff_parts.1 found
  exact stemParts?_eq_iff.2 (stemReads_canonicalStem (stemParts?_eq_iff.1 read))

/-- Functions of one contract with one module, in a language that keeps events, are the same. -/
theorem eq_of_typeScript_stubModule_eq {otherType : FunctionType} {first second : FunctionStub}
    (firstFound : first ∈ reference.discover contracts type)
    (secondFound : second ∈ reference.discover contracts otherType)
    (ofContract : first.contract = second.contract)
    (same : Language.typeScript.stubModule first = Language.typeScript.stubModule second) :
    first = second := by
  rw [stubModule_eq, stubModule_eq, if_pos rfl, if_pos rfl] at same
  have read := stemParts?_canonicalStem firstFound
  rw [canonicalStem_eq_of_moduleText_eq same, stemParts?_canonicalStem secondFound] at read
  exact eq_of_parts_eq ofContract (Option.some.inj read).symm

end

/--
A stem is read as a function exactly if it consists of a token, an event and perhaps more that ends
in the digits, and is passed over otherwise.  The functions that are found are those that the stems
of files are read as; each of them is what its canonical stem is read as, and no two of one contract
have one module where modules keep the event.
-/
theorem functions_of_stems (reference : Reference) (contracts : ContractSet) :
    (∀ stem type event suffix,
      stemParts? stem.toList = some ⟨type, event.toList, suffix.toList⟩ ↔
        StemReads type event suffix stem) ∧
      (∀ stem, stemParts? stem.toList = none ↔
        ∀ type event suffix, ¬StemReads type event suffix stem) ∧
      (∀ type stub, stub ∈ reference.discover contracts type ↔
        contracts.toList.find? (·.acronym == stub.contract.acronym) = some stub.contract ∧
          stub.functionType = type ∧
          ∃ file ∈ reference.files stub.contract.directory,
            stemParts? (fileStem file).toList = some stub.parts) ∧
      (∀ type, ∀ stub ∈ reference.discover contracts type,
        stemParts? stub.canonicalStem.toList = some stub.parts) ∧
      ∀ type otherType, ∀ first ∈ reference.discover contracts type,
        ∀ second ∈ reference.discover contracts otherType,
          first.contract = second.contract → first ≠ second →
          Language.typeScript.stubModule first ≠ Language.typeScript.stubModule second := by
  refine ⟨fun _ _ _ _ => stemParts?_eq_iff, fun _ => stemParts?_eq_none_iff,
    fun _ _ => mem_discover_iff_parts, fun _ _ found => stemParts?_canonicalStem found, ?_⟩
  intro type otherType first firstFound second secondFound ofContract differ
  exact mt (eq_of_typeScript_stubModule_eq firstFound secondFound ofContract) differ

def numberedContracts : ContractSet :=
  .ofList [.plain "PAM" "principalAtMaturity"]

/-- Files for functions with and without digits, two of them for one, and files for none. -/
def numberedFiles : Reference :=
  ⟨[("pam", ["POF_IED_PAM2.java", "POF_IED_.java", "POF_IED_x1_2.java", "POF__2.java", "POF.java",
    "STF_IED_2"])]⟩

theorem functions_of_numberedFiles :
    ∃ first ∈ numberedFiles.discover numberedContracts .payoff,
      ∃ second ∈ numberedFiles.discover numberedContracts .stateTransition,
        first.sortKey = ["PAM", "IED", "2"] ∧ second.sortKey = ["PAM", "IED", "2"] ∧
          stemParts? first.canonicalStem.toList = some first.parts ∧
          first.contract = second.contract ∧ first ≠ second ∧
          Language.typeScript.stubModule first ≠ Language.typeScript.stubModule second := by
  have payoffs : (numberedFiles.discover numberedContracts .payoff).map (·.sortKey) =
      [["PAM", "IED", ""], ["PAM", "IED", "2"]] := by
    decide +kernel
  have transitions : (numberedFiles.discover numberedContracts .stateTransition).map (·.sortKey) =
      [["PAM", "IED", "2"]] := by
    decide +kernel
  obtain ⟨first, firstFound, firstKey⟩ :=
    List.mem_map.1 (payoffs ▸ List.mem_cons_of_mem _ List.mem_cons_self)
  obtain ⟨second, secondFound, secondKey⟩ := List.mem_map.1 (transitions ▸ List.mem_cons_self)
  obtain ⟨-, -, found, canonical, apart⟩ := functions_of_stems numberedFiles numberedContracts
  obtain ⟨firstContract, firstType, -⟩ := (found _ _).1 firstFound
  obtain ⟨secondContract, secondType, -⟩ := (found _ _).1 secondFound
  have acronym : first.contract.acronym = second.contract.acronym :=
    (List.cons.inj (firstKey.trans secondKey.symm)).1
  have ofContract : first.contract = second.contract := by
    rw [acronym, secondContract] at firstContract
    exact (Option.some.inj firstContract).symm
  have differ : first ≠ second := by
    rintro rfl
    rw [firstType] at secondType
    cases secondType
  exact ⟨first, firstFound, second, secondFound, firstKey, secondKey,
    canonical _ _ firstFound, ofContract, differ,
    apart _ _ first firstFound second secondFound ofContract differ⟩

end ContractDictionary
