import ContractDictionary.Proofs.Generation.Sights
import ContractDictionary.Proofs.Model.StableSorting
import ContractDictionary.Proofs.Target.FunctionFiles

/-!
# The functions of a reference implementation

What is discovered is determined by which files there are: for each acronym of a contract the files
in its directory name the functions, and of the contracts with the acronym the first one has them.
The functions are in strict order, so that the order in which the files of a directory are listed
does not matter.
-/

namespace ContractDictionary

section

variable {α κ : Type} [BEq κ] [LawfulBEq κ] {key : α → κ} {wanted : κ}

theorem find?_dropRepeatsAfter {last : α} (other : key last ≠ wanted) (items : List α) :
    (dropRepeatsAfter (fun a b => key a == key b) last items).find? (key · == wanted) =
      items.find? (key · == wanted) := by
  induction items generalizing last with
  | nil => rfl
  | cons first rest ih =>
      rw [dropRepeatsAfter]
      split
      · next same =>
          rw [beq_iff_eq] at same
          rw [List.find?_cons_of_neg (by simpa [← same] using other), ih other]
      · by_cases found : key first = wanted
        · rw [List.find?_cons_of_pos (by simpa using found),
            List.find?_cons_of_pos (by simpa using found)]
        · rw [List.find?_cons_of_neg (by simpa using found),
            List.find?_cons_of_neg (by simpa using found), ih found]

theorem find?_dropRepeats (items : List α) :
    (dropRepeats (fun a b => key a == key b) items).find? (key · == wanted) =
      items.find? (key · == wanted) := by
  cases items with
  | nil => rfl
  | cons first rest =>
      rw [dropRepeats]
      by_cases found : key first = wanted
      · rw [List.find?_cons_of_pos (by simpa using found),
          List.find?_cons_of_pos (by simpa using found)]
      · rw [List.find?_cons_of_neg (by simpa using found),
          List.find?_cons_of_neg (by simpa using found), find?_dropRepeatsAfter found]

end

/-- The function stands before another one: by acronym, then by event, then by digits. -/
def FunctionStub.Precedes (first second : FunctionStub) : Prop :=
  first.contract.acronym < second.contract.acronym ∨
    first.contract.acronym = second.contract.acronym ∧
      (first.eventType < second.eventType ∨
        first.eventType = second.eventType ∧ first.suffix < second.suffix)

theorem FunctionStub.precedes_iff {first second : FunctionStub} :
    first.Precedes second ↔
      inTextOrder first.sortKey second.sortKey = true ∧ first.sortKey ≠ second.sortKey := by
  simp only [sortKey, inTextOrder_cons_and_ne, Precedes]
  simp [inTextOrder]

/-- Functions that are sorted are in the order of their keys. -/
theorem pairwise_sortedStubs (stubs : List FunctionStub) :
    (sortBy (fun a b => inTextOrder a.sortKey b.sortKey) stubs).Pairwise fun first second =>
      inTextOrder first.sortKey second.sortKey = true := by
  have total (a b : FunctionStub) := inTextOrder_total a.sortKey b.sortKey
  exact pairwise_sortBy total (fun _ _ _ => inTextOrder_trans) stubs

theorem pairwise_precedes_discover (reference : Reference) (contracts : ContractSet)
    (type : FunctionType) :
    (reference.discover contracts type).Pairwise FunctionStub.Precedes := by
  have ordered : (reference.discover contracts type).Pairwise fun first second =>
      inTextOrder first.sortKey second.sortKey = true :=
    (pairwise_sortedStubs _).sublist (sublist_dropRepeats _ _)
  exact (ordered.and (pairwise_discover reference contracts type)).imp
    FunctionStub.precedes_iff.2

/-- A function is kept if it is the first one with its key. -/
theorem mem_arrange_iff {stubs : List FunctionStub} {stub : FunctionStub} :
    stub ∈ FunctionStub.arrange stubs ↔
      stubs.find? (·.sortKey == stub.sortKey) = some stub := by
  let le := fun a b : FunctionStub => inTextOrder a.sortKey b.sortKey
  have apart : (FunctionStub.arrange stubs).Pairwise fun a b => a.sortKey ≠ b.sortKey :=
    pairwise_dropRepeats (pairwise_sortedStubs stubs)
  have tied : ∀ a b : FunctionStub, (a.sortKey == stub.sortKey) = true →
      (b.sortKey == stub.sortKey) = true → le a b = true := by
    intro a b same same'
    have total := inTextOrder_total stub.sortKey stub.sortKey
    rw [Bool.or_self] at total
    simpa only [le, beq_iff_eq.1 same, beq_iff_eq.1 same'] using total
  have found : (FunctionStub.arrange stubs).find? (·.sortKey == stub.sortKey) =
      stubs.find? (·.sortKey == stub.sortKey) := by
    rw [FunctionStub.arrange, find?_dropRepeats, ← List.head?_filter, filter_sortBy tied,
      List.head?_filter]
  rw [← found]
  exact ⟨find?_of_mem apart, List.mem_of_find?_eq_some⟩

section

variable {reference : Reference} {contracts : ContractSet} {contract : Contract}
  {type : FunctionType} {stub : FunctionStub}

theorem FunctionStub.eq_of_sortKey {first second : FunctionStub}
    (same : first.sortKey = second.sortKey) (contract : first.contract = second.contract)
    (type : first.functionType = second.functionType) : first = second := by
  cases first
  cases second
  simp_all [sortKey]

/-- A contract has a function with a key if its acronym is that of the key and a file names it. -/
theorem find?_stubs_eq_some_iff (files : List String) {key : List String} :
    (files.filterMap (contract.stub? type)).find? (·.sortKey == key) = some stub ↔
      stub.sortKey = key ∧ stub.contract = contract ∧ stub.functionType = type ∧
        ∃ file ∈ files, NamesFunction file type stub.eventType stub.suffix := by
  constructor
  · intro found
    obtain ⟨file, listed, own⟩ := List.mem_filterMap.1 (List.mem_of_find?_eq_some found)
    obtain ⟨ofContract, ofType, named⟩ := stub?_eq_some_iff.1 own
    have same := List.find?_some found
    exact ⟨beq_iff_eq.1 same, ofContract, ofType, file, listed, named⟩
  · rintro ⟨rfl, ofContract, ofType, file, listed, named⟩
    have own := List.mem_filterMap.2 ⟨file, listed, stub?_eq_some_iff.2 ⟨ofContract, ofType, named⟩⟩
    cases found : (files.filterMap (contract.stub? type)).find? (·.sortKey == stub.sortKey) with
    | none =>
        have differs := List.find?_eq_none.1 found stub own
        exact absurd (beq_self_eq_true _) differs
    | some other =>
        obtain ⟨file', -, own'⟩ := List.mem_filterMap.1 (List.mem_of_find?_eq_some found)
        obtain ⟨ofContract', ofType', -⟩ := stub?_eq_some_iff.1 own'
        have same := List.find?_some found
        exact congrArg some (FunctionStub.eq_of_sortKey (beq_iff_eq.1 same)
          (ofContract'.trans ofContract.symm) (ofType'.trans ofType.symm))

/--
A function is discovered if the first of the contracts with its acronym has it, and if a file in
the directory of this contract is named for it.
-/
theorem mem_discover_iff :
    stub ∈ reference.discover contracts type ↔
      contracts.toList.find? (·.acronym == stub.contract.acronym) = some stub.contract ∧
        stub.functionType = type ∧
        ∃ file ∈ reference.files stub.contract.directory,
          NamesFunction file type stub.eventType stub.suffix := by
  rw [Reference.discover, mem_arrange_iff, List.find?_flatMap, List.findSome?_eq_some_iff,
    List.find?_eq_some_iff_append]
  constructor
  · rintro ⟨before, contract, after, whole, found, none⟩
    obtain ⟨-, rfl, ofType, file, listed, named⟩ := (find?_stubs_eq_some_iff _).1 found
    refine ⟨⟨beq_self_eq_true _, before, after, whole, fun other earlier => ?_⟩,
      ofType, file, listed, named⟩
    rw [Bool.not_eq_true', beq_eq_false_iff_ne]
    intro same
    have first : ((reference.files other.directory).filterMap (other.stub? type)).find?
        (·.sortKey == stub.sortKey) = some { stub with contract := other } := by
      refine (find?_stubs_eq_some_iff _).2 ⟨?_, rfl, ofType, file, ?_, named⟩
      · simp [FunctionStub.sortKey, same]
      · rw [Contract.directory, same]
        exact listed
    rw [none other earlier] at first
    cases first
  · rintro ⟨⟨-, before, after, whole, others⟩, ofType, file, listed, named⟩
    refine ⟨before, stub.contract, after, whole,
      (find?_stubs_eq_some_iff _).2 ⟨rfl, rfl, ofType, file, listed, named⟩,
      fun other earlier => ?_⟩
    cases found : ((reference.files other.directory).filterMap (other.stub? type)).find?
        (·.sortKey == stub.sortKey) with
    | none => rfl
    | some earlierStub =>
        obtain ⟨key, rfl, -⟩ := (find?_stubs_eq_some_iff _).1 found
        have same : earlierStub.contract.acronym = stub.contract.acronym :=
          (List.cons.inj key).1
        have differs := others _ earlier
        rw [Bool.not_eq_true', beq_eq_false_iff_ne] at differs
        exact absurd same differs

end

theorem FunctionStub.precedes_asymm {first second : FunctionStub}
    (before : first.Precedes second) : ¬second.Precedes first := by
  intro after
  obtain ⟨order, differ⟩ := precedes_iff.1 before
  exact differ (inTextOrder_antisymm order (precedes_iff.1 after).1)

theorem discover_congr {reference reference' : Reference} {contracts : ContractSet}
    (same : ∀ contract ∈ contracts.toList, ∀ file,
      file ∈ reference'.files contract.directory ↔ file ∈ reference.files contract.directory)
    (type : FunctionType) :
    reference'.discover contracts type = reference.discover contracts type := by
  have ordered (reference : Reference) := pairwise_precedes_discover reference contracts type
  have once (reference : Reference) : (reference.discover contracts type).Nodup := by
    refine (ordered reference).imp ?_
    rintro first second before rfl
    exact FunctionStub.precedes_asymm before before
  have members : ∀ stub, stub ∈ reference'.discover contracts type ↔
      stub ∈ reference.discover contracts type := by
    intro stub
    rw [mem_discover_iff, mem_discover_iff]
    refine and_congr_right fun found => ?_
    simp only [same _ (List.mem_of_find?_eq_some found)]
  have perm := (List.perm_ext_iff_of_nodup (once reference') (once reference)).2 members
  exact perm.eq_of_pairwise (fun _ _ _ _ before after =>
    absurd after (FunctionStub.precedes_asymm before)) (ordered reference') (ordered reference)

/-- A function with a key is there if a contract has the acronym and a file names the function. -/
theorem exists_sortKey_iff {reference : Reference} {contracts : ContractSet}
    {type : FunctionType} {acronym event suffix : String} :
    (∃ stub ∈ reference.discover contracts type, stub.sortKey = [acronym, event, suffix]) ↔
      ∃ contract ∈ contracts.toList, contract.acronym = acronym ∧
        ∃ file ∈ reference.files contract.directory, NamesFunction file type event suffix := by
  constructor
  · rintro ⟨stub, listed, key⟩
    obtain ⟨found, -, file, ofContract, named⟩ := mem_discover_iff.1 listed
    cases key
    exact ⟨stub.contract, List.mem_of_find?_eq_some found, rfl, file, ofContract, named⟩
  · rintro ⟨contract, declared, rfl, file, listed, named⟩
    cases found : contracts.toList.find? (·.acronym == contract.acronym) with
    | none => exact absurd (beq_self_eq_true _) (List.find?_eq_none.1 found contract declared)
    | some first =>
        have same := List.find?_some found
        rw [beq_iff_eq] at same
        refine ⟨⟨first, type, event, suffix⟩, mem_discover_iff.2 ⟨?_, rfl, file, ?_, named⟩, ?_⟩
        · rw [same]
          exact found
        · rw [Contract.directory, same]
          exact listed
        · rw [FunctionStub.sortKey, same]

/--
A tree of files is read without a change.  The functions of a type that are found in it are
strictly in order.  There is one for an acronym, an event and digits exactly if a contract has the
acronym and its directory has a file named for the event and the digits, and it is the one of the
first contract with the acronym.  The order in which files are listed does not matter.
-/
theorem discover_tree (tree : FileTree) (root : String) (contracts : ContractSet)
    (type : FunctionType) :
    (FileTree.disk.reference root contracts).run.run tree =
        pure (.ok (tree.reference root contracts), tree) ∧
      ((tree.reference root contracts).discover contracts type).Pairwise FunctionStub.Precedes ∧
      (∀ acronym event suffix,
        (∃ stub ∈ (tree.reference root contracts).discover contracts type,
          stub.sortKey = [acronym, event, suffix]) ↔
        (∃ contract ∈ contracts.toList, contract.acronym = acronym) ∧
          ∃ file, tree.HasFile (Path.join root (Text.lower acronym)) file ∧
            NamesFunction file type event suffix) ∧
      (∀ stub ∈ (tree.reference root contracts).discover contracts type,
        stub.functionType = type ∧
        contracts.toList.find? (·.acronym == stub.contract.acronym) = some stub.contract) ∧
      ∀ reference : Reference,
        (∀ contract ∈ contracts.toList, (reference.files contract.directory).Perm
          (tree.fileNames (Path.join root contract.directory))) →
        reference.discover contracts type =
          (tree.reference root contracts).discover contracts type := by
  refine ⟨tree.run_reference root contracts, pairwise_precedes_discover _ _ _,
    fun acronym event suffix => ?_, ?_, ?_⟩
  · rw [exists_sortKey_iff]
    constructor
    · rintro ⟨contract, declared, rfl, file, listed, named⟩
      rw [FileTree.files_reference declared, FileTree.mem_fileNames_iff] at listed
      exact ⟨⟨contract, declared, rfl⟩, file, listed, named⟩
    · rintro ⟨⟨contract, declared, rfl⟩, file, there, named⟩
      refine ⟨contract, declared, rfl, file, ?_, named⟩
      rw [FileTree.files_reference declared, FileTree.mem_fileNames_iff]
      exact there
  · intro stub listed
    obtain ⟨first, ofType, -⟩ := mem_discover_iff.1 listed
    exact ⟨ofType, first⟩
  · intro reference listed
    refine discover_congr (fun contract declared file => ?_) type
    rw [FileTree.files_reference declared]
    exact (listed contract declared).mem_iff

/-- A contract with a name and without terms. -/
def Contract.plain (acronym identifier : String) : Contract where
  type := {
    acronym, identifier
    description := ""
    name := identifier
    classification := ""
    coverage := none
    family := ""
    status := .unknown }
  terms := .empty

/-- Two contracts that share a directory, one of them with two identifiers. -/
def sharingContracts : ContractSet :=
  .ofList [.plain "pam" "third", .plain "PAM" "first", .plain "PAM" "second"]

def sharedFiles : FileTree :=
  ⟨[(["core"], .directory), (["core", "pam"], .directory),
    (["core", "pam", "STF_IP_PAM.java"], .file .empty),
    (["core", "pam", "POF_IP_PAM2.java"], .file .empty),
    (["core", "pam", "POF_IP_B_2"], .file .empty)]⟩

theorem discover_sharedFiles :
    (∃ stub ∈ (sharedFiles.reference "core" sharingContracts).discover sharingContracts .payoff,
      stub.sortKey = ["PAM", "IP", "2"] ∧ stub.contract.identifier = "first") ∧
      Reference.discover ⟨[("pam", ["POF_IP_B_2", "POF_IP_PAM2.java", "STF_IP_PAM.java"])]⟩
          sharingContracts .payoff =
        (sharedFiles.reference "core" sharingContracts).discover sharingContracts .payoff := by
  obtain ⟨-, -, keys, first, order⟩ := discover_tree sharedFiles "core" sharingContracts .payoff
  constructor
  · have named : NamesFunction "POF_IP_PAM2.java" .payoff "IP" "2" :=
      ⟨"POF_IP_PAM2", .inl ⟨"java", rfl, by decide, by decide⟩, by decide, by decide,
        .inr ⟨"PAM", rfl, by simp, by simp⟩⟩
    have there : sharedFiles.HasFile (Path.join "core" (Text.lower "PAM")) "POF_IP_PAM2.java" :=
      FileTree.mem_fileNames_iff.1 (by decide +kernel)
    have declared : ∃ contract ∈ sharingContracts.toList, contract.acronym = "PAM" := by
      decide +kernel
    obtain ⟨stub, listed, key⟩ := (keys "PAM" "IP" "2").2 ⟨declared, _, there, named⟩
    obtain ⟨-, found⟩ := first stub listed
    have acronym : stub.contract.acronym = "PAM" := (List.cons.inj key).1
    have identifier : (sharingContracts.toList.find? (·.acronym == "PAM")).map
        Contract.identifier = some "first" := by
      decide +kernel
    rw [acronym] at found
    rw [found] at identifier
    exact ⟨stub, listed, key, Option.some.inj identifier⟩
  · have directories : ∀ contract ∈ sharingContracts.toList, contract.directory = "pam" := by
      decide +kernel
    refine order _ fun contract declared => ?_
    rw [directories contract declared]
    decide +kernel

end ContractDictionary
