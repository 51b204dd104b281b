import ContractDictionary.Proofs.Generation.DeclaredTypes
import ContractDictionary.Proofs.Generation.Overwriting

/-!
# Names by convention

The identifiers of a document are by convention in camel case, its acronyms are made of capitals and
digits, and so are the events of a reference implementation.  Where each of them is given once and
none is that of an index, names are apart in every language, and a run keeps all of its files.
-/

namespace ContractDictionary

structure Text.IsToken (text : String) : Prop where
  filled : text ≠ ""
  isToken : ∀ c ∈ text.toList, (isCapital c || isDigit c) = true

instance (text : String) : Decidable (Text.IsToken text) :=
  decidable_of_iff (text ≠ "" ∧
      text.toList.all (fun c => Text.isCapital c || Text.isDigit c) = true)
    ⟨fun h => ⟨h.1, List.all_eq_true.1 h.2⟩, fun h => ⟨h.filled, List.all_eq_true.2 h.isToken⟩⟩

namespace Text.IsToken

variable {text : String} (token : IsToken text)

include token

theorem ascii : ∀ c ∈ text.toList, c.toNat < 0x80 := by
  intro c member
  rcases Bool.or_eq_true_iff.1 (token.isToken c member) with capital | digit
  · have := isCapital_iff.1 capital
    omega
  · have := isDigit_iff.1 digit
    omega

theorem isSmall_eq_false : ∀ c ∈ text.toList, isSmall c = false := by
  intro c member
  rw [Bool.eq_false_iff, ne_eq, isSmall_iff]
  rcases Bool.or_eq_true_iff.1 (token.isToken c member) with capital | digit
  · have := isCapital_iff.1 capital
    omega
  · have := isDigit_iff.1 digit
    omega

/-- A token is read back from its form in lower case. -/
theorem upper_lower : upper (lower text) = text := by
  rw [Text.upper_lower token.ascii, upper_of_forall_not_isSmall token.ascii token.isSmall_eq_false]

theorem notMem {c : Char} (other : (isCapital c || isDigit c) = false) : c ∉ text.toList := by
  intro member
  have letter := token.isToken c member
  rw [other] at letter
  cases letter

theorem ne_of_mem {other : String} {c : Char} (member : c ∈ other.toList)
    (outside : (isCapital c || isDigit c) = false) : text ≠ other := by
  rintro rfl
  exact token.notMem outside member

theorem isName_lower : Path.IsName (lower text) where
  notEmpty := by
    intro same
    have whole := token.upper_lower
    rw [same] at whole
    exact token.filled whole.symm
  notPoint := by
    intro same
    have whole := token.upper_lower
    rw [same] at whole
    exact token.ne_of_mem (show '.' ∈ (upper ".").toList by decide +kernel) (by decide) whole.symm
  noSlash := slash_notMem_lower (token.notMem (by decide))

end Text.IsToken

/-- The stems of index files that may be names of their own. -/
def indexStems : List String := ["mod", "index"]

def Document.enumerationIds (document : Document) : List String :=
  ((document.terms.values.filter fun record => DeclaresEnumeration record.type).map
    (·.identifier)) ++ document.eventType.identifier.toList ++ [referenceRoleId, referenceTypeId]

def Document.contractAcronyms (document : Document) : List String :=
  (document.taxonomy.values.map (·.acronym)).filter (· != experimentalAcronym)

structure Document.IsConventional (document : Document) : Prop where
  identifiers : ∀ identifier ∈ document.enumerationIds, Text.IsCamelCase identifier
  identifiersOnce : document.enumerationIds.Nodup
  identifiersFree : ∀ identifier ∈ document.enumerationIds, identifier ∉ indexStems
  acronyms : ∀ acronym ∈ document.contractAcronyms, Text.IsToken acronym
  acronymsOnce : document.contractAcronyms.Nodup
  acronymsFree : ∀ acronym ∈ document.contractAcronyms, Text.lower acronym ∉ indexStems

structure Reference.IsConventional (reference : Reference) : Prop where
  listing : reference.IsListing
  events : ∀ directory ∈ reference.directories, ∀ file ∈ directory.2, ∀ type event suffix,
    NamesFunction file type event suffix → Text.IsToken event

def Language.indexStem : Language → String
  | .python => "__init__"
  | .rust => "mod"
  | .typeScript => "index"

theorem sourceFile_indexStem (language : Language) :
    language.sourceFile language.indexStem = language.indexFile := by
  cases language <;> decide

theorem ne_indexFile {language : Language} {stem : String} (other : stem ≠ language.indexStem) :
    language.sourceFile stem ≠ language.indexFile := by
  rw [← sourceFile_indexStem]
  exact mt language.sourceFile_injective other

theorem enumerationModule_ne_indexStem {identifier : String}
    (camelCase : Text.IsCamelCase identifier) (free : identifier ∉ indexStems)
    (language : Language) : language.enumerationModule identifier ≠ language.indexStem := by
  intro same
  cases language with
  | python =>
      have module : Text.snake identifier = "__init__" := same
      have restored := Text.camel_snake camelCase
      rw [module, show Text.camel "_" "__init__" = "init" by decide +kernel] at restored
      rw [← restored] at module
      exact absurd module (by decide +kernel)
  | rust =>
      have module : Text.snake identifier = "mod" := same
      have restored := Text.camel_snake camelCase
      rw [module, show Text.camel "_" "mod" = "mod" by decide +kernel] at restored
      exact free (restored ▸ by decide)
  | typeScript =>
      have module : Text.camel "_" identifier = "index" := same
      rw [Text.camel_of_isCamelCase camelCase] at module
      exact free (module ▸ by decide)

theorem contractModule_ne_indexStem {acronym : String} (token : Text.IsToken acronym)
    (free : Text.lower acronym ∉ indexStems) (language : Language) :
    contractModule acronym ≠ language.indexStem := by
  intro same
  cases language with
  | python =>
      have restored := token.upper_lower
      rw [show Text.lower acronym = "__init__" from same] at restored
      exact token.ne_of_mem (show '_' ∈ (Text.upper "__init__").toList by decide +kernel)
        (by decide) restored.symm
  | rust =>
      rw [show Text.lower acronym = "mod" from same] at free
      exact free (by decide)
  | typeScript =>
      rw [show Text.lower acronym = "index" from same] at free
      exact free (by decide)

theorem slash_notMem_enumerationModule {identifier : String}
    (camelCase : Text.IsCamelCase identifier) (language : Language) :
    '/' ∉ (language.enumerationModule identifier).toList := by
  have own : '/' ∉ identifier.toList := fun member =>
    absurd (camelCase.alphanumeric _ member) (by decide)
  have snake : '/' ∉ (Text.snake identifier).toList := by
    rw [Text.toList_snake camelCase, Text.underscored, List.mem_flatMap]
    rintro ⟨c, listed, slash⟩
    have lowered := Text.slash_notMem_lowerChar (ne_of_mem_of_not_mem listed own)
    split at slash
    · rcases List.mem_cons.1 slash with same | member
      · cases same
      · exact lowered member
    · exact own (List.mem_singleton.1 slash ▸ listed)
  cases language with
  | python => exact snake
  | rust => exact snake
  | typeScript =>
      show '/' ∉ (Text.camel "_" identifier).toList
      rw [Text.camel_of_isCamelCase camelCase]
      exact own

section

variable {document : Document} {dictionary : Dictionary} {warnings : List Warning}
  (compiled : document.compile = .ok ⟨dictionary, warnings⟩)

include compiled

theorem perm_enumerationIds :
    (dictionary.enumerations.map (·.identifier)).Perm document.enumerationIds := by
  obtain ⟨normal, normalized, built, -⟩ := compile_eq_ok_iff.1 compiled
  obtain ⟨terms, listed, declared⟩ := exists_terms_of_compile compiled
  have event := identifier_of_compileEnumeration built.eventType
  have role := identifier_of_compileEnumeration built.referenceRole
  have type := identifier_of_compileEnumeration built.referenceType
  rw [eq_of_normalize normalized] at event role type
  have selected {α : Type} (list : List α) (name : α → String) (chosen : α → Bool) :
      (list.filter chosen).map name =
        ((list.map fun item => (name item, chosen item)).filter Prod.snd).map Prod.fst := by
    rw [List.filter_map, List.map_map]
    rfl
  have named : terms.map (fun term => (term.identifier, term.isEnumerated)) =
      document.terms.values.map fun record =>
        (record.identifier, decide (DeclaresEnumeration record.type)) := by
    rw [Keyed.values, List.map_map]
    refine map_eq_of_mapM_eq_ok declared _ _ fun entry _ term own => Prod.ext ?_ ?_
    · exact (identifier_of_compileTerm own).trans (identifier_normalize _ _ _)
    · have same := type_of_compileTerm own
      rw [type_normalize] at same
      refine decide_eq_decide.2 ?_
      rw [same, declaresEnumeration_text_iff]
      rfl
  have ofTerms : ((dictionary.terms.toList.filterMap Term.asEnumeration?).map
      (·.identifier)).Perm ((document.terms.values.filter fun record =>
        DeclaresEnumeration record.type).map (·.identifier)) := by
    rw [selected document.terms.values, ← named, ← selected, filterMap_asEnumeration?,
      TermSet.enumerated, EntitySet.toList_filter, List.map_map, listed]
    exact ((EntitySet.toList_ofList_perm terms).filter _).map _
  have others : [dictionary.eventType, dictionary.referenceRole, dictionary.referenceType].map
      (·.identifier) =
        document.eventType.identifier.toList ++ [referenceRoleId, referenceTypeId] := by
    rw [event, Option.some.inj role, Option.some.inj type]
    rfl
  refine ((sortOn_perm _ _).map _).trans ?_
  rw [List.map_append, others, Document.enumerationIds, List.append_assoc]
  exact ofTerms.append_right _

theorem perm_contractAcronyms :
    (dictionary.contracts.toList.map Contract.acronym).Perm document.contractAcronyms := by
  obtain ⟨normal, normalized, built, -⟩ := compile_eq_ok_iff.1 compiled
  obtain ⟨types, declared, listed⟩ := built.taxonomy
  have own : dictionary.contracts.toList.map Contract.type =
      dictionary.taxonomy.toList.filter (!·.isExperimental) :=
    map_type_of_mapM (toList_of_contractsOf_eq_ok built.contracts)
  have acronyms : types.map (·.acronym) = document.taxonomy.values.map (·.acronym) := by
    rw [eq_of_normalize normalized] at declared
    exact map_of_compileSection declared _ _ fun _ _ _ compiled =>
      congrArg Prod.snd (naming_of_compileContractType compiled)
  have kept : dictionary.contracts.toList.map Contract.acronym =
      (dictionary.taxonomy.toList.map (·.acronym)).filter (· != experimentalAcronym) := by
    calc dictionary.contracts.toList.map Contract.acronym
        = (dictionary.contracts.toList.map Contract.type).map (·.acronym) := by
          rw [List.map_map]
          rfl
      _ = (dictionary.taxonomy.toList.map (·.acronym)).filter (· != experimentalAcronym) := by
          rw [own, List.filter_map]
          rfl
  rw [kept, Document.contractAcronyms, ← acronyms, listed]
  exact ((sortOn_perm _ _).map _).filter _

end

theorem isToken_of_mem_discover {reference : Reference} (conventional : reference.IsConventional)
    {contracts : ContractSet} {type : FunctionType} {stub : FunctionStub}
    (found : stub ∈ reference.discover contracts type) : Text.IsToken stub.eventType := by
  obtain ⟨-, -, file, listed, named⟩ := exists_of_mem_discover found
  obtain ⟨files, among, member⟩ := mem_directories_of_mem_files listed
  exact conventional.events _ among file member _ _ _ (stub?_eq_some_iff.1 named).2.2

theorem isDigit_of_mem_discover {reference : Reference} {contracts : ContractSet}
    {type : FunctionType} {stub : FunctionStub} (found : stub ∈ reference.discover contracts type) :
    ∀ c ∈ stub.suffix.toList, c.isDigit = true := by
  obtain ⟨-, -, file, -, named⟩ := exists_of_mem_discover found
  obtain ⟨parts, read, -, whole⟩ := stub?_eq_some.1 named
  rw [whole, String.toList_ofList]
  exact (eventType_of_stemParts? read).2

/-- Behind the mark of its type, the module of a function for a token keeps its case. -/
theorem upper_lower_moduleText {stub : FunctionStub} (event : Text.IsToken stub.eventType)
    (digits : ∀ c ∈ stub.suffix.toList, c.isDigit = true) :
    (Text.upper (Text.lower stub.moduleText)).toList =
      stub.functionType.mark.toList.flatMap Text.upperChar ++
        (stub.eventType.toList ++ stub.ending) := by
  have ending : ∀ c ∈ stub.ending, c.toNat < 0x80 ∧ Text.isSmall c = false := by
    intro c member
    unfold FunctionStub.ending at member
    split at member
    · cases member
    · rcases List.mem_cons.1 member with rfl | member
      · decide
      · have digit : 48 ≤ c.toNat ∧ c.toNat ≤ 57 := Text.toNat_of_isDigit (digits c member)
        refine ⟨by omega, ?_⟩
        rw [Bool.eq_false_iff, ne_eq, Text.isSmall_iff]
        omega
  have behind : ∀ c ∈ stub.eventType.toList ++ stub.ending,
      c.toNat < 0x80 ∧ Text.isSmall c = false := by
    intro c member
    rcases List.mem_append.1 member with member | member
    · exact ⟨event.ascii c member, event.isSmall_eq_false c member⟩
    · exact ending c member
  have mark : stub.functionType.mark.toList.all (·.toNat < 0x80) = true := by
    cases stub.functionType <;> decide
  have ascii : ∀ c ∈ stub.moduleText.toList, c.toNat < 0x80 := by
    intro c member
    rw [toList_moduleText] at member
    rcases List.mem_append.1 member with member | member
    · exact of_decide_eq_true (List.all_eq_true.1 mark c member)
    · exact (behind c member).1
  rw [Text.upper_lower ascii, Text.upper, String.toList_ofList, toList_moduleText,
    List.flatMap_append]
  congr 1
  rw [List.flatMap_congr fun c member =>
    Text.upperChar_of_not_isSmall (behind c member).1 (behind c member).2, List.flatMap_singleton']

/-- Functions of one type that are found for tokens differ in more than the case of a module. -/
theorem pairwise_stubModule {reference : Reference} (conventional : reference.IsConventional)
    (contracts : ContractSet) (language : Language) (type : FunctionType) :
    (reference.discover contracts type).Pairwise fun a b =>
      a.contract.acronym = b.contract.acronym → language.stubModule a ≠ language.stubModule b := by
  refine (pairwise_discover reference contracts type).imp_of_mem fun {a b} left right differ => ?_
  intro acronym same
  have leftEvent := isToken_of_mem_discover conventional left
  have rightEvent := isToken_of_mem_discover conventional right
  have ofType : a.functionType = b.functionType :=
    (exists_of_mem_discover left).2.1.trans (exists_of_mem_discover right).2.1.symm
  have text : a.moduleText = b.moduleText := by
    rw [stubModule_eq, stubModule_eq] at same
    split at same
    · exact same
    · have raised := congrArg (fun text => (Text.upper text).toList) same
      rw [upper_lower_moduleText leftEvent (isDigit_of_mem_discover left),
        upper_lower_moduleText rightEvent (isDigit_of_mem_discover right), ofType] at raised
      rw [← String.toList_inj, toList_moduleText, toList_moduleText, ofType,
        List.append_cancel_left raised]
  obtain ⟨event, suffix⟩ := eq_of_moduleText_eq ofType (underscore_notMem_of_mem_discover left)
    (underscore_notMem_of_mem_discover right) text
  exact differ (by rw [FunctionStub.sortKey, FunctionStub.sortKey, acronym, event, suffix])

section

variable {document : Document} {dictionary : Dictionary} {warnings : List Warning}
  (compiled : document.compile = .ok ⟨dictionary, warnings⟩)
  (conventional : document.IsConventional)

include compiled conventional

theorem isCamelCase_of_isConventional {enumeration : Enumeration}
    (listed : enumeration ∈ dictionary.enumerations) :
    Text.IsCamelCase enumeration.identifier ∧ enumeration.identifier ∉ indexStems := by
  have declared := (perm_enumerationIds compiled).mem_iff.1 (List.mem_map_of_mem listed)
  exact ⟨conventional.identifiers _ declared, conventional.identifiersFree _ declared⟩

theorem isToken_of_isConventional {contract : Contract}
    (listed : contract ∈ dictionary.contracts.toList) :
    Text.IsToken contract.acronym ∧ Text.lower contract.acronym ∉ indexStems := by
  have declared := (perm_contractAcronyms compiled).mem_iff.1 (List.mem_map_of_mem listed)
  exact ⟨conventional.acronyms _ declared, conventional.acronymsFree _ declared⟩

theorem namesProper_of_isConventional {reference : Reference}
    (functions : reference.IsConventional) (language : Language)
    (templates : TemplateCollection) :
    Generator.NamesProper ⟨language, dictionary, templates⟩ reference where
  enumerations enumeration listed := by
    obtain ⟨camelCase, -⟩ := isCamelCase_of_isConventional compiled conventional listed
    exact slash_notMem_enumerationModule camelCase language
  contracts contract listed :=
    (isToken_of_isConventional compiled conventional listed).1.isName_lower
  referenceFiles := functions.listing

theorem namesApart_of_isConventional {reference : Reference}
    (functions : reference.IsConventional) (language : Language)
    (templates : TemplateCollection) :
    Generator.NamesApart ⟨language, dictionary, templates⟩ reference where
  enumerations := by
    have once := (perm_enumerationIds compiled).nodup_iff.2 conventional.identifiersOnce
    have camelCase {identifier : String}
        (listed : identifier ∈ dictionary.enumerations.map (·.identifier)) :=
      conventional.identifiers _ ((perm_enumerationIds compiled).mem_iff.1 listed)
    have modules := once.map_on (f := language.enumerationModule)
      fun _ first _ second same =>
        eq_of_enumerationModule_eq (camelCase first) (camelCase second) same
    rw [List.map_map] at modules
    exact modules
  enumerationFiles enumeration listed := by
    obtain ⟨camelCase, free⟩ := isCamelCase_of_isConventional compiled conventional listed
    exact ne_indexFile (enumerationModule_ne_indexStem camelCase free language)
  contracts := by
    have once := (perm_contractAcronyms compiled).nodup_iff.2 conventional.acronymsOnce
    have token {acronym : String}
        (listed : acronym ∈ dictionary.contracts.toList.map Contract.acronym) :=
      conventional.acronyms _ ((perm_contractAcronyms compiled).mem_iff.1 listed)
    have modules := once.map_on (f := Text.lower) fun _ firstListed _ secondListed same => by
      rw [← (token firstListed).upper_lower, same, (token secondListed).upper_lower]
    rw [List.map_map] at modules
    exact modules
  contractFiles contract listed := by
    obtain ⟨token, free⟩ := isToken_of_isConventional compiled conventional listed
    exact ne_indexFile (contractModule_ne_indexStem token free language)
  functions _ type := pairwise_stubModule functions _ _ type

/--
If the names of a document and of a reference implementation are by convention, no two files of a
run in any language and with any templates have one path, and the run keeps all of them.
-/
theorem run_keeps_files_of_isConventional {reference : Reference}
    (functions : reference.IsConventional) (language : Language)
    (templates : TemplateCollection) :
    let generator : Generator := ⟨language, dictionary, templates⟩
    PathsDiffer (plannedFiles (generator.batches reference)) ∧
      ∃ files, (generator.run reference WrittenFiles.sink).run .empty =
          (.ok (Report.ofBatches (generator.batches reference)), files) ∧
        ∀ file ∈ plannedFiles (generator.batches reference),
          files.get? file.path = some file.content := by
  have differ := pathsDiffer_of_namesApart
    (namesProper_of_isConventional compiled conventional functions language templates)
    (namesApart_of_isConventional compiled conventional functions language templates)
  exact ⟨differ, run_keeps_files differ⟩

end

example : annuityAndBond.IsConventional :=
  ⟨by decide +kernel, by decide +kernel, by decide +kernel, by decide +kernel, by decide +kernel,
    by decide +kernel⟩

end ContractDictionary
