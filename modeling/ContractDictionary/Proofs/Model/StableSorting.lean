import ContractDictionary.Model.Term
import ContractDictionary.Proofs.Outcome
import Mathlib.Data.List.Basic

/-!
# Stable sorting

Sorting keeps elements in their order that are equal to each other.  A list has one stable order by
a key: that in which the keys do not decrease, and elements of each key are as they were.  So to
select from sorted elements is to sort the selected ones, and a change of elements that leaves
their keys alone commutes with sorting.

A set of terms holds given terms in the stable order of their identifiers.  A lookup gives the
first given term with an identifier, and selections are chosen from the set as they would be from
the given terms.
-/

namespace ContractDictionary

section

variable {ε α β γ : Type}

theorem insertBy_map {le : α → α → Bool} {le' : β → β → Bool} {change : α → β}
    (keeps : ∀ a b, le' (change a) (change b) = le a b) (item : α) (items : List α) :
    insertBy le' (change item) (items.map change) = (insertBy le item items).map change := by
  induction items with
  | nil => rfl
  | cons first rest ih =>
      rw [List.map_cons, insertBy, insertBy, keeps, ih]
      split <;> rfl

theorem sortBy_map {le : α → α → Bool} {le' : β → β → Bool} {change : α → β}
    (keeps : ∀ a b, le' (change a) (change b) = le a b) (items : List α) :
    sortBy le' (items.map change) = (sortBy le items).map change := by
  induction items with
  | nil => rfl
  | cons first rest ih =>
      show insertBy le' (change first) (sortBy le' (rest.map change)) =
        (insertBy le first (sortBy le rest)).map change
      rw [ih, insertBy_map keeps]

theorem sortOn_map {key : α → String} {key' : β → String} {change : α → β}
    (keeps : ∀ a, key' (change a) = key a) (items : List α) :
    sortOn key' (items.map change) = (sortOn key items).map change :=
  sortBy_map (fun a b => by rw [keeps, keeps]) items

theorem dropRepeatsAfter_map {same : α → α → Bool} {same' : β → β → Bool} {change : α → β}
    (keeps : ∀ a b, same' (change a) (change b) = same a b) (last : α) (items : List α) :
    dropRepeatsAfter same' (change last) (items.map change) =
      (dropRepeatsAfter same last items).map change := by
  induction items generalizing last with
  | nil => rfl
  | cons first rest ih =>
      rw [List.map_cons, dropRepeatsAfter, dropRepeatsAfter, keeps, ih, ih]
      split <;> rfl

theorem dropRepeats_map {same : α → α → Bool} {same' : β → β → Bool} {change : α → β}
    (keeps : ∀ a b, same' (change a) (change b) = same a b) (items : List α) :
    dropRepeats same' (items.map change) = (dropRepeats same items).map change := by
  cases items with
  | nil => rfl
  | cons first rest =>
      rw [List.map_cons, dropRepeats, dropRepeats, dropRepeatsAfter_map keeps, List.map_cons]

/-- Results that are changed are those of steps whose results are changed. -/
theorem map_mapM (change : β → γ) (step : α → Except ε β) (items : List α) :
    (items.mapM step).map (List.map change) = items.mapM fun item => (step item).map change := by
  induction items with
  | nil => rfl
  | cons first rest ih =>
      rw [List.mapM_cons, List.mapM_cons, ← ih]
      cases step first with
      | error fault => rfl
      | ok result => cases rest.mapM step <;> rfl

/-- What has the same change as a result is a result itself. -/
theorem exists_ok_of_map_eq {change : α → β} {step step' : Except ε α}
    (same : step'.map change = step.map change) {result : α} (given : step = .ok result) :
    ∃ result', step' = .ok result' ∧ change result' = change result := by
  rw [given] at same
  exact map_eq_ok.1 same

variable [Entity α]

theorem EntitySet.eq_of_toList {set set' : EntitySet α} (same : set.toList = set'.toList) :
    set = set' := by
  cases set
  cases set'
  cases same
  rfl

/-- The set with every entity changed, if the change keeps the identifiers. -/
def EntitySet.map (change : α → α) (keeps : ∀ a, identifierOf (change a) = identifierOf a)
    (set : EntitySet α) : EntitySet α :=
  ⟨set.toList.map change, by simpa only [List.pairwise_map, keeps] using set.ordered⟩

section

variable {change : α → α} (keeps : ∀ a, identifierOf (change a) = identifierOf a)

theorem EntitySet.map_ofList (items : List α) :
    (ofList items).map change keeps = ofList (items.map change) :=
  eq_of_toList (sortOn_map keeps items).symm

theorem EntitySet.get?_map (set : EntitySet α) (identifier : String) :
    (set.map change keeps).get? identifier = (set.get? identifier).map change := by
  show (set.toList.map change).find? _ = _
  rw [List.find?_map]
  simp only [Function.comp_def, keeps]
  rfl

end

end

/-! ## The stable order -/

section

variable {α : Type}

/-- An element is put in front of those that pass a test, if it passes it and precedes them. -/
theorem filter_insertBy {le : α → α → Bool} {test : α → Bool} {item : α}
    (tied : ∀ other, test item = true → test other = true → le item other = true)
    (items : List α) : (insertBy le item items).filter test = (item :: items).filter test := by
  induction items with
  | nil => rfl
  | cons first rest ih =>
      rw [insertBy]
      split
      · rfl
      · next after =>
          have apart : test item = false ∨ test first = false := by
            cases own : test item with
            | false => exact .inl rfl
            | true =>
                cases other : test first with
                | false => exact .inr rfl
                | true => exact absurd (tied first own other) after
          rw [List.filter_cons, ih, List.filter_cons, List.filter_cons, List.filter_cons]
          obtain failed | failed := apart <;> simp [failed]

/-- Sorting keeps elements in their order that are equal to each other. -/
theorem filter_sortBy {le : α → α → Bool} {test : α → Bool}
    (tied : ∀ a b, test a = true → test b = true → le a b = true) (items : List α) :
    (sortBy le items).filter test = items.filter test := by
  induction items with
  | nil => rfl
  | cons first rest ih =>
      show (insertBy le first (sortBy le rest)).filter test = _
      rw [filter_insertBy (tied first), List.filter_cons, List.filter_cons, ih]

/-- The elements of the second list are those of the first, in stable order by the key. -/
structure IsStablySorted {κ : Type} [LE κ] [DecidableEq κ] (key : α → κ)
    (source sorted : List α) : Prop where
  ordered : sorted.Pairwise fun a b => key a ≤ key b
  kept : ∀ wanted, sorted.filter (key · = wanted) = source.filter (key · = wanted)

theorem isStablySorted_sortOn (key : α → String) (items : List α) :
    IsStablySorted key items (sortOn key items) where
  ordered := pairwise_sortOn key items
  kept wanted := by
    refine filter_sortBy (fun a b first second => ?_) items
    rw [decide_eq_true_eq] at first second ⊢
    exact (first.trans second.symm) ▸ String.le_refl (key a)

theorem isStablySorted_sortMembers (members : List Member) :
    IsStablySorted (·.option) members (sortMembers members) where
  ordered := pairwise_sortMembers members
  kept wanted := by
    refine filter_sortBy (fun a b first second => ?_) members
    rw [decide_eq_true_eq] at first second ⊢
    omega

/-- What is a part of elements under each key is so without the first of them, if it is under the
key of the first. -/
theorem sublist_filter_of_cons {κ : Type} [DecidableEq κ] {key : α → κ} {part whole : List α}
    {next : α}
    (own : (part.filter (key · = key next)).Sublist (whole.filter (key · = key next)))
    (others : ∀ wanted, key next ≠ wanted →
      (part.filter (key · = wanted)).Sublist ((next :: whole).filter (key · = wanted)))
    (wanted : κ) : (part.filter (key · = wanted)).Sublist (whole.filter (key · = wanted)) := by
  by_cases same : key next = wanted
  · exact same ▸ own
  · have rest := others wanted same
    rwa [List.filter_cons_of_neg (by simpa using same)] at rest

section

variable {κ : Type} [LE κ] [DecidableEq κ] {key : α → κ}

/-- Elements in order that begin above a key have none with the key. -/
theorem filter_eq_nil_of_above [Std.Antisymm fun a b : κ => a ≤ b] {first : α} {rest : List α}
    (ordered : (first :: rest).Pairwise fun a b => key a ≤ key b) {low : κ}
    (above : low ≤ key first) (apart : key first ≠ low) :
    (first :: rest).filter (key · = low) = [] := by
  rw [List.filter_eq_nil_iff]
  intro item member tied
  rw [decide_eq_true_eq] at tied
  rcases List.mem_cons.1 member with rfl | member
  · exact apart tied
  · have below := (List.pairwise_cons.1 ordered).1 item member
    rw [tied] at below
    exact apart (Std.Antisymm.antisymm _ _ below above)

/-- Elements in order are a part of others in order, if those of each key are. -/
theorem sublist_of_ordered [Std.Antisymm fun a b : κ => a ≤ b] {part whole : List α}
    (partOrdered : part.Pairwise fun a b => key a ≤ key b)
    (ordered : whole.Pairwise fun a b => key a ≤ key b)
    (each : ∀ wanted,
      (part.filter (key · = wanted)).Sublist (whole.filter (key · = wanted))) :
    part.Sublist whole := by
  induction whole generalizing part with
  | nil =>
      cases part with
      | nil => exact .slnil
      | cons first rest => simpa using each (key first)
  | cons next whole ih =>
      obtain ⟨behind, ordered⟩ := List.pairwise_cons.1 ordered
      -- The next element may be left out if the part does without it under its key.
      have skip (own : (part.filter (key · = key next)).Sublist
          (whole.filter (key · = key next))) : part.Sublist (next :: whole) :=
        (ih partOrdered ordered (sublist_filter_of_cons own fun wanted _ => each wanted)).cons next
      cases part with
      | nil => exact List.nil_sublist _
      | cons first rest =>
          by_cases same : key first = key next
          · have kept : (first :: rest).filter (key · = key next) =
                first :: rest.filter (key · = key next) :=
              List.filter_cons_of_pos (by simpa using same)
            have own := each (key next)
            rw [kept, List.filter_cons_of_pos (by simp)] at own
            cases own with
            | cons _ own =>
                apply skip
                rwa [kept]
            | cons_cons _ own =>
                refine (ih partOrdered.of_cons ordered ?_).cons_cons next
                refine sublist_filter_of_cons own fun wanted apart => ?_
                have others := each wanted
                rwa [List.filter_cons_of_neg (by simpa [same] using apart)] at others
          · have listed : first ∈ (next :: whole).filter (key · = key first) :=
              (each (key first)).mem (List.mem_filter.2 ⟨List.mem_cons_self, by simp⟩)
            rw [List.filter_cons_of_neg (by simpa using Ne.symm same)] at listed
            have above := behind first (List.mem_filter.1 listed).1
            apply skip
            rw [filter_eq_nil_of_above partOrdered above same]
            exact List.nil_sublist _

/--
Elements are a part of sorted ones if their keys do not decrease and those of each key are a part
of the given ones.
-/
theorem IsStablySorted.sublist_iff [Std.Antisymm fun a b : κ => a ≤ b] {source sorted : List α}
    (stable : IsStablySorted key source sorted) {part : List α} :
    part.Sublist sorted ↔ (part.Pairwise fun a b => key a ≤ key b) ∧
      ∀ wanted, (part.filter (key · = wanted)).Sublist source := by
  constructor
  · intro sublist
    refine ⟨stable.ordered.sublist sublist, fun wanted => ?_⟩
    have tied := sublist.filter (key · = wanted)
    rw [stable.kept] at tied
    exact tied.trans List.filter_sublist
  · rintro ⟨ordered, each⟩
    refine sublist_of_ordered ordered stable.ordered fun wanted => ?_
    have tied := (each wanted).filter (key · = wanted)
    simp only [List.filter_filter, Bool.and_self] at tied
    rwa [stable.kept]

theorem IsStablySorted.unique [Std.Antisymm fun a b : κ => a ≤ b] {source sorted sorted' : List α}
    (stable : IsStablySorted key source sorted) (stable' : IsStablySorted key source sorted') :
    sorted = sorted' := by
  apply List.Sublist.antisymm
  · refine sublist_of_ordered stable.ordered stable'.ordered fun wanted => ?_
    rw [stable.kept, stable'.kept]
  · refine sublist_of_ordered stable'.ordered stable.ordered fun wanted => ?_
    rw [stable.kept, stable'.kept]

end

/-- To select from sorted elements is to sort the selected ones. -/
theorem filter_sortOn (key : α → String) (keep : α → Bool) (items : List α) :
    (sortOn key items).filter keep = sortOn key (items.filter keep) := by
  have stable := isStablySorted_sortOn key items
  refine IsStablySorted.unique ⟨stable.ordered.filter keep, fun wanted => ?_⟩
    (isStablySorted_sortOn key (items.filter keep))
  rw [List.filter_comm, stable.kept, List.filter_comm]

/-- Of sorted elements the first one with a key is the first of the given ones. -/
theorem find?_sortOn (key : α → String) (items : List α) (wanted : String) :
    (sortOn key items).find? (key · == wanted) = items.find? (key · == wanted) := by
  rw [← List.head?_filter, ← List.head?_filter]
  exact congrArg List.head? ((isStablySorted_sortOn key items).kept wanted)

/-- An element is found under its key, if no other one has the key. -/
theorem find?_of_mem {κ : Type} [BEq κ] [LawfulBEq κ] {key : α → κ} {items : List α}
    (apart : items.Pairwise fun a b => key a ≠ key b) {item : α} (listed : item ∈ items) :
    items.find? (key · == key item) = some item := by
  induction items with
  | nil => cases listed
  | cons first rest ih =>
      obtain ⟨head, tail⟩ := List.pairwise_cons.1 apart
      rcases List.mem_cons.1 listed with rfl | later
      · exact List.find?_cons_of_pos (beq_self_eq_true _)
      · rw [List.find?_cons_of_neg (by simpa using head item later), ih tail later]

/-- An element that precedes none of the first elements is put behind them. -/
theorem insertBy_append {le : α → α → Bool} {item : α} {front : List α}
    (behind : ∀ other ∈ front, le item other = false) (rest : List α) :
    insertBy le item (front ++ rest) = front ++ insertBy le item rest := by
  induction front with
  | nil => rfl
  | cons first front ih =>
      rw [List.cons_append, insertBy, behind first List.mem_cons_self, if_neg Bool.false_ne_true,
        ih fun other later => behind other (List.mem_cons_of_mem _ later)]
      rfl

/-- Elements that each precede none of the later ones are turned round. -/
theorem sortBy_of_descending {le : α → α → Bool} {items : List α}
    (descending : items.Pairwise fun a b => le a b = false) :
    sortBy le items = items.reverse := by
  induction items with
  | nil => rfl
  | cons first rest ih =>
      obtain ⟨head, tail⟩ := List.pairwise_cons.1 descending
      show insertBy le first (sortBy le rest) = _
      have last : insertBy le first (rest.reverse ++ []) = rest.reverse ++ [first] :=
        insertBy_append (fun other member => head other (List.mem_reverse.1 member)) []
      rw [List.append_nil] at last
      rw [ih tail, last, List.reverse_cons]

/-- Elements that all others stand behind are sorted for themselves. -/
theorem sortBy_append {le : α → α → Bool} {items front : List α}
    (behind : ∀ item ∈ items, ∀ other ∈ front, le item other = false) :
    sortBy le (items ++ front) = sortBy le front ++ sortBy le items := by
  induction items with
  | nil => exact (List.append_nil _).symm
  | cons first rest ih =>
      show insertBy le first (sortBy le (rest ++ front)) =
        sortBy le front ++ insertBy le first (sortBy le rest)
      rw [ih fun item later => behind item (List.mem_cons_of_mem _ later)]
      exact insertBy_append (fun other member => behind first List.mem_cons_self other
        ((sortBy_perm le front).mem_iff.1 member)) _

end

/-! ## Selections of terms -/

namespace EntitySet

variable {α : Type} [Entity α]

theorem isStablySorted_ofList (items : List α) :
    IsStablySorted identifierOf items (ofList items).toList :=
  isStablySorted_sortOn identifierOf items

/-- A lookup gives the first of the given entities that has the identifier. -/
theorem get?_ofList (items : List α) (identifier : String) :
    (ofList items).get? identifier = items.find? (identifierOf · == identifier) :=
  find?_sortOn identifierOf items identifier

theorem get?_ofList_eq_none_iff {items : List α} {identifier : String} :
    (ofList items).get? identifier = none ↔ ∀ item ∈ items, identifierOf item ≠ identifier := by
  rw [get?_ofList, List.find?_eq_none]
  simp only [beq_iff_eq]

/-- To select from a set is to make a set of the selected entities. -/
theorem filter_ofList (keep : α → Bool) (items : List α) :
    (ofList items).filter keep = ofList (items.filter keep) := by
  have selected : ((ofList items).filter keep).toList = (ofList (items.filter keep)).toList := by
    rw [toList_filter]
    exact filter_sortOn identifierOf keep items
  exact eq_of_toList selected

end EntitySet

theorem require_eq_ok_iff {terms : TermSet} {identifier : String} {term : Term} :
    terms.require identifier = .ok term ↔ terms.get? identifier = some term := by
  unfold TermSet.require
  cases terms.get? identifier <;> simp

/-- The set is the selection of those given terms that pass a test. -/
structure TermSet.IsSelection (selected : TermSet) (keep : Term → Bool) (terms : List Term) :
    Prop where
  /-- It is the set of the given terms that pass. -/
  ofGiven : selected = .ofList (terms.filter keep)
  /-- It has the terms of the whole set that pass, in their order. -/
  ofWhole : selected.toList = (EntitySet.ofList terms).toList.filter keep
  /-- For each of its terms the whole set has the first given one with the identifier. -/
  found : ∀ term ∈ selected.toList, ∃ first,
    TermSet.require (.ofList terms) term.identifier = .ok first ∧
      first.identifier = term.identifier ∧
      terms.find? (·.identifier == term.identifier) = some first
  /-- It is the term itself where each identifier is given once. -/
  itself : (terms.map (·.identifier)).Nodup → ∀ term ∈ selected.toList,
    TermSet.require (.ofList terms) term.identifier = .ok term

theorem isSelection_filter (keep : Term → Bool) (terms : List Term) :
    TermSet.IsSelection ((EntitySet.ofList terms).filter keep) keep terms := by
  have member {term : Term} (selected : term ∈ ((EntitySet.ofList terms).filter keep).toList) :
      term ∈ terms := by
    rw [EntitySet.toList_filter] at selected
    exact EntitySet.mem_ofList.1 (List.mem_filter.1 selected).1
  constructor
  case ofGiven => exact EntitySet.filter_ofList keep terms
  case ofWhole => exact EntitySet.toList_filter keep _
  case found =>
    intro term selected
    have given : (terms.find? (·.identifier == term.identifier)).isSome = true :=
      List.find?_isSome.2 ⟨term, member selected, beq_self_eq_true _⟩
    obtain ⟨first, found⟩ := Option.isSome_iff_exists.1 given
    refine ⟨first, ?_, ?_, found⟩
    · rw [require_eq_ok_iff, EntitySet.get?_ofList]
      exact found
    · have named := List.find?_some found
      exact beq_iff_eq.1 named
  case itself =>
    intro apart term selected
    rw [require_eq_ok_iff, EntitySet.get?_ofList]
    exact find?_of_mem (List.pairwise_map.1 apart) (member selected)

/--
A set of terms has the given terms in the stable order of their identifiers, and a lookup gives the
first given one, or nothing if none has the identifier.  The terms of a group and the enumerated
terms are selections.
-/
theorem terms_of_ofList (terms : List Term) (group : String) :
    (EntitySet.ofList terms).toList.Perm terms ∧
    IsStablySorted identifierOf terms (EntitySet.ofList terms).toList ∧
    (∀ identifier, (EntitySet.ofList terms).get? identifier =
      terms.find? (·.identifier == identifier)) ∧
    (∀ identifier, (EntitySet.ofList terms).get? identifier = none ↔
      ∀ term ∈ terms, term.identifier ≠ identifier) ∧
    (TermSet.ofGroup (.ofList terms) group).IsSelection (·.group == group) terms ∧
    (TermSet.enumerated (.ofList terms)).IsSelection Term.isEnumerated terms := by
  refine ⟨EntitySet.toList_ofList_perm terms, EntitySet.isStablySorted_ofList terms,
    EntitySet.get?_ofList terms, fun identifier => EntitySet.get?_ofList_eq_none_iff, ?_, ?_⟩
  · exact isSelection_filter (·.group == group) terms
  · exact isSelection_filter Term.isEnumerated terms

/-- A numeric term with a name and a group and nothing more. -/
def Term.plain (acronym identifier group : String) : Term where
  acronym := acronym
  description := ""
  identifier := identifier
  name := identifier
  allowedValues := []
  default := none
  group := group
  type := ⟨.real, false⟩

/-- Two terms of one identifier in different groups, and one that stands before them in order. -/
def repeatedTerms : List Term :=
  [.plain "FIRST" "rate" "Notional", .plain "SECOND" "rate" "Interest",
    .plain "THIRD" "amount" "Interest"]

/-- The lookup of a selected term may give another term of the same identifier. -/
theorem terms_of_repeatedTerms :
    ((TermSet.ofGroup (.ofList repeatedTerms) "Interest").toList.map (·.acronym)) =
      ["THIRD", "SECOND"] ∧
    ∃ term ∈ (TermSet.ofGroup (.ofList repeatedTerms) "Interest").toList, ∃ first,
      TermSet.require (.ofList repeatedTerms) term.identifier = .ok first ∧
        term.acronym = "SECOND" ∧ first.acronym = "FIRST" := by
  obtain ⟨-, -, -, -, selection, -⟩ := terms_of_ofList repeatedTerms "Interest"
  refine ⟨by decide +kernel, ?_⟩
  have member : Term.plain "SECOND" "rate" "Interest" ∈
      (TermSet.ofGroup (.ofList repeatedTerms) "Interest").toList := by
    rw [selection.ofGiven, EntitySet.mem_ofList]
    exact List.mem_filter.2 ⟨.tail _ (.head _), rfl⟩
  obtain ⟨first, found, -, earliest⟩ := selection.found _ member
  refine ⟨_, member, first, found, rfl, ?_⟩
  have given : repeatedTerms.find? (·.identifier == "rate") =
      some (.plain "FIRST" "rate" "Notional") := rfl
  cases given.symm.trans earliest
  rfl

end ContractDictionary
