import ContractDictionary.Proofs.Compile.Sections
import ContractDictionary.Proofs.Model.StableSorting

/-!
# Contract types that rows name

The contract types of rows are listed in the order of the rows, a type once for each run of its
rows.  A type is listed twice if rows of another type come between two of its own.  The sort keys
of such rows begin with the type and the bar that is put behind it, so that one of the two types
continues the other with a bar; where no type does, each is listed once.
-/

namespace ContractDictionary

section

variable {α : Type} [BEq α] [LawfulBEq α]

theorem nodup_dropRepeatsAfter_iff {last : α} {items : List α} :
    (last :: dropRepeatsAfter (· == ·) last items).Nodup ↔
      ∀ a b, [a, b, a].Sublist (last :: items) → b = a := by
  induction items generalizing last with
  | nil =>
      refine iff_of_true (by simp [dropRepeatsAfter]) fun a b among => ?_
      have longer := among.length_le
      simp at longer
  | cons first rest ih =>
      unfold dropRepeatsAfter
      split
      · next same =>
          cases eq_of_beq same
          rw [ih]
          constructor
          · intro once a b among
            rcases List.sublist_cons_iff.1 among with among | ⟨tail, whole, among⟩
            · exact once a b among
            · cases whole
              rcases List.sublist_cons_iff.1 among with later | ⟨_, whole, -⟩
              · exact once first b (later.cons_cons first)
              · exact (List.cons.inj whole).1
          · intro once a b among
            exact once a b (among.cons first)
      · next apart =>
          have differs : last ≠ first := fun same => apart (beq_of_eq same)
          rw [List.nodup_cons, mem_dropRepeatsAfter, ih]
          constructor
          · rintro ⟨fresh, once⟩ a b among
            rcases List.sublist_cons_iff.1 among with among | ⟨tail, whole, among⟩
            · exact once a b among
            · cases whole
              exact absurd (among.mem (.tail _ (.head _))) fresh
          · intro once
            refine ⟨fun repeated => ?_, fun a b among => once a b (among.cons last)⟩
            rcases List.mem_cons.1 repeated with same | later
            · exact differs same
            · have between : [last, first, last].Sublist (last :: first :: rest) :=
                ((List.singleton_sublist.2 later).cons_cons first).cons_cons last
              exact differs (once last first between).symm

/-- The first elements of the runs differ if no other element stands between two equal ones. -/
theorem nodup_dropRepeats_iff {items : List α} :
    (dropRepeats (· == ·) items).Nodup ↔ ∀ a b, [a, b, a].Sublist items → b = a := by
  cases items with
  | nil => simp [dropRepeats]
  | cons first rest => exact nodup_dropRepeatsAfter_iff

end

/-- What lies between texts with a common front has the front as well. -/
theorem exists_append_of_between {front left right middle : List Char}
    (above : ¬middle < front ++ left) (below : ¬front ++ right < middle) :
    ∃ rest, middle = front ++ rest := by
  induction front generalizing middle with
  | nil => exact ⟨middle, rfl⟩
  | cons c front ih =>
      cases middle with
      | nil => exact absurd (List.nil_lt_cons c _) above
      | cons d middle =>
          rw [List.cons_append, List.cons_lt_cons_iff, not_or] at above below
          obtain rfl : c = d := Char.le_antisymm (Char.not_lt.1 above.1) (Char.not_lt.1 below.1)
          obtain ⟨rest, rfl⟩ := ih (fun less => above.2 ⟨rfl, less⟩) fun less => below.2 ⟨rfl, less⟩
          exact ⟨rest, rfl⟩

/-- A text between two texts with a common front goes on from the front to one between the rests. -/
theorem exists_text_of_between {front left right middle : String}
    (above : front ++ left ≤ middle) (below : middle ≤ front ++ right) :
    ∃ rest, middle = front ++ rest ∧ left ≤ rest ∧ rest ≤ right := by
  have above' := above
  have below' := below
  rw [← String.not_lt, String.lt_iff, String.toList_append] at above' below'
  obtain ⟨rest, whole⟩ := exists_append_of_between above' below'
  obtain rfl : middle = front ++ .ofList rest := by
    rw [← String.toList_inj, String.toList_append, String.toList_ofList, whole]
  exact ⟨_, rfl, (text_append_le_append_left_iff _ _ _).1 above,
    (text_append_le_append_left_iff _ _ _).1 below⟩

/-- The text begins with the other one and a bar behind it. -/
def ContinuesWithBar (text other : String) : Prop :=
  ∃ rest, text = other ++ "|" ++ rest

/-- A front that is longer than another one before a mark goes on with the mark. -/
theorem exists_append_of_longer {α : Type} {mark : α} {left left' added right right' : List α}
    (longer : left' = left ++ added) (divided : mark :: right = added ++ mark :: right')
    (apart : left ≠ left') : ∃ rest, left' = left ++ mark :: rest := by
  cases added with
  | nil => exact absurd (longer.trans (List.append_nil left)).symm apart
  | cons first added =>
      obtain ⟨rfl, -⟩ := List.cons.inj divided
      exact ⟨added, longer⟩

/-- Of a list that a mark divides at two places, the longer front goes on with the mark. -/
theorem exists_append_of_divided {α : Type} {mark : α} {left right left' right' : List α}
    (same : left ++ mark :: right = left' ++ mark :: right') (apart : left ≠ left') :
    (∃ rest, left = left' ++ mark :: rest) ∨ ∃ rest, left' = left ++ mark :: rest := by
  rcases List.append_eq_append_iff.1 same with ⟨added, longer, divided⟩ | ⟨added, longer, divided⟩
  · exact .inr (exists_append_of_longer longer divided apart)
  · exact .inl (exists_append_of_longer longer divided apart.symm)

theorem continuesWithBar_iff {text other : String} :
    ContinuesWithBar text other ↔ ∃ rest, text.toList = other.toList ++ '|' :: rest := by
  constructor
  · rintro ⟨rest, rfl⟩
    exact ⟨rest.toList, by simp⟩
  · rintro ⟨rest, whole⟩
    refine ⟨.ofList rest, ?_⟩
    rw [← String.toList_inj, whole]
    simp

instance (text other : String) : Decidable (ContinuesWithBar text other) :=
  decidable_of_iff ((other.toList ++ ['|']).isPrefixOf text.toList = true) <| by
    rw [continuesWithBar_iff, List.isPrefixOf_iff_prefix]
    simp only [List.IsPrefix, List.append_assoc, List.singleton_append, eq_comm]

/-- Of two texts with bars behind them that begin one text, the longer one continues the other. -/
theorem continuesWithBar_of_divided {left right left' right' : String}
    (same : left ++ "|" ++ right = left' ++ "|" ++ right') (apart : left ≠ left') :
    ContinuesWithBar left left' ∨ ContinuesWithBar left' left := by
  have whole := congrArg String.toList same
  simp only [String.toList_append, List.append_assoc] at whole
  rw [continuesWithBar_iff, continuesWithBar_iff]
  exact exists_append_of_divided whole (mt String.toList_inj.1 apart)

/--
A row of another type comes between two rows of one type: in the order of the sort keys, and of
the rows with one key in the order in which they are given.
-/
structure Interrupts (rows : List ApplicabilityRow) (first other last : ApplicabilityRow) :
    Prop where
  oneType : last.contractTypeId = first.contractTypeId
  otherType : other.contractTypeId ≠ first.contractTypeId
  behind : first.sortKey ≤ other.sortKey
  before : other.sortKey ≤ last.sortKey
  given : ∀ key, ([first, other, last].filter (·.sortKey = key)).Sublist rows

theorem sublist_ofRows_iff {rows part : List ApplicabilityRow} :
    part.Sublist (Applicability.ofRows rows).rows ↔
      (part.Pairwise fun a b => a.sortKey ≤ b.sortKey) ∧
        ∀ key, (part.filter (·.sortKey = key)).Sublist rows :=
  (isStablySorted_sortOn ApplicabilityRow.sortKey rows).sublist_iff

/-- Each type is listed once if no row interrupts those of another type. -/
theorem nodup_contractTypeIds_iff {rows : List ApplicabilityRow} :
    (Applicability.ofRows rows).contractTypeIds.Nodup ↔
      ∀ first other last, ¬Interrupts rows first other last := by
  rw [Applicability.contractTypeIds, nodup_dropRepeats_iff]
  constructor
  · rintro once first other last ⟨oneType, otherType, behind, before, given⟩
    have ordered : [first, other, last].Pairwise fun a b => a.sortKey ≤ b.sortKey := by
      have through := String.le_trans behind before
      simp [behind, before, through]
    have among := (sublist_ofRows_iff.2 ⟨ordered, given⟩).map ApplicabilityRow.contractTypeId
    simp only [List.map_cons, List.map_nil, oneType] at among
    exact otherType (once _ _ among)
  · intro apart a b among
    obtain ⟨part, among, whole⟩ := List.sublist_map_iff.1 among
    have rows_of_part := whole.symm
    simp only [List.map_eq_cons_iff, List.map_eq_nil_iff] at rows_of_part
    obtain ⟨first, _, rfl, rfl, other, _, rfl, rfl, last, _, rfl, same, rfl⟩ := rows_of_part
    obtain ⟨ordered, given⟩ := sublist_ofRows_iff.1 among
    simp only [List.pairwise_cons, List.mem_cons, List.not_mem_nil, or_false, forall_eq_or_imp,
      forall_eq] at ordered
    by_contra differs
    exact apart first other last ⟨same, differs, ordered.1.1, ordered.2.1, given⟩

/-- A row that interrupts those of a type has a sort key that begins with the type and a bar. -/
theorem Interrupts.exists_sortKey {rows : List ApplicabilityRow}
    {first other last : ApplicabilityRow} (interrupts : Interrupts rows first other last) :
    ∃ text, other.sortKey = first.contractTypeId ++ "|" ++ text ∧
      first.termId ≤ text ∧ text ≤ last.termId := by
  have before := interrupts.before
  rw [ApplicabilityRow.sortKey.eq_def last, interrupts.oneType] at before
  exact exists_text_of_between interrupts.behind before

/-- The types of rows that interrupt each other continue one another with a bar. -/
theorem Interrupts.continuesWithBar {rows : List ApplicabilityRow}
    {first other last : ApplicabilityRow} (interrupts : Interrupts rows first other last) :
    ContinuesWithBar other.contractTypeId first.contractTypeId ∨
      ContinuesWithBar first.contractTypeId other.contractTypeId := by
  obtain ⟨text, divided, -⟩ := interrupts.exists_sortKey
  exact continuesWithBar_of_divided divided interrupts.otherType

/-- Rows that interrupt each other are given. -/
theorem Interrupts.mem {rows : List ApplicabilityRow} {first other last : ApplicabilityRow}
    (interrupts : Interrupts rows first other last) : first ∈ rows ∧ other ∈ rows := by
  have among {row : ApplicabilityRow} (listed : row ∈ [first, other, last]) : row ∈ rows :=
    (interrupts.given row.sortKey).mem (List.mem_filter.2 ⟨listed, by simp⟩)
  exact ⟨among (.head _), among (.tail _ (.head _))⟩

/--
The types that rows name are listed, and no other.  Each is listed once exactly if no row of
another type comes between two of its rows.  The sort key of such a row is the type, a bar and a
text between the terms of the two rows, so there is none if no type continues another with a bar.
-/
theorem contractTypeIds_of_rows (rows : List ApplicabilityRow) :
    (∀ identifier, identifier ∈ (Applicability.ofRows rows).contractTypeIds ↔
      ∃ row ∈ rows, row.contractTypeId = identifier) ∧
    ((Applicability.ofRows rows).contractTypeIds.Nodup ↔
      ∀ first other last, ¬Interrupts rows first other last) ∧
    (∀ first other last, Interrupts rows first other last →
      ∃ text, other.sortKey = first.contractTypeId ++ "|" ++ text ∧
        first.termId ≤ text ∧ text ≤ last.termId) ∧
    ((∀ row ∈ rows, ∀ other ∈ rows,
        ¬ContinuesWithBar row.contractTypeId other.contractTypeId) →
      (Applicability.ofRows rows).contractTypeIds.Nodup) := by
  refine ⟨fun identifier => ?_, nodup_contractTypeIds_iff,
    fun first other last interrupts => interrupts.exists_sortKey, fun apart => ?_⟩
  · rw [mem_contractTypeIds, Applicability.ofRows]
    simp only [mem_sortOn]
  · rw [nodup_contractTypeIds_iff]
    intro first other last interrupts
    obtain ⟨firstGiven, otherGiven⟩ := interrupts.mem
    rcases interrupts.continuesWithBar with continues | continues
    · exact apart other otherGiven first firstGiven continues
    · exact apart first firstGiven other otherGiven continues

/-- Rows of types that begin with each other, not sorted. -/
def bundledRows : List ApplicabilityRow :=
  [⟨"PAM", "statusDate", "x"⟩, ⟨"PAMX", "aaa", "x"⟩, ⟨"ANN", "contractRole", "x"⟩,
    ⟨"PAM\x7d", "|", "x"⟩, ⟨"PAM", "contractRole", "x"⟩]

theorem contractTypeIds_of_bundledRows :
    (∀ row ∈ bundledRows, ∀ other ∈ bundledRows,
      ¬ContinuesWithBar row.contractTypeId other.contractTypeId) ∧
    (Applicability.ofRows bundledRows).contractTypeIds.Nodup ∧
    ∀ first other last, ¬Interrupts bundledRows first other last := by
  obtain ⟨-, once, -, sufficient⟩ := contractTypeIds_of_rows bundledRows
  have apart : ∀ row ∈ bundledRows, ∀ other ∈ bundledRows,
      ¬ContinuesWithBar row.contractTypeId other.contractTypeId := by decide
  exact ⟨apart, sufficient apart, once.1 (sufficient apart)⟩

/-- A row whose type continues that of the rows before and behind it. -/
def interruptedRows : List ApplicabilityRow :=
  [⟨"A", "A", "x"⟩, ⟨"A", "C", "x"⟩, ⟨"A|B", "x", "x"⟩]

/-- A contract type may be listed twice. -/
theorem lists_type_twice :
    (Applicability.ofRows interruptedRows).contractTypeIds = ["A", "A|B", "A"] ∧
      ¬(Applicability.ofRows interruptedRows).contractTypeIds.Nodup := by
  decide +kernel

end ContractDictionary
