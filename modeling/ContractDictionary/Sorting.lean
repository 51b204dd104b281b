/-!
# Stable sorting and repeated neighbours

Insertion from the right keeps equal elements in their order.  Main statements: a sorted list
is a permutation of its input, is in order for a total and transitive comparison, and sorting
changes nothing that is already in order.
-/

namespace ContractDictionary

variable {α : Type}

/-- Put an element before the first one that it may precede. -/
def insertBy (le : α → α → Bool) (x : α) : List α → List α
  | [] => [x]
  | y :: ys => if le x y then x :: y :: ys else y :: insertBy le x ys

def sortBy (le : α → α → Bool) (xs : List α) : List α :=
  xs.foldr (insertBy le) []

/-- The elements in the order of their keys, those with equal keys as they were. -/
def sortOn (key : α → String) (xs : List α) : List α :=
  sortBy (fun x y => decide (key x ≤ key y)) xs

/-- The texts come not after others, compared one by one from the first on. -/
def inTextOrder : List String → List String → Bool
  | [], _ => true
  | _ :: _, [] => false
  | x :: xs, y :: ys => if x = y then inTextOrder xs ys else decide (x ≤ y)

theorem inTextOrder_total (xs ys : List String) : inTextOrder xs ys || inTextOrder ys xs := by
  induction xs generalizing ys with
  | nil => simp [inTextOrder]
  | cons x xs ih =>
      cases ys with
      | nil => rfl
      | cons y ys =>
          by_cases same : x = y
          · simp [inTextOrder, same, ih ys]
          · simp [inTextOrder, same, Ne.symm same, String.le_total x y]

theorem inTextOrder_trans {xs ys zs : List String} (first : inTextOrder xs ys = true)
    (second : inTextOrder ys zs = true) : inTextOrder xs zs = true := by
  induction xs generalizing ys zs with
  | nil => rfl
  | cons x xs ih =>
      cases ys with
      | nil => cases first
      | cons y ys =>
          cases zs with
          | nil => cases second
          | cons z zs =>
              unfold inTextOrder at first second ⊢
              split at first
              · next same =>
                  subst same
                  split at second
                  · next same =>
                      subst same
                      rw [if_pos rfl]
                      exact ih first second
                  · next other =>
                      rw [if_neg other]
                      exact second
              · next other =>
                  rw [decide_eq_true_eq] at first
                  split at second
                  · next same =>
                      subst same
                      rw [if_neg other, decide_eq_true_eq]
                      exact first
                  · next apart =>
                      rw [decide_eq_true_eq] at second
                      have differ : x ≠ z := by
                        rintro rfl
                        exact other (String.le_antisymm first second)
                      rw [if_neg differ, decide_eq_true_eq]
                      exact String.le_trans first second

theorem inTextOrder_antisymm {xs ys : List String} (first : inTextOrder xs ys = true)
    (second : inTextOrder ys xs = true) : xs = ys := by
  induction xs generalizing ys with
  | nil =>
      cases ys with
      | nil => rfl
      | cons y ys => cases second
  | cons x xs ih =>
      cases ys with
      | nil => cases first
      | cons y ys =>
          unfold inTextOrder at first second
          by_cases same : x = y
          · subst same
            rw [if_pos rfl] at first second
            rw [ih first second]
          · rw [if_neg same, decide_eq_true_eq] at first
            rw [if_neg (Ne.symm same), decide_eq_true_eq] at second
            exact absurd (String.le_antisymm first second) same

/-- Texts stand strictly before others if the first ones that differ do. -/
theorem inTextOrder_cons_and_ne {x y : String} {xs ys : List String} :
    inTextOrder (x :: xs) (y :: ys) = true ∧ x :: xs ≠ y :: ys ↔
      x < y ∨ x = y ∧ (inTextOrder xs ys = true ∧ xs ≠ ys) := by
  rw [inTextOrder]
  by_cases same : x = y
  · subst same
    simp only [String.lt_irrefl, if_true, ne_eq, List.cons.injEq, true_and, false_or]
  · have strict : x ≤ y ↔ x < y :=
      ⟨fun le => Std.lt_of_le_of_ne le same, Std.le_of_lt⟩
    simp [same, strict]

theorem insertBy_perm (le : α → α → Bool) (x : α) (xs : List α) :
    (insertBy le x xs).Perm (x :: xs) := by
  induction xs with
  | nil => exact .refl _
  | cons y ys ih =>
      unfold insertBy
      split
      · exact .refl _
      · exact (ih.cons y).trans (.swap x y ys)

theorem sortBy_perm (le : α → α → Bool) (xs : List α) : (sortBy le xs).Perm xs := by
  induction xs with
  | nil => exact .refl _
  | cons x xs ih => exact (insertBy_perm le x _).trans (ih.cons x)

theorem pairwise_insertBy {le : α → α → Bool} (total : ∀ a b, le a b || le b a)
    (trans : ∀ a b c, le a b → le b c → le a c) (x : α) {xs : List α}
    (ordered : xs.Pairwise (fun a b => le a b)) :
    (insertBy le x xs).Pairwise (fun a b => le a b) := by
  induction xs with
  | nil => simp [insertBy]
  | cons y ys ih =>
      have head := List.pairwise_cons.1 ordered
      unfold insertBy
      split
      · next h =>
          refine List.pairwise_cons.2 ⟨fun z hz => ?_, ordered⟩
          rcases List.mem_cons.1 hz with rfl | hz
          · exact h
          · exact trans _ _ _ h (head.1 z hz)
      · next h =>
          refine List.pairwise_cons.2 ⟨fun z hz => ?_, ih head.2⟩
          rcases List.mem_cons.1 ((insertBy_perm le x ys).mem_iff.1 hz) with rfl | hz
          · have := total y z
            simp_all
          · exact head.1 z hz

theorem pairwise_sortBy {le : α → α → Bool} (total : ∀ a b, le a b || le b a)
    (trans : ∀ a b c, le a b → le b c → le a c) (xs : List α) :
    (sortBy le xs).Pairwise (fun a b => le a b) := by
  induction xs with
  | nil => exact .nil
  | cons x xs ih => exact pairwise_insertBy total trans x ih

theorem sortBy_of_pairwise {le : α → α → Bool} {xs : List α}
    (ordered : xs.Pairwise (fun a b => le a b)) : sortBy le xs = xs := by
  induction xs with
  | nil => rfl
  | cons x xs ih =>
      have head := List.pairwise_cons.1 ordered
      show insertBy le x (sortBy le xs) = x :: xs
      rw [ih head.2]
      cases xs with
      | nil => rfl
      | cons y ys => simp [insertBy, head.1 y List.mem_cons_self]

/-- The keys of sorted elements do not decrease. -/
theorem pairwise_sortOn (key : α → String) (xs : List α) :
    (sortOn key xs).Pairwise (fun a b => key a ≤ key b) := by
  let le : α → α → Bool := fun x y => decide (key x ≤ key y)
  have total : ∀ a b, le a b || le b a := by
    intro a b
    simpa [le] using String.le_total (key a) (key b)
  have trans : ∀ a b c, le a b → le b c → le a c := by
    intro a b c h h'
    simp only [le, decide_eq_true_eq] at *
    exact String.le_trans h h'
  have := pairwise_sortBy total trans xs
  simpa [sortOn, le] using this

theorem sortOn_perm (key : α → String) (xs : List α) : (sortOn key xs).Perm xs :=
  sortBy_perm _ xs

/-- Sorting changes nothing where the keys do not decrease. -/
theorem sortOn_of_pairwise {key : α → String} {xs : List α}
    (ordered : xs.Pairwise (fun a b => key a ≤ key b)) : sortOn key xs = xs :=
  sortBy_of_pairwise (ordered.imp fun h => by simpa using h)

theorem mem_sortOn {key : α → String} {xs : List α} {x : α} : x ∈ sortOn key xs ↔ x ∈ xs :=
  (sortOn_perm key xs).mem_iff

/-- The elements that differ from the element kept last. -/
def dropRepeatsAfter (same : α → α → Bool) (last : α) : List α → List α
  | [] => []
  | x :: xs =>
      if same last x then dropRepeatsAfter same last xs else x :: dropRepeatsAfter same x xs

/-- The first element of each run of equal neighbours. -/
def dropRepeats (same : α → α → Bool) : List α → List α
  | [] => []
  | x :: xs => x :: dropRepeatsAfter same x xs

theorem sublist_dropRepeatsAfter (same : α → α → Bool) (last : α) (xs : List α) :
    (dropRepeatsAfter same last xs).Sublist xs := by
  induction xs generalizing last with
  | nil => exact .slnil
  | cons x xs ih =>
      unfold dropRepeatsAfter
      split
      · exact (ih last).cons x
      · exact (ih x).cons_cons x

/-- Of elements in order, those that are kept differ from each other and from the last one. -/
theorem pairwise_dropRepeatsAfter {key : α → List String} {last : α} {xs : List α}
    (ordered : (last :: xs).Pairwise (fun a b => inTextOrder (key a) (key b))) :
    (last :: dropRepeatsAfter (fun a b => key a == key b) last xs).Pairwise
      (fun a b => key a ≠ key b) := by
  induction xs generalizing last with
  | nil => exact List.pairwise_singleton _ _
  | cons x xs ih =>
      have head := List.pairwise_cons.1 ordered
      have tail := List.pairwise_cons.1 head.2
      unfold dropRepeatsAfter
      split
      · exact ih (List.pairwise_cons.2
          ⟨fun y member => head.1 y (List.mem_cons_of_mem _ member), tail.2⟩)
      · next other =>
          refine List.pairwise_cons.2 ⟨fun y member => ?_, ih head.2⟩
          have first := head.1 x List.mem_cons_self
          rw [beq_iff_eq] at other
          rcases List.mem_cons.1 member with rfl | member
          · exact other
          · intro same
            have later := tail.1 y ((sublist_dropRepeatsAfter _ x xs).subset member)
            rw [← same] at later
            exact other (inTextOrder_antisymm first later)

theorem pairwise_dropRepeats {key : α → List String} {xs : List α}
    (ordered : xs.Pairwise (fun a b => inTextOrder (key a) (key b))) :
    (dropRepeats (fun a b => key a == key b) xs).Pairwise (fun a b => key a ≠ key b) := by
  cases xs with
  | nil => exact .nil
  | cons x xs => exact pairwise_dropRepeatsAfter ordered

theorem sublist_dropRepeats (same : α → α → Bool) (xs : List α) :
    (dropRepeats same xs).Sublist xs := by
  cases xs with
  | nil => exact .slnil
  | cons x xs => exact (sublist_dropRepeatsAfter same x xs).cons_cons x

theorem mem_dropRepeatsAfter [BEq α] [LawfulBEq α] {x last : α} {xs : List α} :
    x ∈ last :: dropRepeatsAfter (· == ·) last xs ↔ x ∈ last :: xs := by
  induction xs generalizing last with
  | nil => rfl
  | cons y ys ih =>
      unfold dropRepeatsAfter
      split
      · next same =>
          have equal : last = y := eq_of_beq same
          rw [ih, equal, List.mem_cons, List.mem_cons, List.mem_cons, or_self_left]
      · rw [List.mem_cons, ih, ← List.mem_cons]

theorem mem_dropRepeats [BEq α] [LawfulBEq α] {x : α} {xs : List α} :
    x ∈ dropRepeats (· == ·) xs ↔ x ∈ xs := by
  cases xs with
  | nil => rfl
  | cons y ys => exact mem_dropRepeatsAfter

end ContractDictionary
