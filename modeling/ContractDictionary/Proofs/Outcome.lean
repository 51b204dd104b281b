import Mathlib.Data.List.Forall2

/-!
# Outcomes of steps that may fail

A sequence of steps succeeds if every step does, and its fault is that of the first step that
has one.  Every law about a compilation or a generated file that succeeds, or about the fault
of one that does not, is read off the lemmas here.  Steps on a state keep what each of them keeps.
-/

namespace ContractDictionary

variable {ε α β γ : Type}

theorem bind_eq_ok {step : Except ε α} {next : α → Except ε β} {result : β} :
    (step >>= next) = .ok result ↔ ∃ value, step = .ok value ∧ next value = .ok result := by
  cases step <;> simp [bind, Except.bind]

theorem pure_eq_ok {value result : α} :
    (pure value : Except ε α) = .ok result ↔ result = value := by
  simp [pure, Except.pure, eq_comm]

theorem map_eq_ok {change : α → β} {step : Except ε α} {result : β} :
    step.map change = .ok result ↔ ∃ value, step = .ok value ∧ change value = result := by
  cases step <;> simp [Except.map]

theorem mapError_eq_ok {change : ε → γ} {step : Except ε α} {result : α} :
    step.mapError change = .ok result ↔ step = .ok result := by
  cases step <;> simp [Except.mapError]

theorem map_eq_error {change : α → β} {step : Except ε α} {fault : ε} :
    step.map change = .error fault ↔ step = .error fault := by
  cases step <;> simp [Except.map]

theorem mapError_eq_error {change : ε → γ} {step : Except ε α} {fault : γ} :
    step.mapError change = .error fault ↔ ∃ own, step = .error own ∧ change own = fault := by
  cases step <;> simp [Except.mapError]

/-- A sequence of two steps fails with the fault of the first one that has any. -/
theorem bind_eq_error {step : Except ε α} {next : α → Except ε β} {fault : ε} :
    (step >>= next) = .error fault ↔
      step = .error fault ∨ ∃ value, step = .ok value ∧ next value = .error fault := by
  cases step <;> simp [bind, Except.bind]

theorem bind_pure_eq_error {step : Except ε α} {change : α → β} {fault : ε} :
    (step >>= fun value => pure (change value)) = .error fault ↔ step = .error fault := by
  cases step <;> simp [bind, Except.bind, pure, Except.pure]

theorem toOption_eq_some {step : Except ε α} {result : α} :
    step.toOption = some result ↔ step = .ok result := by
  cases step <;> simp [Except.toOption]

theorem exists_pure (value : α) : ∃ result, (pure value : Except ε α) = .ok result :=
  ⟨value, rfl⟩

/-- Two steps succeed together if the first gives a value for which the second succeeds. -/
theorem exists_bind_iff {step : Except ε α} {next : α → Except ε β} :
    (∃ result, (step >>= next) = .ok result) ↔
      ∃ value, step = .ok value ∧ ∃ result, next value = .ok result := by
  simp only [bind_eq_ok]
  constructor
  · rintro ⟨result, value, hvalue, hresult⟩
    exact ⟨value, hvalue, result, hresult⟩
  · rintro ⟨value, hvalue, result, hresult⟩
    exact ⟨result, value, hvalue, hresult⟩

theorem exists_map_iff {change : α → β} {step : Except ε α} :
    (∃ result, step.map change = .ok result) ↔ ∃ value, step = .ok value := by
  cases step <;> simp [Except.map]

/-- A recursion on a list that takes a step for each item succeeds if every step does. -/
theorem recursion_eq_ok (run : List α → Except ε (List β)) {step : α → β → Prop}
    (nil : run [] = .ok [])
    (cons : ∀ item rest results, run (item :: rest) = .ok results ↔
      ∃ first, step item first ∧ ∃ others, run rest = .ok others ∧ results = first :: others)
    {items : List α} {results : List β} :
    run items = .ok results ↔ List.Forall₂ step items results := by
  induction items generalizing results with
  | nil =>
      rw [nil]
      constructor
      · rintro ⟨⟩
        exact .nil
      · rintro ⟨⟩
        rfl
  | cons item rest ih =>
      rw [cons]
      constructor
      · rintro ⟨first, hfirst, others, hothers, rfl⟩
        exact .cons hfirst (ih.1 hothers)
      · rintro (_ | ⟨hfirst, hothers⟩)
        exact ⟨_, hfirst, _, ih.2 hothers, rfl⟩

/-- A step is taken for every item of a list if it succeeds for each of them. -/
theorem mapM_eq_ok {step : α → Except ε β} {items : List α} {results : List β} :
    items.mapM step = .ok results ↔
      List.Forall₂ (fun item result => step item = .ok result) items results := by
  refine recursion_eq_ok (List.mapM step) rfl fun item rest results => ?_
  rw [List.mapM_cons]
  simp only [bind_eq_ok, pure_eq_ok]

theorem exists_mapM_eq_ok {step : α → Except ε β} {items : List α}
    (succeed : ∀ item ∈ items, ∃ result, step item = .ok result) :
    ∃ results, items.mapM step = .ok results := by
  induction items with
  | nil => exact ⟨[], rfl⟩
  | cons item rest ih =>
      obtain ⟨first, hfirst⟩ := succeed item List.mem_cons_self
      obtain ⟨others, hothers⟩ := ih fun other later => succeed other (List.mem_cons_of_mem _ later)
      exact ⟨first :: others, mapM_eq_ok.2 (.cons hfirst (mapM_eq_ok.1 hothers))⟩

/-- The result of a step for an item of a list is among the results for the list. -/
theorem exists_of_mapM_eq_ok {step : α → Except ε β} {items : List α} {results : List β}
    (succeeded : items.mapM step = .ok results) {result : β} (found : result ∈ results) :
    ∃ item ∈ items, step item = .ok result := by
  induction mapM_eq_ok.1 succeeded with
  | nil => cases found
  | cons hfirst hrest ih =>
      rcases List.mem_cons.1 found with rfl | found
      · exact ⟨_, List.mem_cons_self, hfirst⟩
      · obtain ⟨item, member, hitem⟩ := ih (mapM_eq_ok.2 hrest) found
        exact ⟨item, List.mem_cons_of_mem _ member, hitem⟩

/-- Every item of a list has its result among the results for the list. -/
theorem exists_result_of_mapM_eq_ok {step : α → Except ε β} {items : List α} {results : List β}
    (succeeded : items.mapM step = .ok results) {item : α} (member : item ∈ items) :
    ∃ result ∈ results, step item = .ok result := by
  induction mapM_eq_ok.1 succeeded with
  | nil => cases member
  | cons hfirst hrest ih =>
      rcases List.mem_cons.1 member with rfl | member
      · exact ⟨_, List.mem_cons_self, hfirst⟩
      · obtain ⟨result, found, hresult⟩ := ih (mapM_eq_ok.2 hrest) member
        exact ⟨result, List.mem_cons_of_mem _ found, hresult⟩

/-- A step succeeds for all items of a list together if it does for each of them. -/
theorem exists_mapM_iff {step : α → Except ε β} {items : List α} :
    (∃ results, items.mapM step = .ok results) ↔
      ∀ item ∈ items, ∃ result, step item = .ok result := by
  refine ⟨?_, exists_mapM_eq_ok⟩
  rintro ⟨results, succeeded⟩ item member
  obtain ⟨result, -, hresult⟩ := exists_result_of_mapM_eq_ok succeeded member
  exact ⟨result, hresult⟩

/-- What the results are like, if every step carries it over from its item. -/
theorem map_eq_of_mapM_eq_ok {step : α → Except ε β} {items : List α} {results : List β}
    (succeeded : items.mapM step = .ok results) (before : α → γ) (after : β → γ)
    (carried : ∀ item ∈ items, ∀ result, step item = .ok result → after result = before item) :
    results.map after = items.map before := by
  induction mapM_eq_ok.1 succeeded with
  | nil => rfl
  | cons hfirst hrest ih =>
      rw [List.map_cons, List.map_cons, carried _ List.mem_cons_self _ hfirst,
        ih (mapM_eq_ok.2 hrest) fun item member =>
          carried item (List.mem_cons_of_mem _ member)]

/-- A check that holds of what a step gives shows that the step succeeds. -/
theorem exists_ok_of_any {step : Except ε α} {check : α → Bool}
    (held : step.toOption.any check = true) : ∃ value, step = .ok value ∧ check value = true := by
  cases step with
  | ok value => exact ⟨value, rfl, held⟩
  | error fault => cases held

def faultOf : Except ε α → Option ε
  | .ok _ => none
  | .error fault => some fault

theorem faultOf_eq_none {step : Except ε α} :
    faultOf step = none ↔ ∃ value, step = .ok value := by
  cases step <;> simp [faultOf]

theorem faultOf_eq_some {step : Except ε α} {fault : ε} :
    faultOf step = some fault ↔ step = .error fault := by
  cases step <;> simp [faultOf]

@[simp]
theorem faultOf_map (change : α → β) (step : Except ε α) :
    faultOf (step.map change) = faultOf step := by
  cases step <;> rfl

/-- A sequence of two steps has the fault of the first one that has any. -/
theorem faultOf_bind (step : Except ε α) (next : α → Except ε β) :
    faultOf (step >>= next) =
      match step with
      | .ok value => faultOf (next value)
      | .error fault => some fault := by
  cases step <;> rfl

/-- The fault of a step for every item of a list is that of the first item that has one. -/
theorem faultOf_mapM {step : α → Except ε β} {items : List α} {fault? : α → Option ε}
    (faults : ∀ item ∈ items, faultOf (step item) = fault? item) :
    faultOf (items.mapM step) = items.findSome? fault? := by
  induction items with
  | nil => rfl
  | cons item rest ih =>
      have first := faults item List.mem_cons_self
      have others := ih fun other later => faults other (List.mem_cons_of_mem _ later)
      rw [List.mapM_cons, List.findSome?_cons, faultOf_bind, ← first]
      cases step item with
      | error fault => rfl
      | ok result =>
          rw [← others]
          cases rest.mapM step <;> rfl

/-- Steps for the items of a list fail with the fault of one of them. -/
theorem exists_of_mapM_eq_error {step : α → Except ε β} {items : List α} {fault : ε}
    (failed : items.mapM step = .error fault) : ∃ item ∈ items, step item = .error fault := by
  have first := faultOf_mapM fun item (_ : item ∈ items) => (rfl : faultOf (step item) = _)
  rw [failed] at first
  obtain ⟨item, listed, own⟩ := List.exists_of_findSome?_eq_some first.symm
  exact ⟨item, listed, faultOf_eq_some.1 own⟩

section

variable {σ : Type} {Holds : σ → Prop} {Fault : ε → Prop} {Middle : α → Prop} {Result : β → Prop}

/--
Wherever something holds, it still does after the step, which ends with a result or an error of the
given kinds.
-/
def Keeps (Holds : σ → Prop) (Fault : ε → Prop) (Result : α → Prop)
    (step : ExceptT ε (StateM σ) α) : Prop :=
  ∀ state, Holds state → Holds (step.run.run state).2 ∧
    (∀ value, (step.run.run state).1 = .ok value → Result value) ∧
    ∀ fault, (step.run.run state).1 = .error fault → Fault fault

namespace Keeps

theorem pure {value : β} (result : Result value) :
    Keeps Holds Fault Result (pure value : ExceptT ε (StateM σ) β) := by
  intro state holds
  refine ⟨holds, fun own same => ?_, fun fault same => ?_⟩
  · cases same
    exact result
  · cases same

theorem throw {fault : ε} (kind : Fault fault) :
    Keeps Holds Fault Result (throw fault : ExceptT ε (StateM σ) β) := by
  intro state holds
  refine ⟨holds, fun own same => ?_, fun fault same => ?_⟩
  · cases same
  · cases same
    exact kind

theorem lift {step : StateM σ β}
    (keeps : ∀ state, Holds state → Holds (step.run state).2 ∧ Result (step.run state).1) :
    Keeps Holds Fault Result (liftM step : ExceptT ε (StateM σ) β) := by
  intro state holds
  refine ⟨(keeps state holds).1, fun own same => ?_, fun fault same => ?_⟩
  · cases same
    exact (keeps state holds).2
  · cases same

theorem bind {step : ExceptT ε (StateM σ) α} {next : α → ExceptT ε (StateM σ) β}
    (first : Keeps Holds Fault Middle step)
    (rest : ∀ value, Middle value → Keeps Holds Fault Result (next value)) :
    Keeps Holds Fault Result (step >>= next) := by
  intro state holds
  obtain ⟨kept, results, faults⟩ := first state holds
  rw [ExceptT.run_bind, StateT.run_bind]
  generalize step.run.run state = ended at kept results faults
  obtain ⟨outcome, after⟩ := ended
  cases outcome with
  | ok value => exact rest value (results value rfl) after kept
  | error fault => exact ⟨kept, nofun, fun _ same => Except.error.inj same ▸ faults fault rfl⟩

theorem mapM {step : γ → ExceptT ε (StateM σ) α} {items : List γ}
    (each : ∀ item ∈ items, Keeps Holds Fault Middle (step item)) :
    Keeps Holds Fault (fun values => ∀ value ∈ values, Middle value) (items.mapM step) := by
  induction items with
  | nil => exact .pure (List.forall_mem_nil _)
  | cons item rest ih =>
      rw [List.mapM_cons]
      refine (each item List.mem_cons_self).bind fun value first => ?_
      refine (ih fun other later => each other (List.mem_cons_of_mem _ later)).bind
        fun values others => ?_
      exact .pure (List.forall_mem_cons.2 ⟨first, others⟩)

end Keeps

end

end ContractDictionary
