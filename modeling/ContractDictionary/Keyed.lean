/-!
# Sections keyed by text

A section of a document holds one entry for each key, and the entries stand in key order.
-/

namespace ContractDictionary

variable {α β : Type}

/-- Put an entry into entries in key order, in the place of one with its key. -/
def insertEntry (key : String) (value : α) : List (String × α) → List (String × α)
  | [] => [(key, value)]
  | entry :: rest =>
      if key < entry.1 then (key, value) :: entry :: rest
      else if key = entry.1 then (key, value) :: rest
      else entry :: insertEntry key value rest

theorem mem_insertEntry {key : String} {value : α} {entries : List (String × α)}
    {entry : String × α} (h : entry ∈ insertEntry key value entries) :
    entry = (key, value) ∨ entry ∈ entries := by
  induction entries with
  | nil => simpa [insertEntry] using h
  | cons first rest ih =>
      unfold insertEntry at h
      split at h
      · simpa using h
      · split at h
        · rcases List.mem_cons.1 h with h | h
          · exact .inl h
          · exact .inr (List.mem_cons_of_mem _ h)
        · rcases List.mem_cons.1 h with h | h
          · exact .inr (h ▸ List.mem_cons_self)
          · exact (ih h).imp id (List.mem_cons_of_mem _)

theorem pairwise_insertEntry (key : String) (value : α) {entries : List (String × α)}
    (ordered : entries.Pairwise (fun a b => a.1 < b.1)) :
    (insertEntry key value entries).Pairwise (fun a b => a.1 < b.1) := by
  induction entries with
  | nil => simp [insertEntry]
  | cons first rest ih =>
      have head := List.pairwise_cons.1 ordered
      unfold insertEntry
      split
      · next h =>
          refine List.pairwise_cons.2 ⟨fun b hb => ?_, ordered⟩
          rcases List.mem_cons.1 hb with rfl | hb
          · exact h
          · exact String.lt_trans h (head.1 b hb)
      · split
        · next h =>
            refine List.pairwise_cons.2 ⟨fun b hb => ?_, head.2⟩
            rw [h]
            exact head.1 b hb
        · next hlt hne =>
            refine List.pairwise_cons.2 ⟨fun b hb => ?_, ih head.2⟩
            rcases mem_insertEntry hb with rfl | hb
            · have := String.not_lt.1 hlt
              grind
            · exact head.1 b hb

structure Keyed (α : Type) where
  entries : List (String × α)
  ordered : entries.Pairwise (fun a b => a.1 < b.1) := by simp

namespace Keyed

def empty : Keyed α :=
  ⟨[], .nil⟩

/-- The section with the entry put in the place of one with its key, if any. -/
def insert (keyed : Keyed α) (key : String) (value : α) : Keyed α :=
  ⟨insertEntry key value keyed.entries, pairwise_insertEntry key value keyed.ordered⟩

/-- The section of the given entries, the last one of a key being the one that counts. -/
def ofList (entries : List (String × α)) : Keyed α :=
  entries.foldl (fun keyed entry => keyed.insert entry.1 entry.2) empty

def get? (keyed : Keyed α) (key : String) : Option α :=
  keyed.entries.lookup key

def values (keyed : Keyed α) : List α :=
  keyed.entries.map Prod.snd

/-- The section with each value changed under its key. -/
def map (change : String → α → β) (keyed : Keyed α) : Keyed β :=
  ⟨keyed.entries.map fun entry => (entry.1, change entry.1 entry.2),
    by simpa [List.pairwise_map] using keyed.ordered⟩

def modify (keyed : Keyed α) (key : String) (change : α → α) : Keyed α :=
  keyed.map fun other value => if other = key then change value else value

theorem mem_values {keyed : Keyed α} {value : α} :
    value ∈ keyed.values ↔ ∃ entry ∈ keyed.entries, entry.2 = value :=
  List.mem_map

theorem values_map (keyed : Keyed α) (change : String → α → β) :
    (keyed.map change).values = keyed.entries.map fun entry => change entry.1 entry.2 := by
  unfold values map
  rw [List.map_map]
  rfl

theorem get?_map (keyed : Keyed α) (change : String → α → β) (key : String) :
    (keyed.map change).get? key = (keyed.get? key).map (change key) := by
  obtain ⟨entries, ordered⟩ := keyed
  show List.lookup key (entries.map fun entry => (entry.1, change entry.1 entry.2)) =
    (entries.lookup key).map (change key)
  clear ordered
  induction entries with
  | nil => rfl
  | cons entry rest ih =>
      rw [List.map_cons, List.lookup_cons, List.lookup_cons, ih]
      by_cases same : key = entry.1
      · subst same
        rw [beq_self_eq_true]
        rfl
      · rw [beq_false_of_ne same]

end Keyed

end ContractDictionary
