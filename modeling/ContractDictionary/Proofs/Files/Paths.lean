import ContractDictionary.Files.Tree
import Mathlib.Data.List.DropRight

/-!
# Paths below a directory

A path that is joined from names has these names as its parts, so two such paths lead to one place
only if they are joined from the same names.

A relative path without a step upwards leads from every directory to a place below it.  Joined
paths have this property exactly if all of their pieces do: an absolute piece takes the place of
those before it, and a step upwards in one piece undoes a step of another.
-/

namespace ContractDictionary.Path

/-- The text is one part of a path: it is not empty, no point, and holds no slash. -/
structure IsName (text : String) : Prop where
  notEmpty : text ≠ ""
  notPoint : text ≠ "."
  noSlash : '/' ∉ text.toList

instance (text : String) : Decidable (IsName text) :=
  decidable_of_iff (text ≠ "" ∧ text ≠ "." ∧ '/' ∉ text.toList)
    ⟨fun h => ⟨h.1, h.2.1, h.2.2⟩, fun h => ⟨h.notEmpty, h.notPoint, h.noSlash⟩⟩

theorem rawParts_ne_nil (cs : List Char) : rawParts cs ≠ [] := by
  induction cs with
  | nil => exact List.cons_ne_nil _ _
  | cons c rest ih =>
      unfold rawParts
      split <;> exact List.cons_ne_nil _ _

theorem rawParts_slash (rest : List Char) : rawParts ('/' :: rest) = [] :: rawParts rest := by
  rw [rawParts]

theorem rawParts_cons {c : Char} (other : c ≠ '/') {rest part : List Char}
    {parts : List (List Char)} (behind : rawParts rest = part :: parts) :
    rawParts (c :: rest) = (c :: part) :: parts := by
  rw [rawParts]
  · exact other
  · exact behind

/-- A slash separates the parts before it from those behind it. -/
theorem rawParts_append_slash (front rest : List Char) :
    rawParts (front ++ '/' :: rest) = rawParts front ++ rawParts rest := by
  induction front with
  | nil => exact rawParts_slash rest
  | cons c front ih =>
      cases found : rawParts front with
      | nil => exact absurd found (rawParts_ne_nil front)
      | cons part parts =>
          rw [found] at ih
          by_cases slash : c = '/'
          · subst slash
            rw [List.cons_append, rawParts_slash, rawParts_slash, ih, found]
            rfl
          · rw [List.cons_append, rawParts_cons slash ih, rawParts_cons slash found]
            rfl

theorem rawParts_of_noSlash {cs : List Char} (noSlash : '/' ∉ cs) : rawParts cs = [cs] := by
  induction cs with
  | nil => rfl
  | cons c rest ih =>
      rw [List.mem_cons, not_or] at noSlash
      exact rawParts_cons (Ne.symm noSlash.1) (ih noSlash.2)

theorem isAbsolute_iff {path : String} :
    isAbsolute path = true ↔ ∃ part rest, rawParts path.toList = [] :: part :: rest := by
  constructor
  · intro absolute
    obtain ⟨rest, chars⟩ := List.head?_eq_some_iff.1 (of_decide_eq_true absolute)
    obtain ⟨part, others, raw⟩ := List.exists_cons_of_ne_nil (rawParts_ne_nil rest)
    exact ⟨part, others, by rw [chars, rawParts_slash, raw]⟩
  · rintro ⟨part, rest, raw⟩
    cases chars : path.toList with
    | nil =>
        rw [chars] at raw
        cases raw
    | cons c cs =>
        by_cases slash : c = '/'
        · simp [isAbsolute, chars, slash]
        · obtain ⟨first, others, behind⟩ := List.exists_cons_of_ne_nil (rawParts_ne_nil cs)
          rw [chars, rawParts_cons slash behind] at raw
          cases raw

theorem noSlash_of_mem_rawParts {cs part : List Char} (member : part ∈ rawParts cs) :
    '/' ∉ part := by
  induction cs generalizing part with
  | nil =>
      rw [List.mem_singleton.1 member]
      exact List.not_mem_nil
  | cons c rest ih =>
      by_cases slash : c = '/'
      · subst slash
        rw [rawParts_slash] at member
        rcases List.mem_cons.1 member with rfl | member
        · exact List.not_mem_nil
        · exact ih member
      · obtain ⟨first, others, behind⟩ := List.exists_cons_of_ne_nil (rawParts_ne_nil rest)
        rw [rawParts_cons slash behind] at member
        rw [behind] at ih
        rcases List.mem_cons.1 member with rfl | member
        · rw [List.mem_cons, not_or]
          exact ⟨Ne.symm slash, ih List.mem_cons_self⟩
        · exact ih (List.mem_cons_of_mem _ member)

/-- Parts that are joined by slashes are read back. -/
theorem rawParts_intercalate {parts : List (List Char)} (parts_ne : parts ≠ [])
    (noSlash : ∀ part ∈ parts, '/' ∉ part) : rawParts (List.intercalate ['/'] parts) = parts := by
  induction parts with
  | nil => exact absurd rfl parts_ne
  | cons part rest ih =>
      have own := rawParts_of_noSlash (noSlash part List.mem_cons_self)
      cases rest with
      | nil => rwa [List.intercalate_singleton]
      | cons next others =>
          have later := ih (List.cons_ne_nil _ _) fun other member =>
            noSlash other (List.mem_cons_of_mem _ member)
          rw [List.intercalate_cons_cons, List.append_assoc, List.singleton_append,
            rawParts_append_slash, own, later]
          rfl

/-- The path is written as the names with a slash between neighbours. -/
structure IsJoined (path : String) (names : List String) : Prop where
  raw : rawParts path.toList = names.map String.toList
  areNames : ∀ name ∈ names, IsName name

theorem isJoined_singleton {name : String} (isName : IsName name) : IsJoined name [name] where
  raw := rawParts_of_noSlash isName.noSlash
  areNames := by
    intro other member
    rw [List.mem_singleton.1 member]
    exact isName

theorem IsJoined.nil_notMem {path : String} {names : List String}
    (joined : IsJoined path names) : [] ∉ rawParts path.toList := by
  rw [joined.raw, List.mem_map]
  rintro ⟨name, member, empty⟩
  exact (joined.areNames name member).notEmpty (String.toList_eq_nil_iff.1 empty)

theorem IsJoined.not_isAbsolute {path : String} {names : List String}
    (joined : IsJoined path names) : isAbsolute path = false := by
  have nil_notMem := joined.nil_notMem
  unfold isAbsolute
  cases chars : path.toList with
  | nil => rfl
  | cons c rest =>
      rw [chars] at nil_notMem
      rw [List.head?_cons, decide_eq_false_iff_not, Option.some.injEq]
      rintro rfl
      rw [rawParts_slash] at nil_notMem
      exact nil_notMem List.mem_cons_self

theorem IsJoined.getLast?_ne {path : String} {names : List String}
    (joined : IsJoined path names) : path.toList.getLast? ≠ some '/' := by
  intro last
  obtain ⟨front, hfront⟩ := List.getLast?_eq_some_iff.1 last
  have nil_notMem := joined.nil_notMem
  rw [hfront, rawParts_append_slash, List.mem_append, not_or] at nil_notMem
  exact nil_notMem.2 List.mem_cons_self

theorem IsJoined.ne_empty {path : String} {names : List String}
    (joined : IsJoined path names) : path ≠ "" := by
  rintro rfl
  exact joined.nil_notMem List.mem_cons_self

/-- One more name is joined behind a slash. -/
theorem IsJoined.join {path name : String} {names : List String}
    (joined : IsJoined path names) (isName : IsName name) :
    IsJoined (Path.join path name) (names ++ [name]) := by
  have relative : isAbsolute name = false := (isJoined_singleton isName).not_isAbsolute
  have text : Path.join path name = path ++ "/" ++ name := by
    rw [Path.join, relative, if_neg Bool.false_ne_true, if_neg joined.ne_empty,
      if_neg joined.getLast?_ne]
  constructor
  · have chars : (path ++ "/" ++ name).toList = path.toList ++ '/' :: name.toList := by
      rw [String.toList_append, String.toList_append, List.append_assoc]
      rfl
    rw [text, chars, rawParts_append_slash, joined.raw, rawParts_of_noSlash isName.noSlash,
      List.map_append]
    rfl
  · intro other member
    rcases List.mem_append.1 member with member | member
    · exact joined.areNames other member
    · rw [List.mem_singleton.1 member]
      exact isName

theorem IsJoined.joinAll {path : String} {names others : List String}
    (joined : IsJoined path names) (areNames : ∀ name ∈ others, IsName name) :
    IsJoined (Path.joinAll path others) (names ++ others) := by
  induction others generalizing path names with
  | nil => rwa [List.append_nil]
  | cons name rest ih =>
      have next := joined.join (areNames name List.mem_cons_self)
      have all := ih next fun other member => areNames other (List.mem_cons_of_mem _ member)
      rw [List.append_assoc] at all
      exact all

theorem IsJoined.parts {path : String} {names : List String} (joined : IsJoined path names) :
    Path.parts path = names := by
  have relative := joined.not_isAbsolute
  have noVoid (part : List Char) (member : part ∈ rawParts path.toList) :
      (!isVoid part) = true := by
    rw [joined.raw] at member
    obtain ⟨name, listed, rfl⟩ := List.mem_map.1 member
    have isName := joined.areNames name listed
    have noPoint : name.toList ≠ ['.'] := fun same =>
      isName.notPoint (String.toList_inj.1 same)
    have notEmpty : name.toList ≠ [] := fun same =>
      isName.notEmpty (String.toList_eq_nil_iff.1 same)
    simp [isVoid, noPoint, notEmpty]
  cases names with
  | nil => exact absurd joined.raw (rawParts_ne_nil _)
  | cons first rest =>
      have first_ne : first.toList ≠ [] := fun same =>
        (joined.areNames first List.mem_cons_self).notEmpty (String.toList_eq_nil_iff.1 same)
      have kept : (rest.map String.toList).filter (fun part => !isVoid part) =
          rest.map String.toList := by
        rw [List.filter_eq_self]
        intro part member
        refine noVoid part ?_
        rw [joined.raw]
        exact List.mem_cons_of_mem _ member
      unfold Path.parts
      rw [relative, joined.raw]
      simp only [List.map_cons, List.drop_one, List.tail_cons, List.headD_cons, kept, first_ne,
        if_false, Bool.false_eq_true, String.ofList_toList, List.map_map]
      exact congrArg (first :: ·) (List.map_id'' (fun _ => String.ofList_toList) rest)

/-! ## Paths that stay below -/

/-- The path is relative and has no step to the directory above. -/
structure IsBelow (path : String) : Prop where
  relative : isAbsolute path = false
  noStepUp : ".." ∉ parts path

instance (path : String) : Decidable (IsBelow path) :=
  decidable_of_iff (isAbsolute path = false ∧ ".." ∉ parts path)
    ⟨fun h => ⟨h.1, h.2⟩, fun h => ⟨h.relative, h.noStepUp⟩⟩

def upPart : List Char := ['.', '.']

theorem stepUp_mem_parts_iff {path : String} :
    ".." ∈ parts path ↔ upPart ∈ rawParts path.toList := by
  have text (cs : List Char) : String.ofList cs = ".." ↔ cs = upPart := by
    rw [← String.toList_inj, String.toList_ofList]
    rfl
  obtain ⟨first, rest, raw⟩ := List.exists_cons_of_ne_nil (rawParts_ne_nil path.toList)
  have inner : upPart ∈ rest.filter (!isVoid ·) ↔ upPart ∈ rest := by
    rw [List.mem_filter]
    exact and_iff_left rfl
  have shown (all : List (List Char)) : ".." ∈ all.map String.ofList ↔ upPart ∈ all := by
    simp only [List.mem_map, text, exists_eq_right]
  unfold parts
  rw [shown, raw, List.drop_one, List.tail_cons, List.headD_cons]
  by_cases absolute : isAbsolute path = true
  · obtain ⟨part, others, front⟩ := isAbsolute_iff.1 absolute
    rw [raw] at front
    obtain ⟨rfl, -⟩ := List.cons_eq_cons.1 front
    rw [if_pos absolute, List.mem_cons, List.mem_cons, inner]
    simp [upPart]
  · rw [if_neg absolute]
    by_cases empty : first = []
    · rw [if_pos empty, inner, empty, List.mem_cons]
      simp [upPart]
    · rw [if_neg empty, List.mem_cons, List.mem_cons, inner]

theorem isBelow_iff {path : String} :
    IsBelow path ↔ isAbsolute path = false ∧ upPart ∉ rawParts path.toList := by
  rw [← stepUp_mem_parts_iff]
  exact ⟨fun below => ⟨below.relative, below.noStepUp⟩, fun h => ⟨h.1, h.2⟩⟩

/-- A relative path is written behind the parts of the path that it is joined to. -/
theorem exists_rawParts_join {base path : String} (notEmpty : base ≠ "")
    (relative : isAbsolute path = false) :
    ∃ front, front ≠ [] ∧
      rawParts (join base path).toList = front ++ rawParts path.toList ∧
      (rawParts base.toList = front ∨ rawParts base.toList = front ++ [[]]) := by
  unfold join
  rw [relative, if_neg Bool.false_ne_true, if_neg notEmpty]
  by_cases slash : base.toList.getLast? = some '/'
  · obtain ⟨front, chars⟩ := List.getLast?_eq_some_iff.1 slash
    refine ⟨rawParts front, rawParts_ne_nil front, ?_, .inr ?_⟩
    · rw [if_pos slash, String.toList_append, chars, List.append_assoc]
      exact rawParts_append_slash front path.toList
    · rw [chars, rawParts_append_slash]
      rfl
  · refine ⟨rawParts base.toList, rawParts_ne_nil _, ?_, .inl rfl⟩
    have chars : (base ++ "/" ++ path).toList = base.toList ++ '/' :: path.toList := by
      rw [String.toList_append, String.toList_append, List.append_assoc]
      rfl
    rw [if_neg slash, chars, rawParts_append_slash]

theorem isAbsolute_join (base path : String) :
    isAbsolute (join base path) = (isAbsolute base || isAbsolute path) := by
  unfold join
  by_cases absolute : isAbsolute path = true
  · rw [if_pos absolute, absolute, Bool.or_true]
  · rw [if_neg absolute, Bool.eq_false_iff.2 absolute, Bool.or_false]
    by_cases empty : base = ""
    · rw [if_pos empty, empty, Bool.eq_false_iff.2 absolute]
      rfl
    · obtain ⟨c, rest, chars⟩ :=
        List.exists_cons_of_ne_nil (mt String.toList_eq_nil_iff.1 empty)
      rw [if_neg empty]
      split <;> simp [isAbsolute, chars]

/-- A joined path stays below exactly if both of its pieces do. -/
theorem isBelow_join {base path : String} :
    IsBelow (join base path) ↔ IsBelow base ∧ IsBelow path := by
  simp only [isBelow_iff, isAbsolute_join, Bool.or_eq_false_iff]
  by_cases relative : isAbsolute path = false
  · by_cases empty : base = ""
    · subst empty
      have same : join "" path = path := by
        rw [join, relative, if_neg Bool.false_ne_true, if_pos rfl]
      have emptyBelow : isAbsolute "" = false ∧ upPart ∉ rawParts "".toList := by decide
      rw [same, iff_true_intro emptyBelow, true_and, emptyBelow.1, eq_self, true_and]
    · obtain ⟨front, -, joined, baseParts⟩ := exists_rawParts_join empty relative
      have stepUp : upPart ∈ rawParts base.toList ↔ upPart ∈ front := by
        rcases baseParts with same | same
        · rw [same]
        · rw [same, List.mem_append, List.mem_singleton]
          simp [upPart]
      rw [joined, List.mem_append, stepUp, not_or]
      exact and_and_and_comm
  · exact ⟨fun joined => absurd joined.1.2 relative, fun pieces => absurd pieces.2.1 relative⟩

theorem isBelow_joinAll {base : String} {pieces : List String} :
    IsBelow (joinAll base pieces) ↔ IsBelow base ∧ ∀ piece ∈ pieces, IsBelow piece := by
  unfold joinAll
  induction pieces generalizing base with
  | nil => simp
  | cons piece rest ih => rw [List.foldl_cons, ih, isBelow_join, List.forall_mem_cons, and_assoc]

/-- A single part stays below unless it is the step upwards. -/
theorem isBelow_of_noSlash {name : String} (noSlash : '/' ∉ name.toList) (other : name ≠ "..") :
    IsBelow name := by
  rw [isBelow_iff, rawParts_of_noSlash noSlash, List.mem_singleton]
  constructor
  · unfold isAbsolute
    rw [decide_eq_false_iff_not]
    intro slash
    exact noSlash (List.mem_of_mem_head? slash)
  · intro same
    exact other (String.toList_inj.1 same.symm)

/-- Relative pieces leave the parts of a path in their places. -/
theorem mem_rawParts_joinAll {base : String} {pieces : List String}
    (relative : ∀ piece ∈ pieces, isAbsolute piece = false) {part : List Char}
    (notEmpty : part ≠ []) (member : part ∈ rawParts base.toList) :
    part ∈ rawParts (joinAll base pieces).toList := by
  unfold joinAll
  induction pieces generalizing base with
  | nil => exact member
  | cons piece rest ih =>
      have base_ne : base ≠ "" := by
        rintro rfl
        exact notEmpty (List.mem_singleton.1 member)
      obtain ⟨front, -, joined, baseParts⟩ :=
        exists_rawParts_join base_ne (relative piece List.mem_cons_self)
      refine ih (fun other later => relative other (List.mem_cons_of_mem _ later)) ?_
      rw [joined]
      refine List.mem_append_left _ ?_
      rcases baseParts with same | same
      · rwa [same] at member
      · rw [same, List.mem_append, List.mem_singleton] at member
        exact member.resolve_right notEmpty

/-- The place is in a directory or in one of those that it holds. -/
def IsBeneath (top place : List String) : Prop :=
  ∃ names, names ≠ [] ∧ place = top ++ names

/-- The names that a path goes through, without its steps that stay where they are. -/
def names (path : String) : List String :=
  (steps path).filter fun step => step ≠ "" ∧ step ≠ "."

theorem mem_steps_of_relative {path : String} (relative : isAbsolute path = false)
    {step : String} : step ∈ steps path ↔ step.toList ∈ rawParts path.toList := by
  rw [steps, if_neg (by rw [relative]; exact Bool.false_ne_true), List.mem_map]
  constructor
  · rintro ⟨part, member, rfl⟩
    rwa [String.toList_ofList]
  · intro member
    exact ⟨_, member, String.ofList_toList⟩

theorem stepUp_notMem_steps {path : String} (below : IsBelow path) : ".." ∉ steps path := by
  rw [mem_steps_of_relative below.relative]
  exact (isBelow_iff.1 below).2

theorem names_ne_nil {path : String} (relative : isAbsolute path = false) {part : List Char}
    (notVoid : isVoid part = false) (member : part ∈ rawParts path.toList) : names path ≠ [] := by
  have step : String.ofList part ∈ steps path := by
    rwa [mem_steps_of_relative relative, String.toList_ofList]
  have named : String.ofList part ≠ "" ∧ String.ofList part ≠ "." := by
    simp only [← String.toList_inj, String.toList_ofList, ne_eq]
    simpa [isVoid] using notVoid
  exact List.ne_nil_of_mem (List.mem_filter.2 ⟨step, decide_eq_true named⟩)

def leadingSteps (absolute : Bool) (front : List (List Char)) : List String :=
  if absolute then rootPart :: (front.drop 1).map String.ofList else front.map String.ofList

/-- The steps of a path whose parts, as they are written, are in two pieces. -/
theorem steps_of_rawParts {path : String} {front rest : List (List Char)} (front_ne : front ≠ [])
    (raw : rawParts path.toList = front ++ rest) :
    steps path = leadingSteps (isAbsolute path) front ++ rest.map String.ofList := by
  obtain ⟨first, others, rfl⟩ := List.exists_cons_of_ne_nil front_ne
  unfold steps leadingSteps
  rw [raw]
  split <;> simp

/-- The steps of a relative path come behind those of the path that it is joined to. -/
theorem exists_steps_join {base path : String} (notEmpty : base ≠ "")
    (relative : isAbsolute path = false) :
    ∃ front, steps (join base path) = front ++ steps path ∧
      (steps base = front ∨ steps base = front ++ [""]) := by
  obtain ⟨front, front_ne, joined, baseParts⟩ := exists_rawParts_join notEmpty relative
  have behind : steps path = (rawParts path.toList).map String.ofList := by
    rw [steps, relative, if_neg Bool.false_ne_true]
  have absolute : isAbsolute (join base path) = isAbsolute base := by
    rw [isAbsolute_join, relative, Bool.or_false]
  refine ⟨leadingSteps (isAbsolute base) front, ?_, ?_⟩
  · rw [steps_of_rawParts front_ne joined, absolute, behind]
  · rcases baseParts with same | same
    · refine .inl ?_
      rw [steps_of_rawParts front_ne (same.trans (List.append_nil front).symm)]
      exact List.append_nil _
    · exact .inr (steps_of_rawParts front_ne same)

/-- The directory of a path is written as the parts before its last name. -/
theorem parent?_eq_some {path parent : String} (given : parent? path = some parent) :
    ∃ kept rest, rawParts path.toList = kept ++ rest ∧
      (kept = [] ∧ (parent = "" ∨ isAbsolute path = true ∧ parent = rootPart) ∨
        ∃ last, kept.getLast? = some last ∧ isVoid last = false ∧
          parent = String.ofList (List.intercalate ['/'] kept)) := by
  unfold parent? at given
  dsimp only at given
  split at given
  · cases given
  next last before found =>
    have named : before.reverse ++ [last] = (rawParts path.toList).rdropWhile isVoid := by
      rw [List.rdropWhile, found, List.reverse_cons]
    have kept_eq : (before.dropWhile isVoid).reverse = before.reverse.rdropWhile isVoid := by
      rw [List.rdropWhile, List.reverse_reverse]
    have front : before.reverse <+: rawParts path.toList :=
      (List.prefix_append _ _).trans (named ▸ List.rdropWhile_prefix isVoid _)
    obtain ⟨rest, whole⟩ := (List.rdropWhile_prefix isVoid before.reverse).trans front
    refine ⟨before.reverse.rdropWhile isVoid, rest, whole.symm, ?_⟩
    rw [kept_eq, ← List.isEmpty_reverse, kept_eq] at given
    by_cases empty : before.reverse.rdropWhile isVoid = []
    · refine .inl ⟨empty, ?_⟩
      rw [empty] at given
      by_cases absolute : isAbsolute path = true
      · rw [absolute] at given
        exact .inr ⟨absolute, (Option.some.inj given).symm⟩
      · rw [Bool.eq_false_iff.2 absolute] at given
        exact .inl (Option.some.inj given).symm
    · refine .inr ⟨_, List.getLast?_eq_some_getLast empty,
        Bool.eq_false_iff.2 (List.rdropWhile_last_not isVoid _ empty), ?_⟩
      rw [List.isEmpty_eq_false_iff.2 empty, Bool.false_and, if_neg Bool.false_ne_true] at given
      exact (Option.some.inj given).symm

/-- The steps to the directory of a path are the first ones of the path, and one that stays. -/
theorem exists_steps_of_parent? {path parent : String} (given : parent? path = some parent) :
    ∃ kept rest stay, steps path = kept ++ rest ∧ steps parent = kept ++ stay ∧
      (stay = [] ∨ stay = [""]) := by
  obtain ⟨kept, rest, whole, ⟨-, rfl | ⟨absolute, rfl⟩⟩ | ⟨last, ends, named, rfl⟩⟩ :=
    parent?_eq_some given
  · exact ⟨[], steps path, [""], rfl, rfl, .inr rfl⟩
  · refine ⟨[rootPart], ((rawParts path.toList).map String.ofList).drop 1, [""], ?_, rfl,
      .inr rfl⟩
    rw [steps, if_pos absolute]
    rfl
  · have kept_ne : kept ≠ [] := by
      rintro rfl
      cases ends
    have own : rawParts (String.ofList (List.intercalate ['/'] kept)).toList = kept := by
      rw [String.toList_ofList]
      refine rawParts_intercalate kept_ne fun part member => ?_
      have ofPath : part ∈ rawParts path.toList := whole ▸ List.mem_append_left _ member
      exact noSlash_of_mem_rawParts ofPath
    have sameStart : isAbsolute (String.ofList (List.intercalate ['/'] kept)) =
        isAbsolute path := by
      rw [Bool.eq_iff_iff, isAbsolute_iff, isAbsolute_iff, own, whole]
      constructor
      · rintro ⟨part, others, rfl⟩
        exact ⟨part, others ++ rest, rfl⟩
      · rintro ⟨part, others, absolute⟩
        match kept, kept_ne with
        | [first], _ =>
            obtain ⟨rfl, -⟩ := List.cons_eq_cons.1 absolute
            cases ends
            cases named
        | first :: second :: later, _ =>
            obtain ⟨rfl, -⟩ := List.cons_eq_cons.1 absolute
            exact ⟨second, later, rfl⟩
    refine ⟨_, _, [], steps_of_rawParts kept_ne whole, ?_, .inl rfl⟩
    rw [← sameStart]
    exact steps_of_rawParts kept_ne (own.trans (List.append_nil kept).symm)

end ContractDictionary.Path

namespace ContractDictionary.FileTree

open ContractDictionary.Path (IsBelow)

theorem stepTo_name {tree : FileTree} {place next : List String} {step : String}
    (other : step ≠ "..") (stepped : tree.stepTo place step = some next) :
    next = place ++ [step].filter fun step => step ≠ "" ∧ step ≠ "." := by
  unfold stepTo at stepped
  rw [if_neg other] at stepped
  split at stepped
  · cases stepped
  · by_cases void : step = "" ∨ step = "."
    · rw [if_pos void, Option.some.injEq] at stepped
      rw [← stepped]
      rcases void with rfl | rfl <;> exact (List.append_nil place).symm
    · rw [if_neg void, Option.some.injEq] at stepped
      have kept : step ≠ "" ∧ step ≠ "." := not_or.1 void
      simp only [List.filter_cons, kept, ne_eq, not_false_eq_true, and_self, decide_true, if_true,
        List.filter_nil, ← stepped]

/-- Steps without one upwards lead to the names among them. -/
theorem foldlM_stepTo {tree : FileTree} {steps place final : List String}
    (noStepUp : ".." ∉ steps) (followed : steps.foldlM tree.stepTo place = some final) :
    final = place ++ steps.filter fun step => step ≠ "" ∧ step ≠ "." := by
  induction steps generalizing place with
  | nil =>
      cases followed
      exact (List.append_nil _).symm
  | cons step rest ih =>
      rw [List.mem_cons, not_or] at noStepUp
      obtain ⟨next, stepped, later⟩ := Option.bind_eq_some_iff.1 followed
      rw [ih noStepUp.2 later, stepTo_name (Ne.symm noStepUp.1) stepped, List.append_assoc,
        ← List.filter_append]
      rfl

/-- The steps to the root lead to its place before those of a path joined to it are followed. -/
theorem exists_steps_of_resolve? {tree : FileTree} {root path : String} {top : List String}
    (relative : Path.isAbsolute path = false) (rooted : tree.resolve? root = some top) :
    ∃ front, Path.steps (Path.join root path) = front ++ Path.steps path ∧
      front.foldlM tree.stepTo [] = some top := by
  unfold resolve? at rooted
  split at rooted
  · cases rooted
  next root_ne =>
    obtain ⟨front, joined, same | same⟩ := Path.exists_steps_join root_ne relative
    · exact ⟨front, joined, same ▸ rooted⟩
    · -- A slash at the end of the root is a step that stays.
      rw [same, List.foldlM_append] at rooted
      obtain ⟨reached, first, stayed⟩ := Option.bind_eq_some_iff.1 rooted
      have top_eq : top = reached := by
        simpa using foldlM_stepTo (by decide) stayed
      exact ⟨front, joined, top_eq ▸ first⟩

/-- A path that stays below leads from the place of a directory to one below it. -/
theorem resolve?_join {tree : FileTree} {root path : String} {top place : List String}
    (below : IsBelow path) (rooted : tree.resolve? root = some top)
    (resolved : tree.resolve? (Path.join root path) = some place) :
    place = top ++ Path.names path := by
  obtain ⟨front, joined, first⟩ := exists_steps_of_resolve? below.relative rooted
  unfold resolve? at resolved
  split at resolved
  · cases resolved
  rw [joined, List.foldlM_append, first] at resolved
  exact foldlM_stepTo (Path.stepUp_notMem_steps below) resolved

end ContractDictionary.FileTree
