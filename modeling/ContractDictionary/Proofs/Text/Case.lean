import ContractDictionary.Text.Basic
import Mathlib.Data.List.Basic

/-!
# Letters and their case

A capital of ASCII and its small letter are each other's counterparts, and within ASCII nothing
else changes its case.  Beyond it, the characters that upper-casing gives are in upper case
already, so that a text in upper case agrees with another text, case aside, exactly if the text
that it came from does; and lower-casing turns no other character into a slash.
-/

namespace ContractDictionary.Text

theorem isCapital_iff {c : Char} : isCapital c = true ↔ 0x41 ≤ c.toNat ∧ c.toNat ≤ 0x5A := by
  rw [isCapital, Bool.and_eq_true, decide_eq_true_eq, decide_eq_true_eq]
  exact and_congr UInt32.le_iff_toNat_le UInt32.le_iff_toNat_le

theorem isSmall_iff {c : Char} : isSmall c = true ↔ 0x61 ≤ c.toNat ∧ c.toNat ≤ 0x7A := by
  rw [isSmall, Bool.and_eq_true, decide_eq_true_eq, decide_eq_true_eq]
  exact and_congr UInt32.le_iff_toNat_le UInt32.le_iff_toNat_le

theorem isDigit_iff {c : Char} : isDigit c = true ↔ 0x30 ≤ c.toNat ∧ c.toNat ≤ 0x39 := by
  rw [isDigit, Bool.and_eq_true, decide_eq_true_eq, decide_eq_true_eq]
  exact and_congr UInt32.le_iff_toNat_le UInt32.le_iff_toNat_le

theorem toNat_of_isDigit {c : Char} (digit : c.isDigit = true) :
    '0'.toNat ≤ c.toNat ∧ c.toNat ≤ '0'.toNat + 9 := by
  simp only [Char.isDigit, Bool.and_eq_true, decide_eq_true_eq] at digit
  exact digit

theorem toNat_ofNat {point : Nat} (valid : point.isValidChar) :
    (Char.ofNat point).toNat = point := by
  rw [Char.ofNat, dif_pos valid]
  rfl

theorem isSmall_or_isDigit_of_isCapital {c : Char} (capital : isCapital c = true) :
    (isSmall c || isDigit c) = false := by
  rw [isCapital_iff] at capital
  rw [Bool.eq_false_iff, ne_eq, Bool.or_eq_true, isSmall_iff, isDigit_iff]
  omega

theorem isCapital_of_isSmall {c : Char} (small : isSmall c = true) : isCapital c = false := by
  rw [isSmall_iff] at small
  rw [Bool.eq_false_iff, ne_eq, isCapital_iff]
  omega

/-- A capital has a small letter, whose own capital it is. -/
theorem exists_small_of_isCapital {c : Char} (capital : isCapital c = true) :
    ∃ small, isSmall small = true ∧ lowerChar c = [small] ∧ upperChar small = [c] := by
  obtain ⟨first, last⟩ := isCapital_iff.1 capital
  have point : (Char.ofNat (c.toNat + 0x20)).toNat = c.toNat + 0x20 :=
    toNat_ofNat (.inl (by omega))
  have small : isSmall (Char.ofNat (c.toNat + 0x20)) = true := by
    rw [isSmall_iff, point]
    omega
  refine ⟨_, small, ?_, ?_⟩
  · rw [lowerChar, if_pos (by omega), if_pos capital]
  · rw [upperChar, point, if_pos (by omega), if_pos small, Nat.add_sub_cancel, Char.ofNat_toNat]

/-- A small letter has a capital, whose own small letter it is. -/
theorem exists_capital_of_isSmall {c : Char} (small : isSmall c = true) :
    ∃ capital, upperChar c = [capital] ∧ lowerChar capital = [c] := by
  obtain ⟨first, last⟩ := isSmall_iff.1 small
  have point : (Char.ofNat (c.toNat - 0x20)).toNat = c.toNat - 0x20 :=
    toNat_ofNat (.inl (by omega))
  have capital : isCapital (Char.ofNat (c.toNat - 0x20)) = true := by
    rw [isCapital_iff, point]
    omega
  refine ⟨Char.ofNat (c.toNat - 0x20), ?_, ?_⟩
  · rw [upperChar, if_pos (by omega), if_pos small]
  · rw [lowerChar, point, if_pos (by omega), if_pos capital, Nat.sub_add_cancel (by omega),
      Char.ofNat_toNat]

theorem lowerChar_of_not_isCapital {c : Char} (ascii : c.toNat < 0x80)
    (other : isCapital c = false) : lowerChar c = [c] := by
  rw [lowerChar, if_pos ascii, other]
  rfl

theorem upperChar_of_not_isSmall {c : Char} (ascii : c.toNat < 0x80)
    (other : isSmall c = false) : upperChar c = [c] := by
  rw [upperChar, if_pos ascii, other]
  rfl

theorem flatMap_upperChar_lowerChar {c : Char} (ascii : c.toNat < 0x80) :
    (lowerChar c).flatMap upperChar = upperChar c := by
  cases capital : isCapital c with
  | true =>
      obtain ⟨small, -, lowered, raised⟩ := exists_small_of_isCapital capital
      have large : isSmall c = false := by
        have neither := isSmall_or_isDigit_of_isCapital capital
        exact (Bool.or_eq_false_iff.1 neither).1
      rw [lowered, List.flatMap_singleton, raised, upperChar_of_not_isSmall ascii large]
  | false => rw [lowerChar_of_not_isCapital ascii capital, List.flatMap_singleton]

theorem lowerAfter_of_ascii {cs : List Char} (ascii : ∀ c ∈ cs, c.toNat < 0x80)
    (before : List Char) : lowerAfter before cs = cs.flatMap lowerChar := by
  induction cs generalizing before with
  | nil => rfl
  | cons c rest ih =>
      obtain ⟨first, later⟩ := List.forall_mem_cons.1 ascii
      have noSigma : c ≠ 'Σ' := by
        rintro rfl
        exact absurd first (by decide)
      rw [lowerAfter, lowerWithin, if_neg noSigma, ih later, List.flatMap_cons]

/-- Within ASCII the upper-case form can be had from the lower-case form. -/
theorem upper_lower {text : String} (ascii : ∀ c ∈ text.toList, c.toNat < 0x80) :
    upper (lower text) = upper text := by
  rw [upper, upper, lower, String.toList_ofList, lowerAfter_of_ascii ascii, List.flatMap_assoc]
  exact congrArg String.ofList
    (List.flatMap_congr fun c member => flatMap_upperChar_lowerChar (ascii c member))

/-- A text without small letters is in upper case within ASCII. -/
theorem upper_of_forall_not_isSmall {text : String} (ascii : ∀ c ∈ text.toList, c.toNat < 0x80)
    (large : ∀ c ∈ text.toList, isSmall c = false) : upper text = text := by
  rw [upper, List.flatMap_congr fun c member =>
    upperChar_of_not_isSmall (ascii c member) (large c member), List.flatMap_singleton',
    String.ofList_toList]

theorem ofNat_ne_slash {point : Nat} (other : point ≠ 0x2F) : Char.ofNat point ≠ '/' := by
  intro slash
  by_cases valid : point.isValidChar
  · rw [← toNat_ofNat valid, slash] at other
    exact other rfl
  · rw [Char.ofNat, dif_neg valid] at slash
    exact absurd slash (by decide)

theorem ne_of_map?_lowerRuns {run : CaseRun} (member : run ∈ lowerRuns) {point image : Nat}
    (mapped : run.map? point = some image) : image ≠ 0x2F := by
  have above : ∀ run ∈ lowerRuns, 0x2F < (run.first : Int) + run.shift := by decide +kernel
  have bound := above run member
  unfold CaseRun.map? at mapped
  split at mapped
  · next within =>
      cases mapped
      omega
  · cases mapped

/-- No character but the slash itself has a slash in its lower-case form. -/
theorem slash_notMem_lowerChar {c : Char} (other : c ≠ '/') : '/' ∉ lowerChar c := by
  unfold lowerChar
  split
  · rw [List.mem_singleton]
    split
    · next capital =>
        have letter := (isCapital_iff.1 capital).1
        exact Ne.symm (ofNat_ne_slash (by omega))
    · exact Ne.symm other
  · unfold mapPoint
    cases expanded : lowerExpansions.lookup c.toNat with
    | some points =>
        have plain : ∀ expansion ∈ lowerExpansions, ∀ point ∈ expansion.2, point ≠ 0x2F := by
          decide +kernel
        obtain ⟨front, rest, listed, -⟩ := List.lookup_eq_some_iff.1 expanded
        have among : (c.toNat, points) ∈ lowerExpansions := by
          rw [listed]
          exact List.mem_append_right _ List.mem_cons_self
        rw [List.mem_map]
        rintro ⟨point, member, slash⟩
        exact ofNat_ne_slash (plain _ among point member) slash
    | none =>
        rw [List.mem_singleton]
        cases mapped : lowerRuns.findSome? (·.map? c.toNat) with
        | none => exact Ne.symm other
        | some image =>
            obtain ⟨run, member, found⟩ := List.exists_of_findSome?_eq_some mapped
            exact Ne.symm (ofNat_ne_slash (ne_of_map?_lowerRuns member found))

theorem slash_notMem_lowerAfter {cs : List Char} (noSlash : '/' ∉ cs) (before : List Char) :
    '/' ∉ lowerAfter before cs := by
  induction cs generalizing before with
  | nil => exact List.not_mem_nil
  | cons c rest ih =>
      rw [List.mem_cons, not_or] at noSlash
      rw [lowerAfter, List.mem_append, not_or]
      refine ⟨?_, ih noSlash.2 (c :: before)⟩
      unfold lowerWithin
      split
      · rw [List.mem_singleton]
        split <;> decide
      · exact slash_notMem_lowerChar (Ne.symm noSlash.1)

/-- The lower-case form of a text without slashes has none. -/
theorem slash_notMem_lower {text : String} (noSlash : '/' ∉ text.toList) :
    '/' ∉ (lower text).toList := by
  rw [lower, String.toList_ofList]
  exact slash_notMem_lowerAfter noSlash []

/-! ## Upper case -/

def CaseRun.single (point : Nat) : CaseRun :=
  ⟨point, point, 1, 0⟩

def CaseRun.image (run : CaseRun) : CaseRun where
  first := (run.first + run.shift).toNat
  last := (run.last + run.shift).toNat
  step := run.step
  shift := 0

/-- The runs lie behind each other, or have every second point and are shifted by one. -/
def CaseRun.isApart (run other : CaseRun) : Bool :=
  Nat.blt run.last other.first || Nat.blt other.last run.first ||
    (Nat.beq other.step 2 && (Nat.beq run.step 2 || Nat.beq run.first run.last) &&
      Nat.beq ((run.first + other.first) % 2) 1)

theorem CaseRun.map?_eq_some {run : CaseRun} {point counterpart : Nat} :
    run.map? point = some counterpart ↔
      (run.first ≤ point ∧ point ≤ run.last ∧ (point - run.first) % run.step = 0) ∧
        Int.toNat (point + run.shift) = counterpart := by
  unfold CaseRun.map?
  split
  · next within => simp [within]
  · next without => simp [without]

theorem CaseRun.map?_single (point : Nat) : (single point).map? point = some point :=
  CaseRun.map?_eq_some.2 ⟨⟨Nat.le_refl _, Nat.le_refl _, Nat.mod_one _⟩, rfl⟩

theorem CaseRun.isSome_map?_image {run : CaseRun} (natural : 0 ≤ run.first + run.shift)
    {point counterpart : Nat} (mapped : run.map? point = some counterpart) :
    (run.image.map? counterpart).isSome := by
  obtain ⟨⟨first, last, step⟩, rfl⟩ := CaseRun.map?_eq_some.1 mapped
  have distance : (point + run.shift).toNat - (run.first + run.shift).toNat =
      point - run.first := by
    omega
  refine Option.isSome_iff_exists.2 ⟨_, CaseRun.map?_eq_some.2 ⟨⟨?_, ?_, ?_⟩, rfl⟩⟩
  · show (run.first + run.shift).toNat ≤ _
    omega
  · show _ ≤ (run.last + run.shift).toNat
    omega
  · show ((point + run.shift).toNat - (run.first + run.shift).toNat) % run.step = 0
    rw [distance, step]

theorem CaseRun.map?_eq_none_of_isApart {run other : CaseRun} (apart : run.isApart other = true)
    {point : Nat} (within : (run.map? point).isSome) : other.map? point = none := by
  obtain ⟨_, mapped⟩ := Option.isSome_iff_exists.1 within
  obtain ⟨⟨first, last, step⟩, -⟩ := CaseRun.map?_eq_some.1 mapped
  refine Option.eq_none_iff_forall_ne_some.2 fun _ mapped' => ?_
  obtain ⟨⟨first', last', step'⟩, -⟩ := CaseRun.map?_eq_some.1 mapped'
  simp only [isApart, Bool.or_eq_true, Bool.and_eq_true, Nat.blt_eq, Nat.beq_eq] at apart
  rcases apart with (before | behind) | ⟨⟨second, steps⟩, parity⟩
  · omega
  · omega
  · rw [second] at step'
    rcases steps with second | same
    · rw [second] at step
      omega
    · omega

def upperSources : List CaseRun :=
  upperRuns ++ upperExpansions.map fun expansion => .single expansion.1

/-- The points that the tables of upper case give as counterparts. -/
def upperImages : List CaseRun :=
  upperRuns.map CaseRun.image ++ upperExpansions.flatMap (·.2.map CaseRun.single)

theorem isApart_upperImages :
    ∀ image ∈ upperImages, ∀ source ∈ upperSources, image.isApart source = true := by
  have evaluated : upperImages.all (fun image => upperSources.all image.isApart) = true := by
    decide +kernel
  simpa only [List.all_eq_true] using evaluated

theorem map?_eq_none_of_mem_upperImages {image : CaseRun} (member : image ∈ upperImages)
    {point : Nat} (within : (image.map? point).isSome) :
    ∀ source ∈ upperSources, source.map? point = none := fun source listed =>
  CaseRun.map?_eq_none_of_isApart (isApart_upperImages image member source listed) within

theorem mem_smallLetters : (⟨0x61, 0x7A, 1, -32⟩ : CaseRun) ∈ upperRuns := by
  rw [upperRuns]
  exact List.mem_cons_self

/-- A character without a counterpart in the tables is in upper case. -/
theorem upperChar_of_forall_map? {c : Char}
    (none : ∀ source ∈ upperSources, source.map? c.toNat = none) : upperChar c = [c] := by
  have runs : ∀ run ∈ upperRuns, run.map? c.toNat = .none := fun run member =>
    none run (List.mem_append_left _ member)
  unfold upperChar
  split
  · have large : isSmall c = false := by
      rw [Bool.eq_false_iff, ne_eq, isSmall_iff]
      rintro ⟨first, last⟩
      have unmapped := runs _ mem_smallLetters
      rw [CaseRun.map?, if_pos ⟨first, last, Nat.mod_one _⟩] at unmapped
      cases unmapped
    rw [large]
    rfl
  · have unexpanded : upperExpansions.lookup c.toNat = .none := by
      rw [List.lookup_eq_none_iff]
      intro expansion member
      rw [bne_iff_ne]
      intro same
      have unmapped := none (.single expansion.1)
        (List.mem_append_right _ (List.mem_map.2 ⟨expansion, member, rfl⟩))
      rw [same, CaseRun.map?_single] at unmapped
      cases unmapped
    rw [mapPoint, unexpanded, List.findSome?_eq_none_iff.2 runs]
    rfl

/-- A character of a point in the images is in upper case, and so is the one for no point. -/
theorem upperChar_ofNat {image : CaseRun} (member : image ∈ upperImages) {point : Nat}
    (within : (image.map? point).isSome) : upperChar (Char.ofNat point) = [Char.ofNat point] := by
  by_cases valid : point.isValidChar
  · refine upperChar_of_forall_map? ?_
    rw [toNat_ofNat valid]
    exact map?_eq_none_of_mem_upperImages member within
  · rw [Char.ofNat, dif_neg valid]
    rfl

/-- The upper-case form is the character itself, or consists of counterparts. -/
theorem exists_image_of_mem_upperChar {c d : Char} (member : d ∈ upperChar c) :
    upperChar c = [c] ∨
      ∃ image ∈ upperImages, ∃ point, (image.map? point).isSome ∧ d = Char.ofNat point := by
  have natural : ∀ run ∈ upperRuns, (0 : Int) ≤ run.first + run.shift := by decide +kernel
  have counterpart {run : CaseRun} (listed : run ∈ upperRuns) {point : Nat}
      (mapped : run.map? c.toNat = some point) (same : d = Char.ofNat point) :
      ∃ image ∈ upperImages, ∃ point, (image.map? point).isSome ∧ d = Char.ofNat point :=
    ⟨_, List.mem_append_left _ (List.mem_map_of_mem listed), point,
      CaseRun.isSome_map?_image (natural run listed) mapped, same⟩
  unfold upperChar at member ⊢
  split at member
  · next ascii =>
    rw [if_pos ascii]
    split at member
    · next small =>
      obtain ⟨first, last⟩ := isSmall_iff.1 small
      have mapped : CaseRun.map? ⟨0x61, 0x7A, 1, -32⟩ c.toNat = some (c.toNat - 0x20) :=
        CaseRun.map?_eq_some.2 ⟨⟨first, last, Nat.mod_one _⟩, by
          show Int.toNat (c.toNat + -32) = c.toNat - 0x20
          omega⟩
      exact .inr (counterpart mem_smallLetters mapped (List.mem_singleton.1 member))
    · next large => exact .inl (by rw [if_neg large])
  · next wide =>
    rw [if_neg wide]
    unfold mapPoint at member ⊢
    cases expanded : upperExpansions.lookup c.toNat with
    | some points =>
        rw [expanded] at member
        obtain ⟨point, listed, rfl⟩ := List.mem_map.1 member
        obtain ⟨front, rest, whole, -⟩ := List.lookup_eq_some_iff.1 expanded
        have among : (c.toNat, points) ∈ upperExpansions := by
          rw [whole]
          exact List.mem_append_right _ List.mem_cons_self
        refine .inr ⟨.single point, List.mem_append_right _ (List.mem_flatMap.2
          ⟨_, among, List.mem_map_of_mem listed⟩), point, ?_, rfl⟩
        rw [CaseRun.map?_single]
        rfl
    | none =>
        cases found : upperRuns.findSome? (·.map? c.toNat) with
        | some point =>
            rw [expanded, found] at member
            obtain ⟨run, listed, mapped⟩ := List.exists_of_findSome?_eq_some found
            exact .inr (counterpart listed mapped (List.mem_singleton.1 member))
        | none => exact .inl rfl

/-- The characters of an upper-case form are in upper case. -/
theorem upperChar_of_mem_upperChar {c d : Char} (member : d ∈ upperChar c) : upperChar d = [d] := by
  rcases exists_image_of_mem_upperChar member with itself | ⟨image, listed, point, within, rfl⟩
  · rw [itself, List.mem_singleton] at member
    rw [member, itself]
  · exact upperChar_ofNat listed within

/-- A text in upper case is its own upper-case form. -/
theorem upper_upper (text : String) : upper (upper text) = upper text := by
  unfold upper
  rw [String.toList_ofList, List.flatMap_assoc]
  congr 1
  refine List.flatMap_congr fun c _ => ?_
  rw [List.flatMap_congr fun d member => upperChar_of_mem_upperChar member, List.flatMap_singleton']

/-- Case aside, a text in upper case agrees with what the text itself agrees with. -/
theorem sameIgnoringCase_upper (left right : String) :
    sameIgnoringCase (upper left) right = sameIgnoringCase left right := by
  rw [sameIgnoringCase, sameIgnoringCase, upper_upper]

end ContractDictionary.Text
