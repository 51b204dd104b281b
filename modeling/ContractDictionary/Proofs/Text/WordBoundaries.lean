import ContractDictionary.Proofs.Text.Case
import ContractDictionary.Text.Words

/-!
# Word boundaries

Separators are put into a name by two passes over it, each of which takes its matches from left to
right without overlap.  A match of the first pass may take away the character that the next one
needs; the second pass then finds the boundary.  Together the passes follow a rule that looks at no
more than a capital and its two neighbours.
-/

namespace ContractDictionary.Text

/--
A word begins at the position: there is a capital, not at the front, behind a small letter or a
digit, or before a small letter and not behind a line feed.
-/
def BeginsWord (cs : List Char) (position : Nat) : Prop :=
  0 < position ∧ cs[position]?.any isCapital ∧
    (cs[position - 1]?.any (fun c => isSmall c || isDigit c) ∨
      cs[position - 1]?.any (· ≠ '\n') ∧ cs[position + 1]?.any isSmall)

instance (cs : List Char) (position : Nat) : Decidable (BeginsWord cs position) :=
  inferInstanceAs (Decidable (_ ∧ _))

/-- The characters with the separator directly before those at which a word begins. -/
def spaceWords (separator cs : List Char) : List Char :=
  (cs.mapIdx fun position c =>
    if BeginsWord cs position then separator ++ [c] else [c]).flatten

/-- A capital behind `before` ends a run of small letters or digits. -/
def endsRun (before c : Char) (_ : Option Char) : Bool :=
  (isSmall before || isDigit before) && isCapital c

def beginsBetween (before c : Char) (next : Option Char) : Bool :=
  isCapital c && (isSmall before || isDigit before || before ≠ '\n' && next.any isSmall)

/-- The characters behind `before`, with the separator where the rule asks for it. -/
def spaceAfter (rule : Char → Char → Option Char → Bool) (separator : List Char)
    (before : Char) : List Char → List Char
  | [] => []
  | c :: rest =>
      (if rule before c rest.head? then separator else []) ++
        c :: spaceAfter rule separator c rest

theorem beginsWord_append_iff (front : List Char) (before c : Char) (rest : List Char) :
    BeginsWord (front ++ before :: c :: rest) (front.length + 1) ↔
      beginsBetween before c rest.head? = true := by
  have own : (front ++ before :: c :: rest)[front.length + 1]? = some c := by simp
  have previous : (front ++ before :: c :: rest)[front.length + 1 - 1]? = some before := by simp
  have next : (front ++ before :: c :: rest)[front.length + 1 + 1]? = rest.head? := by
    rw [Nat.add_assoc, List.getElem?_append_right (Nat.le_add_right _ _), Nat.add_sub_cancel_left]
    exact List.head?_eq_getElem?.symm
  rw [BeginsWord, own, previous, next, beginsBetween]
  simp

/-- The rule for positions, followed along the characters. -/
theorem flatten_mapIdx_append (separator front : List Char) (before : Char) (rest : List Char) :
    (rest.mapIdx fun position c =>
        if BeginsWord (front ++ before :: rest) (position + (front.length + 1)) then
          separator ++ [c] else [c]).flatten =
      spaceAfter beginsBetween separator before rest := by
  induction rest generalizing front before with
  | nil => rfl
  | cons c rest ih =>
      have later := ih (front ++ [before]) c
      rw [List.length_append, List.length_singleton, List.append_assoc] at later
      rw [List.mapIdx_cons, List.flatten_cons, Nat.zero_add]
      simp only [Nat.add_right_comm _ 1, beginsWord_append_iff]
      rw [show front ++ before :: c :: rest = front ++ ([before] ++ c :: rest) from rfl]
      rw [spaceAfter, ← later]
      split <;> simp [Nat.add_assoc]

theorem spaceWords_cons (separator : List Char) (c : Char) (rest : List Char) :
    spaceWords separator (c :: rest) = c :: spaceAfter beginsBetween separator c rest := by
  have first : ¬ BeginsWord (c :: rest) 0 := fun begins => absurd begins.1 (Nat.lt_irrefl 0)
  rw [spaceWords, List.mapIdx_cons, List.flatten_cons, if_neg first,
    ← flatten_mapIdx_append separator [] c rest]
  rfl

theorem pieces_cons {c : Char} (plain : c ≠ '$') (rest : List Char) :
    pieces (c :: rest) = .literal c :: pieces rest := by
  rw [pieces]
  all_goals intros; exact absurd ‹_› (by simp_all)

theorem pieces_append {cs : List Char} (noDollar : '$' ∉ cs) (rest : List Char) :
    pieces (cs ++ rest) = cs.map Piece.literal ++ pieces rest := by
  induction cs with
  | nil => rfl
  | cons c cs ih =>
      rw [List.mem_cons, not_or] at noDollar
      rw [List.cons_append, pieces_cons (Ne.symm noDollar.1), ih noDollar.2]
      rfl

/-- A separator without dollar signs stands between the two groups as it is. -/
theorem separatorPattern_eq {separator : List Char} (noDollar : '$' ∉ separator) :
    separatorPattern separator =
      .group 1 :: (separator.map Piece.literal ++ [.group 2]) := by
  have first (rest : List Char) :
      pieces ('$' :: '{' :: '1' :: '}' :: rest) = .group 1 :: pieces rest := by
    rw [pieces, if_pos (by simp)]
    rfl
  have second : pieces ['$', '{', '2', '}'] = [.group 2] := by
    rw [pieces, if_pos (by simp)]
    simp
    rfl
  show pieces ('$' :: '{' :: '1' :: '}' :: (separator ++ ['$', '{', '2', '}'])) = _
  rw [first, pieces_append noDollar, second]

theorem fill_literals (groups : List (List Char)) (cs : List Char) :
    fill groups (cs.map Piece.literal) = cs := by
  rw [fill, List.flatMap_map]
  exact List.flatMap_singleton' cs

/-- What takes the place of a match: its two groups with the separator between them. -/
theorem fill_separatorPattern {separator : List Char} (noDollar : '$' ∉ separator)
    (whole first second : List Char) :
    fill [whole, first, second] (separatorPattern separator) = first ++ (separator ++ second) := by
  have between := fill_literals [whole, first, second] separator
  unfold fill at between
  rw [separatorPattern_eq noDollar, fill, List.flatMap_cons, List.flatMap_append, between,
    List.flatMap_singleton]
  rfl

theorem isCapital_of_endsRun {before c : Char} {next : Option Char}
    (ends : endsRun before c next = true) : isCapital c = true :=
  (Bool.and_eq_true_iff.1 ends).2

theorem isCapital_of_beginsBetween {before c : Char} {next : Option Char}
    (begins : beginsBetween before c next = true) : isCapital c = true :=
  (Bool.and_eq_true_iff.1 begins).1

/-- Nothing is put before characters that are no capitals. -/
theorem spaceAfter_append {rule : Char → Char → Option Char → Bool}
    (capitals : ∀ before c next, rule before c next = true → isCapital c = true)
    {run : List Char} (plain : ∀ c ∈ run, isCapital c = false) (separator : List Char)
    (before : Char) (rest : List Char) :
    spaceAfter rule separator before (run ++ rest) =
      run ++ spaceAfter rule separator (run.getLastD before) rest := by
  induction run generalizing before with
  | nil => rfl
  | cons c run ih =>
      have none : ¬ rule before c (run ++ rest).head? = true := by
        intro asked
        have capital := capitals _ _ _ asked
        rw [plain c List.mem_cons_self] at capital
        cases capital
      rw [List.cons_append, spaceAfter, if_neg none,
        ih (fun other later => plain other (List.mem_cons_of_mem _ later)), List.getLastD_cons]
      rfl

variable {separator : List Char}

/-- A pair of the second pass ends in a capital, so no other pair begins there. -/
theorem separateCapitals_cons (noDollar : '$' ∉ separator) (c : Char) (rest : List Char) :
    separateCapitals (separatorPattern separator) 0 (c :: rest) =
      c :: spaceAfter endsRun separator c rest := by
  match rest with
  | [] => rfl
  | next :: rest =>
      have onward : separateCapitals (separatorPattern separator) 0 (next :: rest) =
          next :: spaceAfter endsRun separator next rest :=
        separateCapitals_cons noDollar next rest
      rw [separateCapitals, spaceAfter, endsRun]
      split
      · next pair =>
          have behind : separateCapitals (separatorPattern separator) 1 (next :: rest) =
              spaceAfter endsRun separator next rest := by
            match rest with
            | [] => rfl
            | other :: rest =>
                have apart := isSmall_or_isDigit_of_isCapital (Bool.and_eq_true_iff.1 pair).2
                rw [spaceAfter, endsRun, apart]
                exact separateCapitals_cons noDollar other rest
          rw [fill_separatorPattern noDollar, behind]
          simp
      · rw [onward]
        rfl

theorem separateWords_skip (pattern : List Piece) (word rest : List Char) :
    separateWords pattern word.length (word ++ rest) = separateWords pattern 0 rest := by
  induction word with
  | nil => rfl
  | cons c word ih => exact ih

theorem startsWord_cons (c : Char) (rest : List Char) :
    startsWord (c :: rest) = (isCapital c && rest.head?.any isSmall) := by
  cases rest with
  | nil => simp [startsWord]
  | cons next rest => rfl

/-- A match of the first pass: a character, a capital and all the small letters behind it. -/
theorem separateWords_of_startsWord (noDollar : '$' ∉ separator) {c first : Char}
    {rest : List Char} (within : c ≠ '\n') (starts : startsWord (first :: rest) = true) :
    ∃ word later, rest = word ++ later ∧ word ≠ [] ∧ (∀ c ∈ word, isSmall c = true) ∧
      separateWords (separatorPattern separator) 0 (c :: first :: rest) =
        c :: (separator ++ first :: (word ++
          separateWords (separatorPattern separator) 0 later)) := by
  have small : rest.head?.any isSmall = true := by
    rw [startsWord_cons] at starts
    exact (Bool.and_eq_true_iff.1 starts).2
  have nonempty : rest.takeWhile isSmall ≠ [] := by
    cases rest with
    | nil => cases small
    | cons second rest =>
        have taken : isSmall second = true := small
        rw [List.takeWhile_cons_of_pos taken]
        exact List.cons_ne_nil _ _
  have skipped := separateWords_skip (separatorPattern separator)
    (first :: rest.takeWhile isSmall) (rest.dropWhile isSmall)
  rw [List.cons_append, List.takeWhile_append_dropWhile] at skipped
  refine ⟨rest.takeWhile isSmall, rest.dropWhile isSmall, ?_, nonempty,
    List.all_eq_true.1 List.all_takeWhile, ?_⟩
  · rw [List.takeWhile_append_dropWhile]
  · rw [separateWords, if_pos ⟨within, starts⟩]
    show fill [_, [c], first :: rest.takeWhile isSmall] _ ++
      separateWords _ (first :: rest.takeWhile isSmall).length _ = _
    rw [fill_separatorPattern noDollar, skipped]
    simp

/-- The separator holds nothing that a pass looks at, and no reference. -/
structure IsNeutral (separator : List Char) : Prop where
  noDollar : '$' ∉ separator
  noLetter : ∀ c ∈ separator, isCapital c = false ∧ isSmall c = false ∧ isDigit c = false

/-- Behind a separator the second pass puts nothing, and within it neither. -/
theorem spaceAfter_separator (neutral : IsNeutral separator) (before first : Char)
    (rest : List Char) :
    spaceAfter endsRun separator before (separator ++ first :: rest) =
      separator ++ first :: spaceAfter endsRun separator first rest := by
  by_cases empty : separator = []
  · subst empty
    rw [List.nil_append, spaceAfter, ite_self, List.nil_append]
  · have plain : ∀ c ∈ separator, isCapital c = false := fun c member =>
      (neutral.noLetter c member).1
    have last : ∀ next, ¬ endsRun (separator.getLastD before) first next = true := by
      intro next
      obtain ⟨-, small, digit⟩ := neutral.noLetter _ (List.getLast_mem empty)
      rw [List.getLastD_eq_getLast?, List.getLast?_eq_some_getLast empty, Option.getD_some,
        endsRun, small, digit]
      exact Bool.false_ne_true
    rw [spaceAfter_append (fun _ _ _ => isCapital_of_endsRun) plain, spaceAfter, if_neg (last _)]
    rfl

theorem exists_separateWords_cons (noDollar : '$' ∉ separator) (c : Char) (rest : List Char) :
    ∃ later, separateWords (separatorPattern separator) 0 (c :: rest) = c :: later := by
  rw [separateWords]
  split
  · dsimp only
    rw [fill_separatorPattern noDollar]
    exact ⟨_, rfl⟩
  · exact ⟨_, rfl⟩

/-- The second pass goes on by the rule where a character begins a word only as its end of run. -/
theorem spaceAfter_separateWords (noDollar : '$' ∉ separator) {before : Char} {cs : List Char}
    (onward : ∀ c rest, cs = c :: rest →
      separateCapitals (separatorPattern separator) 0
          (separateWords (separatorPattern separator) 0 (c :: rest)) =
        c :: spaceAfter beginsBetween separator c rest)
    (same : ∀ c rest, cs = c :: rest → ∀ next,
      endsRun before c next = beginsBetween before c rest.head?) :
    spaceAfter endsRun separator before (separateWords (separatorPattern separator) 0 cs) =
      spaceAfter beginsBetween separator before cs := by
  match cs with
  | [] => rfl
  | c :: rest =>
      obtain ⟨later, words⟩ := exists_separateWords_cons noDollar c rest
      have whole := onward c rest rfl
      rw [words, separateCapitals_cons noDollar] at whole
      rw [words, spaceAfter, spaceAfter, same c rest rfl, whole]

theorem beginsBetween_eq (before c : Char) (rest : List Char) (next : Option Char) :
    beginsBetween before c rest.head? =
      (endsRun before c next || (before ≠ '\n' && startsWord (c :: rest))) := by
  rw [startsWord_cons, beginsBetween, endsRun]
  cases isCapital c <;> simp

/-- The two passes together put separators where words begin by the rule, and nowhere else. -/
theorem separateCapitals_separateWords (neutral : IsNeutral separator) (c : Char)
    (rest : List Char) :
    separateCapitals (separatorPattern separator) 0
        (separateWords (separatorPattern separator) 0 (c :: rest)) =
      c :: spaceAfter beginsBetween separator c rest := by
  have noDollar := neutral.noDollar
  by_cases matched : c ≠ '\n' ∧ startsWord rest = true
  · match rest with
    | first :: rest =>
        obtain ⟨word, later, whole, nonempty, small, words⟩ :=
          separateWords_of_startsWord noDollar matched.1 matched.2
        have plain : ∀ c ∈ word, isCapital c = false := fun c member =>
          isCapital_of_isSmall (small c member)
        have begins : beginsBetween c first rest.head? = true := by
          rw [beginsBetween_eq c first rest none, matched.2]
          simp [matched.1]
        -- What the match takes away from the next one is a small letter, behind which every
        -- capital begins a word by either rule.
        have last : isSmall (word.getLastD first) = true := by
          rw [List.getLastD_eq_getLast?, List.getLast?_eq_some_getLast nonempty]
          exact small _ (List.getLast_mem nonempty)
        have onward : spaceAfter endsRun separator (word.getLastD first)
            (separateWords (separatorPattern separator) 0 later) =
              spaceAfter beginsBetween separator (word.getLastD first) later := by
          refine spaceAfter_separateWords noDollar
            (fun next after split => separateCapitals_separateWords neutral next after) ?_
          intro next after split other
          rw [endsRun, beginsBetween, last, Bool.true_or, Bool.true_or, Bool.and_comm]
        rw [words, separateCapitals_cons noDollar, spaceAfter_separator neutral, spaceAfter,
          if_pos begins, whole, spaceAfter_append (fun _ _ _ => isCapital_of_endsRun) plain,
          spaceAfter_append (fun _ _ _ => isCapital_of_beginsBetween) plain, onward]
  · rw [separateWords, if_neg matched, separateCapitals_cons noDollar]
    refine congrArg (c :: ·) (spaceAfter_separateWords noDollar
      (fun next after split => separateCapitals_separateWords neutral next after) ?_)
    rintro next after rfl other
    rw [beginsBetween_eq c next after other]
    simp only [ne_eq, not_and, Bool.not_eq_true] at matched
    by_cases feed : c = '\n'
    · simp [feed]
    · simp [matched feed]
termination_by rest.length
decreasing_by
  · rw [whole, split]
    simp
    omega
  · rw [split]
    simp

/--
A name has its words in lower case, with the separator directly before each character at which a
word begins by the rule, as long as the separator holds no ASCII letter, digit or dollar sign.
-/
theorem separated_eq_lower_spaceWords {separator : String} (neutral : IsNeutral separator.toList)
    (name : String) :
    separated separator name =
      lower (String.ofList (spaceWords separator.toList name.toList)) := by
  rw [separated, separateChars]
  cases name.toList with
  | nil => rfl
  | cons c rest =>
      rw [separateCapitals_separateWords neutral, spaceWords_cons]

/-- A match takes away the letter before the next word, and no word begins behind a line feed. -/
theorem separated_sharedLetter :
    IsNeutral "--".toList ∧
      separated "--" "AaBbCc9D\nEe" = "aa--bb--cc9--d\nee" ∧
      lower (String.ofList (spaceWords "--".toList "AaBbCc9D\nEe".toList)) =
        "aa--bb--cc9--d\nee" := by
  have neutral : IsNeutral "--".toList :=
    ⟨by decide +kernel, List.forall_mem_cons.2 ⟨by decide, List.forall_mem_singleton.2 (by decide)⟩⟩
  have ruled : lower (String.ofList (spaceWords "--".toList "AaBbCc9D\nEe".toList)) =
      "aa--bb--cc9--d\nee" := by decide +kernel
  exact ⟨neutral, (separated_eq_lower_spaceWords neutral _).trans ruled, ruled⟩

end ContractDictionary.Text
