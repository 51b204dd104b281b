import ContractDictionary.Proofs.Calendar.WrittenDates
import ContractDictionary.Proofs.Compile.NormalForms

/-!
# Options of members

The option of a member is written as an integer or as a text that writes one: digits, zeros in
front included, with a sign in front of them or none.  Both are read alike, whatever else the
member is written with, and with an option that is neither no member is read.  A member that is
written is read again.
-/

namespace ContractDictionary

/-- An optional sign and digits that denote the integer. -/
inductive WritesInteger (n : Int) : List Char → Prop where
  | unsigned {width size : Nat} {digits : List Char} (areDigits : AreDigits (width + 1) size digits)
      (value : n = size) : WritesInteger n digits
  | positive {width size : Nat} {digits : List Char} (areDigits : AreDigits (width + 1) size digits)
      (value : n = size) : WritesInteger n ('+' :: digits)
  | negative {width size : Nat} {digits : List Char} (areDigits : AreDigits (width + 1) size digits)
      (value : n = -size) : WritesInteger n ('-' :: digits)

theorem AreDigits.ne_nil {width size : Nat} {digits : List Char}
    (areDigits : AreDigits (width + 1) size digits) : digits ≠ [] := by
  obtain ⟨first, others, rfl, -⟩ := areDigits.exists_cons (Nat.succ_pos width)
  exact List.cons_ne_nil first others

theorem AreDigits.takeSign_eq {width size : Nat} {digits : List Char}
    (areDigits : AreDigits (width + 1) size digits) : takeSign digits = (false, digits) := by
  obtain ⟨first, others, rfl, digit⟩ := areDigits.exists_cons (Nat.succ_pos width)
  unfold takeSign
  split
  · next same =>
      cases same
      cases digit
  · next same =>
      cases same
      cases digit
  · rfl

theorem eq_of_takeSign {cs digits : List Char} {negative : Bool}
    (taken : takeSign cs = (negative, digits)) :
    if negative then cs = '-' :: digits else cs = '+' :: digits ∨ cs = digits := by
  unfold takeSign at taken
  split at taken <;> cases taken
  · rfl
  · exact .inl rfl
  · exact .inr rfl

theorem integer?_of_areDigits {cs digits : List Char} {negative : Bool} {width size : Nat}
    (taken : takeSign cs = (negative, digits)) (areDigits : AreDigits (width + 1) size digits) :
    integer? cs = some (if negative then -(size : Int) else size) := by
  have filled : digits.isEmpty = false := List.isEmpty_eq_false_iff.2 areDigits.ne_nil
  have all : digits.all Char.isDigit = true := List.all_eq_true.2 areDigits.isDigit
  simp only [integer?, taken, filled, all, areDigits.value, Bool.not_true, Bool.or_false,
    Bool.false_eq_true, if_false]

theorem exists_areDigits_of_integer? {cs digits : List Char} {negative : Bool} {n : Int}
    (taken : takeSign cs = (negative, digits)) (read : integer? cs = some n) :
    ∃ width size, AreDigits (width + 1) size digits ∧
      n = if negative then -(size : Int) else size := by
  simp only [integer?, taken] at read
  split at read
  · cases read
  · next numeral =>
      rw [Bool.not_eq_true, Bool.or_eq_false_iff, Bool.not_eq_false', List.all_eq_true] at numeral
      obtain ⟨filled, all⟩ := numeral
      have length := Nat.succ_pred_eq_of_pos
        (List.length_pos_iff.2 (List.isEmpty_eq_false_iff.1 filled))
      exact ⟨_, _, ⟨length.symm, all, rfl⟩, (Option.some.inj read).symm⟩

/-- An integer is read from the characters that write it, and from no others. -/
theorem integer?_eq_some_iff {cs : List Char} {n : Int} :
    integer? cs = some n ↔ WritesInteger n cs := by
  constructor
  · intro read
    rcases taken : takeSign cs with ⟨negative, digits⟩
    obtain ⟨width, size, areDigits, value⟩ := exists_areDigits_of_integer? taken read
    have whole := eq_of_takeSign taken
    cases negative with
    | true =>
        obtain rfl := whole
        exact .negative areDigits value
    | false =>
        obtain rfl | rfl := whole
        · exact .positive areDigits value
        · exact .unsigned areDigits value
  · rintro (⟨areDigits, rfl⟩ | ⟨areDigits, rfl⟩ | ⟨areDigits, rfl⟩)
    · exact integer?_of_areDigits areDigits.takeSign_eq areDigits
    · exact integer?_of_areDigits rfl areDigits
    · exact integer?_of_areDigits rfl areDigits

theorem AreDigits.isBlank_last {width size : Nat} {digits : List Char}
    (areDigits : AreDigits (width + 1) size digits) (front : List Char) :
    ∀ c ∈ (front ++ digits).getLast?, Text.isBlank c = false := by
  intro c last
  rw [List.getLast?_append_of_ne_nil _ areDigits.ne_nil] at last
  exact isBlank_of_isDigit (areDigits.isDigit c (List.mem_of_getLast? last))

namespace WritesInteger

variable {n : Int} {cs : List Char}

theorem isBlank_first (written : WritesInteger n cs) : ∀ c ∈ cs.head?, Text.isBlank c = false := by
  intro c first
  cases written with
  | @unsigned width _ _ areDigits _ =>
      obtain ⟨digit, others, rfl, isDigit⟩ := areDigits.exists_cons (Nat.succ_pos width)
      cases first
      exact isBlank_of_isDigit isDigit
  | positive =>
      cases first
      rfl
  | negative =>
      cases first
      rfl

theorem isBlank_last (written : WritesInteger n cs) :
    ∀ c ∈ cs.getLast?, Text.isBlank c = false := by
  cases written with
  | unsigned areDigits => exact areDigits.isBlank_last []
  | positive areDigits => exact areDigits.isBlank_last ['+']
  | negative areDigits => exact areDigits.isBlank_last ['-']

end WritesInteger

/-- An integer between white space, of which there may be none. -/
inductive WritesSpacedInteger (n : Int) : List Char → Prop where
  | spaced {front number back : List Char} (before : ∀ c ∈ front, Text.isBlank c = true)
      (written : WritesInteger n number) (after : ∀ c ∈ back, Text.isBlank c = true) :
      WritesSpacedInteger n (front ++ number ++ back)

/-- What is trimmed writes an integer if the text does with white space around it. -/
theorem writesInteger_trimChars_iff {text : String} {n : Int} :
    WritesInteger n (Text.trimChars text.toList) ↔ WritesSpacedInteger n text.toList := by
  have chars : (Text.trim text).toList = Text.trimChars text.toList := String.toList_ofList
  rw [← chars]
  constructor
  · intro written
    obtain ⟨front, back, whole, before, after⟩ := (Text.isTrimmed_trim text).surrounded
    rw [whole]
    exact .spaced before written after
  · intro spaced
    generalize whole : text.toList = cs at spaced
    obtain ⟨before, written, after⟩ := spaced
    have trims : Text.IsTrimmed text (String.ofList _) :=
      ⟨⟨_, _, by rw [String.toList_ofList]; exact whole, before, after⟩,
        by rw [String.toList_ofList]; exact written.isBlank_first,
        by rw [String.toList_ofList]; exact written.isBlank_last⟩
    rwa [trims.trim_eq, String.toList_ofList]

/-- A text denotes an ordinal if it writes one with white space around it. -/
theorem ordinal?_eq_some_iff {text : String} {n : Int} :
    ordinal? text = some n ↔ isOrdinal n = true ∧ WritesSpacedInteger n text.toList := by
  rw [ordinal?, Option.filter_eq_some_iff, integer?_eq_some_iff, writesInteger_trimChars_iff,
    and_comm]

/-! ## Values with an option -/

open Json (Tree)

/-- The value writes an integer, itself or as a text with white space around it. -/
inductive WritesOption (n : Int) : Json → Prop where
  | integer : WritesOption n (.integer n)
  | text {text : String} (spaced : WritesSpacedInteger n text.toList) : WritesOption n (.text text)

/-- An option is read from the values that write it, and from no others. -/
theorem readOrdinal_eq_ok_iff {room : Nat} {value : Json} {n : Int} :
    readOrdinal room value.toTree = .ok n ↔ isOrdinal n = true ∧ WritesOption n value := by
  constructor
  · intro read
    cases value with
    | integer m =>
        rw [Json.toTree, readOrdinal] at read
        split at read
        · next ordinal =>
            cases read
            exact ⟨ordinal, .integer⟩
        · cases read
    | text text =>
        rw [Json.toTree, readOrdinal] at read
        split at read
        · next found =>
            cases read
            obtain ⟨ordinal, spaced⟩ := ordinal?_eq_some_iff.1 found
            exact ⟨ordinal, .text spaced⟩
        · cases read
    | null | bool | real | list | record => cases read
  · rintro ⟨ordinal, _ | spaced⟩
    · exact if_pos ordinal
    · rw [Json.toTree, readOrdinal, ordinal?_eq_some_iff.2 ⟨ordinal, spaced⟩]

theorem Fields.Give.withOption {fields fields' : Fields} {member : MemberRecord} {n : Int}
    (give : fields'.Give member) (room : fields.room = fields'.room)
    (others : ∀ name ∈ memberNames, name ≠ "option" →
      fields.found.lookup name = fields'.found.lookup name)
    (option : optionField.get fields = .ok n) : fields.Give { member with option := n } := by
  have same (field : Field String) (known : field.name ∈ memberNames)
      (other : field.name ≠ "option") : field.get fields = field.get fields' := by
    rw [Field.get, Field.get, others _ known other, room]
  exact ⟨option, (same identifierField (by decide) (by decide)).trans give.identifier,
    (same nameField (by decide) (by decide)).trans give.name,
    (same acronymField (by decide) (by decide)).trans give.acronym,
    (same descriptionField (by decide) (by decide)).trans give.description⟩

/-- What a member is written with besides its option. -/
inductive MemberFrame where
  /-- The fields before the option and behind it. -/
  | named (front back : List (String × Json))
  /-- The items behind the option. -/
  | listed (rest : List Json)

namespace MemberFrame

/-- The value with an option put into the frame. -/
def fill : MemberFrame → Json → Json
  | named front back, option => .record (front ++ ("option", option) :: back)
  | listed rest, option => .list (option :: rest)

/-- The frame writes what the member is besides its option, its description being empty if none is
written. -/
inductive Writes (member : MemberRecord) : MemberFrame → Prop where
  | named {front back : List (String × Json)} {description : Option String}
      (keys : ("option" :: (front ++ back).map Prod.fst).Nodup)
      (identifier : (front ++ back).lookup "identifier" = some (.text member.identifier))
      (name : (front ++ back).lookup "name" = some (.text member.name))
      (acronym : (front ++ back).lookup "acronym" = some (.text member.acronym))
      (described : (front ++ back).lookup "description" = description.map .text)
      (default : member.description = description.getD "") : Writes member (named front back)
  | listed {description : Option String} (default : member.description = description.getD "") :
      Writes member (listed ([.text member.identifier, .text member.name, .text member.acronym] ++
        (description.map .text).toList))

section

variable {room : Nat} {front back : List (String × Json)} {option option' : Json} {n n' : Int}

theorem lookup_fill {name : String} (other : name ≠ "option") :
    (front ++ ("option", option) :: back).lookup name = (front ++ back).lookup name := by
  rw [List.lookup_append, List.lookup_append, List.lookup_cons, beq_false_of_ne other]

/-- The two options pass the same checks. -/
theorem alike_fill (read : readOrdinal room option.toTree = .ok n)
    (read' : readOrdinal room option'.toTree = .ok n') :
    List.Forall₂ (AlikeFields memberShapes room)
      (Json.fieldTrees (front ++ ("option", option) :: back))
      (Json.fieldTrees (front ++ ("option", option') :: back)) := by
  have kept (fields : List (Option String × Tree)) :
      List.Forall₂ (AlikeFields memberShapes room) fields fields :=
    List.forall₂_same.2 fun _ _ => ⟨rfl, rfl, fun _ _ _ => rfl⟩
  have changed : AlikeFields memberShapes room (some "option", option.toTree)
      (some "option", option'.toTree) := by
    refine ⟨rfl, ?_, fun shape listed named => ?_⟩
    · rw [Json.skipFault?_toTree, Json.skipFault?_toTree]
    · have own : shape = optionField.shape := by
        have found := find?_shape distinct_memberShapes listed
        rw [Option.some.inj named] at found
        exact (Option.some.inj found).symm
      rw [own]
      show (readOrdinal room option.toTree).map _ = (readOrdinal room option'.toTree).map _
      rw [read, read']
      rfl
  simp only [fieldTrees_eq_map, List.map_append, List.map_cons]
  exact List.rel_append (kept _) (.cons changed (kept _))

/-- Where a record with an option can be read, the option is found. -/
theorem lookup_option_of_canBeRead (can : CanBeRead memberShapes room
      (Json.fieldTrees (front ++ ("option", option) :: back)) none) :
    (Json.fieldTrees (front ++ ("option", option) :: back)).lookup (some "option") =
      some option.toTree := by
  have known : (memberShapes.find? (·.name == "option")).isSome = true := rfl
  have fresh : "option" ∉ front.map Prod.fst := by
    intro earlier
    have distinct := can.distinct
    rw [knownKeys, keys_fieldTrees, List.map_append, List.map_cons, List.filter_append] at distinct
    exact (List.nodup_append.1 distinct).2.2 "option" (List.mem_filter.2 ⟨earlier, known⟩) "option"
      (List.mem_filter.2 ⟨List.mem_cons_self, known⟩) rfl
  rw [lookup_fieldTrees, List.lookup_append, lookup_eq_none_of_notMem fresh, Option.none_or,
    List.lookup_cons_self]
  rfl

/-- The items behind an option are read for themselves. -/
theorem readFields_listed {rest : List Json} (read : readOrdinal room option.toTree = .ok n) :
    readFields memberShapes (room + 1) ((listed rest).fill option).toTree =
      (scanListed room none (memberShapes.drop 1) (Json.itemTrees rest)).map fun found =>
        ⟨room, ("option", option.toTree) :: found⟩ := by
  have passes : optionField.shape.check room option.toTree = .ok () := by
    show (readOrdinal room option.toTree).map _ = _
    rw [read]
    rfl
  show (do
    let found ← scanListed room none (optionField.shape :: memberShapes.drop 1)
      (option.toTree :: Json.itemTrees rest)
    return (⟨room, found⟩ : Fields)) = _
  rw [scanListed, passes]
  cases scanListed room none (memberShapes.drop 1) (Json.itemTrees rest) <;> rfl

/-- Whether fields can be read does not depend on which option is among them. -/
theorem faultOf_readFields_fill (frame : MemberFrame)
    (read : readOrdinal room option.toTree = .ok n)
    (read' : readOrdinal room option'.toTree = .ok n') :
    faultOf (readFields memberShapes (room + 1) (frame.fill option).toTree) =
      faultOf (readFields memberShapes (room + 1) (frame.fill option').toTree) := by
  cases frame with
  | named front back => exact faultOf_readFields_alike (alike_fill read read')
  | listed rest => rw [readFields_listed read, readFields_listed read', faultOf_map, faultOf_map]

theorem get_option_fill {frame : MemberFrame} {found : Fields}
    (read : readOrdinal room option.toTree = .ok n)
    (scanned : readFields memberShapes (room + 1) (frame.fill option).toTree = .ok found) :
    optionField.get found = .ok n := by
  cases frame with
  | named front back =>
      obtain ⟨can, finds⟩ := finds_of_readFields scanned
      rw [finds.get_eq (by simp [memberShapes, optionField]) (lookup_option_of_canBeRead can)]
      exact read
  | listed rest =>
      rw [readFields_listed read] at scanned
      obtain ⟨items, -, rfl⟩ := map_eq_ok.1 scanned
      exact read

/-- What is read besides the option is the same with any option. -/
theorem lookup_of_readFields_fill {frame : MemberFrame} {found found' : Fields}
    (read : readOrdinal room option.toTree = .ok n)
    (read' : readOrdinal room option'.toTree = .ok n')
    (scanned : readFields memberShapes (room + 1) (frame.fill option).toTree = .ok found)
    (scanned' : readFields memberShapes (room + 1) (frame.fill option').toTree = .ok found') :
    found.room = found'.room ∧ ∀ name ∈ memberNames, name ≠ "option" →
      found.found.lookup name = found'.found.lookup name := by
  cases frame with
  | named front back =>
      obtain ⟨-, finds⟩ := finds_of_readFields scanned
      obtain ⟨-, finds'⟩ := finds_of_readFields scanned'
      refine ⟨finds.room_eq.trans finds'.room_eq.symm, fun name known other => ?_⟩
      have shaped : name ∈ memberShapes.map FieldShape.name := known
      obtain ⟨shape, listed, rfl⟩ := List.mem_map.1 shaped
      rw [finds.lookup shape listed, finds'.lookup shape listed, lookup_fieldTrees,
        lookup_fieldTrees, lookup_fill other, lookup_fill other]
  | listed rest =>
      rw [readFields_listed read] at scanned
      rw [readFields_listed read'] at scanned'
      obtain ⟨items, all, rfl⟩ := map_eq_ok.1 scanned
      obtain ⟨_, all', rfl⟩ := map_eq_ok.1 scanned'
      cases all.symm.trans all'
      refine ⟨rfl, fun name _ other => ?_⟩
      rw [List.lookup_cons, List.lookup_cons, beq_false_of_ne other]

end

/-- A value is read with any option as with another one, but for the option itself. -/
theorem ofJson_fill (frame : MemberFrame) {option option' : Json} {n n' : Int}
    (ordinal : isOrdinal n = true) (written : WritesOption n option)
    (ordinal' : isOrdinal n' = true) (written' : WritesOption n' option') :
    MemberRecord.ofJson (frame.fill option) =
      (MemberRecord.ofJson (frame.fill option')).map fun member => { member with option := n } := by
  have read : readOrdinal 126 option.toTree = .ok n := readOrdinal_eq_ok_iff.2 ⟨ordinal, written⟩
  have read' : readOrdinal 126 option'.toTree = .ok n' :=
    readOrdinal_eq_ok_iff.2 ⟨ordinal', written'⟩
  -- Either both are read or neither is, so only the members that are read have to be compared.
  have faults : faultOf (MemberRecord.ofJson (frame.fill option)) =
      faultOf (MemberRecord.ofJson (frame.fill option')) := by
    rw [MemberRecord.ofJson, MemberRecord.ofJson, faultOf_readMember, faultOf_readMember]
    exact faultOf_readFields_fill frame read read'
  cases decoded : MemberRecord.ofJson (frame.fill option') with
  | error fault =>
      rw [decoded] at faults
      exact faultOf_eq_some.1 faults
  | ok member =>
      rw [decoded] at faults
      obtain ⟨other, decoded'⟩ := faultOf_eq_none.1 faults
      obtain ⟨found, scanned, -⟩ := readMember_eq_ok_iff.1 decoded'
      obtain ⟨found', scanned', give⟩ := readMember_eq_ok_iff.1 decoded
      obtain ⟨room, others⟩ := lookup_of_readFields_fill read read' scanned scanned'
      exact readMember_eq_ok_iff.2
        ⟨found, scanned, give.withOption room others (get_option_fill read scanned)⟩

theorem writesOption_of_ofJson {frame : MemberFrame} {option : Json} {member : MemberRecord}
    (decoded : MemberRecord.ofJson (frame.fill option) = .ok member) :
    ∃ n, isOrdinal n = true ∧ WritesOption n option := by
  obtain ⟨found, scanned, -⟩ := readMember_eq_ok_iff.1 decoded
  suffices passes : optionField.shape.check 126 option.toTree = .ok () by
    obtain ⟨n, read, -⟩ := map_eq_ok.1 passes
    exact ⟨n, readOrdinal_eq_ok_iff.1 read⟩
  cases frame with
  | named front back =>
      obtain ⟨can, -⟩ := finds_of_readFields scanned
      refine passes_some_iff.1 (can.passes (some "option", option.toTree) ?_)
      rw [fieldTrees_eq_map]
      exact List.mem_map.2 ⟨("option", option), by simp, rfl⟩
  | listed rest =>
      obtain ⟨_, scanned, -⟩ := bind_eq_ok.1 scanned
      obtain ⟨_, passes, -⟩ := bind_eq_ok.1 scanned
      exact passes

/-- The items of a member are read in the order of its fields. -/
theorem ofJson_memberItems {option : Int} (ordinal : isOrdinal option = true)
    (identifier name acronym : String) (description : Option String) :
    MemberRecord.ofJson (.list (.integer option ::
        ([.text identifier, .text name, .text acronym] ++ (description.map .text).toList))) =
      .ok ⟨option, identifier, name, acronym, description.getD ""⟩ := by
  have read : readOrdinal 126 (Json.integer option).toTree = .ok option := if_pos ordinal
  let found : List (String × Tree) :=
    [("identifier", .text (some identifier)), ("name", .text (some name)),
      ("acronym", .text (some acronym))] ++
        (description.map fun text => ("description", Tree.text (some text))).toList
  have scanned : scanListed 126 none (memberShapes.drop 1) (Json.itemTrees
      ([.text identifier, .text name, .text acronym] ++ (description.map .text).toList)) =
        .ok found := by
    cases description <;> rfl
  refine readMember_eq_ok_iff.2
    ⟨⟨126, ("option", (Json.integer option).toTree) :: found⟩, ?_, ?_⟩
  · exact (readFields_listed read).trans (congrArg (Except.map _) scanned)
  · constructor
    case option => exact read
    case description => cases description <;> rfl
    all_goals rfl

/-- A value with the fields of a member in any order and among others is the member. -/
theorem Writes.ofJson_fill_integer {frame : MemberFrame} {member : MemberRecord}
    (written : frame.Writes member) {n : Int} (ordinal : isOrdinal n = true) :
    MemberRecord.ofJson (frame.fill (.integer n)) = .ok { member with option := n } := by
  cases written with
  | @named front back description keys identifier name acronym described default =>
      have distinct : ((front ++ ("option", .integer n) :: back).map Prod.fst).Nodup := by
        rw [List.map_append, List.map_cons, List.nodup_middle, ← List.map_append]
        exact keys
      have other (name : String) (differs : name ≠ "option") :
          (front ++ ("option", .integer n) :: back).lookup name = (front ++ back).lookup name :=
        lookup_fill differs
      refine WritesMember.ofJson_eq_ok ⟨distinct, ?_, ?_, ?_, ?_, ?_⟩ ordinal
      · exact lookup_of_mem distinct (List.mem_append_right front List.mem_cons_self)
      · exact (other _ (by decide)).trans identifier
      · exact (other _ (by decide)).trans name
      · exact (other _ (by decide)).trans acronym
      · rw [other _ (by decide), described]
        dsimp only
        rw [default]
        cases description with
        | none => exact .inr ⟨rfl, rfl⟩
        | some text => exact .inl rfl
  | @listed description default =>
      rw [default]
      exact ofJson_memberItems ordinal _ _ _ _

end MemberFrame

theorem isOrdinal_iff {n : Int} : isOrdinal n = true ↔ ∃ word : Int64, n = word.toInt := by
  constructor
  · intro ordinal
    rw [isOrdinal, Bool.and_eq_true, decide_eq_true_iff, decide_eq_true_iff] at ordinal
    exact ⟨.ofInt n, (Int64.toInt_ofInt_of_le ordinal.1 (by omega)).symm⟩
  · rintro ⟨word, rfl⟩
    exact isOrdinal_toInt word

/--
An option that is a signed 64-bit word, written as an integer or as a text, is read as the word and
leaves the rest of a member as it is; with any other value in its place no member is read.  What is
written of a member is read as the member.
-/
theorem members_of_options :
    (∀ (frame : MemberFrame) (option : Json) (n : Int64), WritesOption n.toInt option →
      MemberRecord.ofJson (frame.fill option) =
        (MemberRecord.ofJson (frame.fill (.integer 0))).map (fun member =>
          { member with option := n.toInt }) ∧
      ∀ member, frame.Writes member →
        MemberRecord.ofJson (frame.fill option) = .ok { member with option := n.toInt }) ∧
    (∀ (frame : MemberFrame) (option : Json), (∀ n : Int64, ¬WritesOption n.toInt option) →
      ∃ fault, MemberRecord.ofJson (frame.fill option) = .error fault) ∧
    ∀ (member : MemberRecord) (n : Int64), member.option = n.toInt →
      MemberRecord.ofJson member.toJson = .ok member := by
  refine ⟨fun frame option n written => ?_, fun frame option none => ?_, fun member n word => ?_⟩
  · have alike := frame.ofJson_fill (isOrdinal_toInt n) written (isOrdinal_toInt 0) .integer
    refine ⟨alike, fun member inFrame => ?_⟩
    rw [alike]
    exact map_eq_ok.2 ⟨_, inFrame.ofJson_fill_integer (isOrdinal_toInt 0), rfl⟩
  · cases decoded : MemberRecord.ofJson (frame.fill option) with
    | error fault => exact ⟨fault, rfl⟩
    | ok member =>
        obtain ⟨n, ordinal, written⟩ := MemberFrame.writesOption_of_ofJson decoded
        obtain ⟨word, rfl⟩ := isOrdinal_iff.1 ordinal
        exact absurd written (none word)
  · exact ofJson_toJson (word ▸ isOrdinal_toInt n)

def plainMember : MemberRecord :=
  ⟨7, "paying", "Paying side", "PAY", ""⟩

/-- A record of the member with a further field, and with its option in the middle. -/
def plainRecord : MemberFrame :=
  .named [("note", .null), ("acronym", .text "PAY")]
    [("identifier", .text "paying"), ("name", .text "Paying side")]

theorem members_of_paddedOptions :
    plainRecord.Writes plainMember ∧
      WritesOption (-9223372036854775808) (.text "\u2003-09223372036854775808\n") ∧
      WritesOption 7 (.text "+007") ∧
      MemberRecord.ofJson (plainRecord.fill (.text "\u2003-09223372036854775808\n")) =
        .ok { plainMember with option := -9223372036854775808 } ∧
      MemberRecord.ofJson
          (.list [.text "+007", .text "paying", .text "Paying side", .text "PAY"]) =
        .ok plainMember ∧
      (∃ fault, MemberRecord.ofJson (plainRecord.fill (.text "9223372036854775808")) =
        .error fault) ∧
      MemberRecord.ofJson plainMember.toJson = .ok plainMember := by
  have record : plainRecord.Writes plainMember := by
    refine @MemberFrame.Writes.named plainMember _ _ none ?_ rfl rfl rfl rfl rfl
    decide
  have list : (MemberFrame.listed [.text "paying", .text "Paying side", .text "PAY"]).Writes
      plainMember := @MemberFrame.Writes.listed plainMember none rfl
  have least : WritesOption (-9223372036854775808) (.text "\u2003-09223372036854775808\n") :=
    .text (ordinal?_eq_some_iff.1 (by decide +kernel)).2
  have seven : WritesOption 7 (.text "+007") :=
    .text (ordinal?_eq_some_iff.1 (by decide +kernel)).2
  have beyond (n : Int64) : ¬WritesOption n.toInt (.text "9223372036854775808") := by
    rintro (_ | spaced)
    have read := ordinal?_eq_some_iff.2 ⟨isOrdinal_toInt n, spaced⟩
    have unread : ordinal? "9223372036854775808" = none := by decide +kernel
    cases unread.symm.trans read
  refine ⟨record, least, seven, ?_, ?_, ?_, ?_⟩
  · exact (members_of_options.1 _ _ (-9223372036854775808) least).2 _ record
  · exact (members_of_options.1 _ _ 7 seven).2 _ list
  · exact members_of_options.2.1 _ _ beyond
  · exact members_of_options.2.2 _ 7 rfl

end ContractDictionary
