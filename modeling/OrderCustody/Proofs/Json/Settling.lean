import OrderCustody.Proofs.Json.Following

namespace OrderCustody.Json

/-!
# Records follow the values behind their names

What a record takes from an object depends on nothing but the values that stand behind
each of its members' names: there has to be one, or none for a member with a fallback.
The order of members does not matter, nor does what stands behind other names.  From a
list each member takes the value in its own place.
-/

/-! ## Objects -/

/-- The members of an object in their order. -/
abbrev Written := List (Option String × Tree)

/-- The values that stand behind a name. -/
def Written.behind (name : String) (written : Written) : List Tree :=
  written.filterMap fun (other, tree) => if other = some name then some tree else none

/-- Whether all names are texts. -/
def Written.named (written : Written) : Bool :=
  written.all (·.1.isSome)

/-- What a member comes to, from what has been read of it and what is still to come. -/
def Member.settle (member : Member) :
    (value : Option member.Value) → (behind : List Tree) → Option member.Value
  | none, [] => member.fallback
  | none, [tree] => member.read.taken tree
  | some value, [] => some value
  | _, _ => none

/-- What a row comes to with what is still to come. -/
def Row.settle (written : Written) :
    (members : List Member) → Row members → Option (Values members)
  | [], _ => some ()
  | member :: members, (value, row) =>
      (member.settle value (written.behind member.name)).bind fun value =>
        (Row.settle written members row).map fun values => (value, values)

/-- Whether each member's reader sees nothing but the value. -/
def Faithful (members : List Member) : Prop :=
  ∀ member ∈ members, Takes member.read member.read.taken

theorem Written.behind_cons_of_ne
    {name other : String}
    (different : other ≠ name)
    (tree : Tree)
    (written : Written) :
    Written.behind name ((some other, tree) :: written) = written.behind name := by
  have noMatch : some other ≠ some name := fun same => different (Option.some.inj same)
  simp only [Written.behind, List.filterMap_cons, noMatch, ↓reduceIte]

theorem Written.behind_cons_self
    (name : String)
    (tree : Tree)
    (written : Written) :
    Written.behind name ((some name, tree) :: written) = tree :: written.behind name := by
  simp only [Written.behind, List.filterMap_cons, ↓reduceIte]

/-- What stands behind other names does not matter. -/
theorem Row.settle_congr
    {written other : Written}
    {members : List Member}
    (row : Row members)
    (same : ∀ name ∈ members.map Member.name, written.behind name = other.behind name) :
    row.settle written members = row.settle other members := by
  induction members with
  | nil => rfl
  | cons member members inductionHypothesis =>
      obtain ⟨value, row⟩ := row
      have rest := inductionHypothesis row fun name inRest =>
        same name (List.mem_cons_of_mem _ inRest)
      simp only [Row.settle, same member.name List.mem_cons_self, rest]

theorem Row.settle_cons_of_not_mem
    {name : String}
    {members : List Member}
    (unknown : name ∉ members.map Member.name)
    (tree : Tree)
    (written : Written)
    (row : Row members) :
    row.settle ((some name, tree) :: written) members = row.settle written members := by
  refine row.settle_congr fun other known => ?_
  have different : name ≠ other := by
    rintro rfl
    exact unknown known
  exact Written.behind_cons_of_ne different tree written

theorem Row.settle_nil
    {members : List Member}
    (row : Row members) :
    row.settle [] members = (row.complete members).toOption := by
  induction members with
  | nil => rfl
  | cons member members inductionHypothesis =>
      obtain ⟨value, row⟩ := row
      have settled :
          member.settle value [] = (value <|> member.fallback) := by
        cases value <;> rfl
      have nothing : Written.behind member.name [] = [] := rfl
      rw [Row.settle, nothing, settled, inductionHypothesis]
      cases value with
      | some value =>
          simp only [Row.complete, Option.orElse_eq_orElse, Option.orElse_some,
            Option.bind_some]
          cases row.complete members <;> rfl
      | none =>
          cases fallback : member.fallback with
          | none =>
              simp only [Row.complete, Option.orElse_eq_orElse, Option.orElse_none,
                fallback]
              rfl
          | some value =>
              simp only [Row.complete, Option.orElse_eq_orElse, Option.orElse_none,
                fallback, Option.bind_some]
              cases row.complete members <;> rfl

/-- A name that no member has is not read for any. -/
theorem Row.readMember_of_not_mem
    {name : String}
    {members : List Member}
    (unknown : name ∉ members.map Member.name)
    (row : Row members)
    (bytes : Bytes) :
    row.readMember name members bytes = none := by
  induction members with
  | nil => rfl
  | cons member members inductionHypothesis =>
      obtain ⟨value, row⟩ := row
      obtain ⟨other, unknownRest⟩ := not_or.mp (mt List.mem_cons.mpr unknown)
      simp only [Row.readMember, other, ↓reduceIte, inductionHypothesis unknownRest row,
        Option.map_none]

/-- What it means for a row to be read on with one more value: what it comes to after it
is what it came to with the value still to come. -/
def Row.ReadOn
    {members : List Member}
    (row : Row members)
    (name : String)
    (tree : Tree)
    (rest : Bytes)
    (read : Except Cause (Row members × Bytes)) : Prop :=
  ∃ filled : Option (Row members),
    read.toOption = filled.map (fun row => (row, rest)) ∧
      ∀ written : Written,
        row.settle ((some name, tree) :: written) members =
          filled.bind fun row => row.settle written members

/-- The value is read where its member stands, unless one was read there before. -/
theorem Row.readMember_here
    {member : Member}
    {members : List Member}
    (takes : Takes member.read member.read.taken)
    (fresh : member.name ∉ members.map Member.name)
    (row : Row (member :: members))
    {before after bytes rest : Bytes}
    {tree : Tree}
    (blanksBefore : Blanks before)
    (blanksAfter : Blanks after)
    (spelled : Spelled (.value tree) bytes)
    (ended : Ended rest) :
    ∃ read,
      row.readMember member.name (member :: members)
            (before ++ ascii ':' :: (after ++ (bytes ++ rest))) = some read ∧
        row.ReadOn member.name tree rest read := by
  obtain ⟨value, row⟩ := row
  have others (written : Written) :
      row.settle ((some member.name, tree) :: written) members =
        row.settle written members :=
    row.settle_cons_of_not_mem fresh tree written
  cases value with
  | some value =>
      refine ⟨.error (.duplicateMember member.name), ?_, none, rfl, fun written => ?_⟩
      · simp only [Row.readMember, ↓reduceIte]
      · rw [Row.settle, Written.behind_cons_self]
        rfl
  | none =>
      have taken := takes.read spelled blanksAfter ended
      refine ⟨_, by simp only [Row.readMember, ↓reduceIte]; rfl,
        (member.read.taken tree).map fun value => (some value, row), ?_,
        fun written => ?_⟩
      · rw [colon_append blanksBefore]
        refine (toOption_bind (member.read (after ++ (bytes ++ rest))) _).trans ?_
        rw [taken]
        cases member.read.taken tree <;> rfl
      · rw [Row.settle, Written.behind_cons_self, others]
        cases taken : member.read.taken tree with
        | none =>
            have nothing :
                member.settle none (tree :: written.behind member.name) = none := by
              cases written.behind member.name with
              | nil => exact taken
              | cons => rfl
            rw [nothing]
            rfl
        | some value =>
            have alike :
                member.settle none (tree :: written.behind member.name) =
                  member.settle (some value) (written.behind member.name) := by
              cases written.behind member.name with
              | nil => exact taken
              | cons => rfl
            rw [alike]
            rfl

/-- The value of a later member leaves the first one as it is. -/
theorem Row.ReadOn.cons
    {member : Member}
    {members : List Member}
    {row : Row members}
    {name : String}
    {tree : Tree}
    {rest : Bytes}
    {read : Except Cause (Row members × Bytes)}
    (readOn : row.ReadOn name tree rest read)
    (other : name ≠ member.name)
    (value : Option member.Value) :
    @Row.ReadOn (member :: members) (value, row) name tree rest (do
      let (row, rest) ← read
      return ((value, row), rest)) := by
  obtain ⟨filled, sameRead, settles⟩ := readOn
  refine ⟨filled.map fun row => (value, row), ?_, fun written => ?_⟩
  · rw [toOption_bind, sameRead]
    cases filled <;> rfl
  · rw [Row.settle, settles, Written.behind_cons_of_ne other]
    cases filled with
    | some row => rfl
    | none => cases member.settle value (written.behind member.name) <;> rfl

theorem Row.readMember_spelled
    {name : String}
    {members : List Member}
    (known : name ∈ members.map Member.name)
    (faithful : Faithful members)
    (distinct : (members.map Member.name).Nodup)
    (row : Row members)
    {before after bytes rest : Bytes}
    {tree : Tree}
    (blanksBefore : Blanks before)
    (blanksAfter : Blanks after)
    (spelled : Spelled (.value tree) bytes)
    (ended : Ended rest) :
    ∃ read,
      row.readMember name members (before ++ ascii ':' :: (after ++ (bytes ++ rest))) =
          some read ∧
        row.ReadOn name tree rest read := by
  induction members with
  | nil => cases known
  | cons member members inductionHypothesis =>
      obtain ⟨fresh, distinctRest⟩ := List.nodup_cons.mp distinct
      by_cases here : name = member.name
      · subst here
        exact row.readMember_here (faithful member List.mem_cons_self) fresh blanksBefore
          blanksAfter spelled ended
      · obtain ⟨value, row⟩ := row
        have elsewhere : name ∈ members.map Member.name :=
          (List.mem_cons.mp known).resolve_left here
        obtain ⟨read, found, readOn⟩ :=
          inductionHypothesis elsewhere
            (fun other inRest => faithful other (List.mem_cons_of_mem _ inRest))
            distinctRest row
        refine ⟨_, ?_, readOn.cons here value⟩
        simp only [Row.readMember, here, ↓reduceIte, found, Option.map_some]

/-! ### The loop -/

/-- A round of the loop, from behind the quote that opens the name. -/
def memberRound (members : List Member) (steps : Nat) (row : Row members) :
    Reader (Row members) := fun bytes => do
  let (name, rest) ← textBody bytes
  match row.readMember name members rest with
  | some read => do
      let (row, rest) ← read
      readMembers members steps false row rest
  | none => do
      let rest ← colon rest
      let rest ← skipValue rest
      readMembers members steps false row rest

theorem readMembers_separator
    {first : Bool}
    {gap : Bytes}
    (separator : Separator first gap)
    (members : List Member)
    (steps : Nat)
    (row : Row members)
    (bytes : Bytes) :
    readMembers members (steps + 1) first row (gap ++ ascii '"' :: bytes) =
      memberRound members steps row bytes := by
  have quoteVisible : isBlank (ascii '"') = false := by decide
  have commaVisible : isBlank (ascii ',') = false := by decide
  have quoteNotBrace : ascii '"' ≠ ascii '}' := by decide
  have commaNotBrace : ascii ',' ≠ ascii '}' := by decide
  cases separator with
  | start blanks =>
      simp only [readMembers, skipBlanks_append_cons blanks quoteVisible, quoteNotBrace,
        ↓reduceIte]
      rfl
  | comma before after =>
      simp only [readMembers, List.append_assoc, List.cons_append,
        skipBlanks_append_cons before commaVisible,
        skipBlanks_append_cons after quoteVisible, commaNotBrace, Bool.false_eq_true,
        ↓reduceIte]
      rfl

/-- What all of an object comes to, when reading stands at a row. -/
def Row.finish
    {members : List Member}
    (read : Except Cause (Row members × Bytes)) :
    Option (Values members × Bytes) :=
  read.toOption.bind fun (row, rest) =>
    (row.complete members).toOption.map fun values => (values, rest)

/-- A round reads one member or passes over it. -/
theorem finish_memberRound
    {members : List Member}
    (faithful : Faithful members)
    (distinct : (members.map Member.name).Nodup)
    (steps : Nat)
    (row : Row members)
    {before after bytes rest : Bytes}
    {name : String}
    {pieces : List Piece}
    {tree : Tree}
    (same : Piece.text? pieces = some name)
    (blanksBefore : Blanks before)
    (blanksAfter : Blanks after)
    (spelled : Spelled (.value tree) bytes)
    (ended : Ended rest) :
    ∃ filled : Option (Row members),
      Row.finish (memberRound members steps row
          (Piece.closed pieces ++ (before ++ ascii ':' :: (after ++ (bytes ++ rest))))) =
        filled.bind (fun row => Row.finish (readMembers members steps false row rest)) ∧
      ∀ written : Written,
        row.settle ((some name, tree) :: written) members =
          filled.bind fun row => row.settle written members := by
  have nameRead :=
    textBody_closed pieces (before ++ ascii ':' :: (after ++ (bytes ++ rest)))
  rw [same, Option.map_some] at nameRead
  by_cases known : name ∈ members.map Member.name
  · obtain ⟨read, found, filled, sameRead, settles⟩ :=
      row.readMember_spelled known faithful distinct blanksBefore blanksAfter spelled ended
    refine ⟨filled, ?_, settles⟩
    rw [Row.finish, memberRound, toOption_bind, nameRead, Option.bind_some]
    simp only [found, toOption_bind, sameRead]
    cases filled <;> rfl
  · refine ⟨some row, ?_, fun written => row.settle_cons_of_not_mem known tree written⟩
    rw [Row.finish, memberRound, toOption_bind, nameRead, Option.bind_some]
    simp only [row.readMember_of_not_mem known, colon_append blanksBefore, bind,
      Except.bind, skipValue_spelled blanksAfter spelled ended]
    rfl

/-- What an object comes to from a row on, if all names in it are texts. -/
def Row.settleNamed
    {members : List Member}
    (row : Row members)
    (written : Written) :
    Option (Values members) :=
  if written.named then row.settle written members else none

/-- By induction on the members that are still to come, each of which takes a round:
what all comes to is the same before and after it. -/
theorem finish_readMembers
    {members : List Member}
    (faithful : Faithful members)
    (distinct : (members.map Member.name).Nodup)
    {written : Written}
    {first : Bool}
    {bytes : Bytes}
    (spelled : Spelled (.members first written) bytes)
    {steps : Nat}
    (enough : written.length ≤ steps)
    (row : Row members)
    (rest : Bytes) :
    Row.finish (readMembers members (steps + 1) first row (bytes ++ rest)) =
      (row.settleNamed written).map fun values => (values, rest) := by
  induction written generalizing first bytes steps row with
  | nil =>
      have closeVisible : isBlank (ascii '}') = false := by decide
      cases spelled with
      | endOfObject blanks =>
          simp only [readMembers, List.append_assoc, List.singleton_append,
            skipBlanks_append_cons blanks closeVisible, ↓reduceIte]
          rw [Row.settleNamed, row.settle_nil]
          rfl
  | cons member written inductionHypothesis =>
      obtain ⟨steps, rfl⟩ := Nat.exists_eq_add_one_of_ne_zero (Nat.ne_zero_of_lt enough)
      cases spelled with
      | @member _ gap before after valueBytes more name pieces tree _ separator same
          blanksBefore blanksAfter value others =>
          simp only [List.append_assoc, List.cons_append]
          rw [readMembers_separator separator]
          cases name with
          | none =>
              have nameRefused := textBody_closed pieces
                (before ++ ascii ':' :: (after ++ (valueBytes ++ (more ++ rest))))
              rw [same, Option.map_none] at nameRefused
              rw [Row.finish, memberRound, toOption_bind, nameRefused]
              rfl
          | some name =>
              obtain ⟨filled, read, settles⟩ :=
                finish_memberRound faithful distinct (steps + 1) row same blanksBefore
                  blanksAfter value (others.ended_members rest)
              have later (row : Row members) :=
                inductionHypothesis others (Nat.le_of_succ_le_succ enough) row
              have sameNamed :
                  Written.named ((some name, tree) :: written) = Written.named written :=
                rfl
              simp only [read, later, Row.settleNamed, settles, sameNamed]
              cases filled <;> cases Written.named written <;> rfl

/-! ## Lists -/

/-- What the members come to in their places. -/
def settlePlaces : (members : List Member) → List Tree → Option (Values members)
  | [], [] => some ()
  | [], _ :: _ => none
  | member :: members, [] =>
      member.fallback.bind fun value =>
        (settlePlaces members []).map fun values => (value, values)
  | member :: members, tree :: elements =>
      (member.read.taken tree).bind fun value =>
        (settlePlaces members elements).map fun values => (value, values)

theorem toOption_fallbacks
    (record : String)
    (size index : Nat)
    (members : List Member) :
    (fallbacks record size index members).toOption = settlePlaces members [] := by
  induction members generalizing index with
  | nil => rfl
  | cons member members inductionHypothesis =>
      rw [fallbacks, settlePlaces, ← inductionHypothesis (index + 1)]
      cases member.fallback with
      | none => rfl
      | some value => cases fallbacks record size (index + 1) members <;> rfl

/-- An element in front of the others. -/
theorem toOption_element
    {member : Member}
    {members : List Member}
    (takes : Takes member.read member.read.taken)
    {tree : Tree}
    {elements : List Tree}
    {bytes rest after : Bytes}
    (spelled : Spelled (.value tree) bytes)
    (ended : Ended rest)
    {others : Reader (Values members)}
    (later :
      (others rest).toOption =
        (settlePlaces members elements).map fun values => (values, after)) :
    (do
        let (value, rest) ← member.read (bytes ++ rest)
        let (values, rest) ← others rest
        return ((value, values), rest) :
      Except Cause (Values (member :: members) × Bytes)).toOption =
      (settlePlaces (member :: members) (tree :: elements)).map fun values =>
        (values, after) := by
  have read := takes.read spelled .nil ended
  rw [List.nil_append] at read
  rw [toOption_bind, read, settlePlaces]
  cases member.read.taken tree with
  | none => rfl
  | some value =>
      simp only [Option.map_some, Option.bind_some]
      rw [toOption_bind, later]
      cases settlePlaces members elements <;> rfl

theorem toOption_readElements
    {members : List Member}
    (faithful : Faithful members)
    (record : String)
    (size index : Nat)
    {first : Bool}
    (start : first = decide (index = 0))
    {elements : List Tree}
    {bytes : Bytes}
    (spelled : Spelled (.elements first elements) bytes)
    (rest : Bytes) :
    (readElements record size index members (bytes ++ rest)).toOption =
      (settlePlaces members elements).map fun values => (values, rest) := by
  have closeVisible : isBlank (ascii ']') = false := by decide
  have commaVisible : isBlank (ascii ',') = false := by decide
  have commaNotClose : ascii ',' ≠ ascii ']' := by decide
  induction members generalizing index first elements bytes with
  | nil =>
      cases spelled with
      | endOfList blanks =>
          simp only [readElements, listEnd, List.append_assoc, List.singleton_append,
            skipBlanks_append_cons blanks closeVisible, ↓reduceIte]
          rfl
      | element separator value others =>
          obtain ⟨byte, tail, rfl, opens⟩ := value.opens
          obtain ⟨visible, notComma, notClose, -⟩ := opens.inner
          cases separator with
          | start blanks =>
              simp only [readElements, listEnd, List.append_assoc, List.cons_append,
                skipBlanks_append_cons blanks visible, notClose, notComma, ↓reduceIte]
              rfl
          | comma before after =>
              simp only [readElements, listEnd, List.append_assoc, List.cons_append,
                skipBlanks_append_cons before commaVisible,
                skipBlanks_append_cons after visible, commaNotClose, notClose, ↓reduceIte]
              rfl
  | cons member members inductionHypothesis =>
      cases spelled with
      | endOfList blanks =>
          have rightFallbacks :=
            toOption_fallbacks record size index (member :: members)
          simp only [readElements, List.append_assoc, List.singleton_append,
            skipBlanks_append_cons blanks closeVisible, ↓reduceIte]
          rw [toOption_bind, rightFallbacks]
          cases settlePlaces (member :: members) [] <;> rfl
      | @element _ _ valueBytes more tree elements separator value others =>
          have laterFaithful : Faithful members := fun other inRest =>
            faithful other (List.mem_cons_of_mem _ inRest)
          have later := inductionHypothesis laterFaithful (index + 1) (by simp) others
          have element := toOption_element (faithful member List.mem_cons_self) value
            (others.ended_elements rest) later
          obtain ⟨byte, tail, shape, opens⟩ := value.opens
          obtain ⟨visible, notComma, notClose, -⟩ := opens.inner
          rw [shape] at element ⊢
          cases separator with
          | start blanks =>
              have atStart : index = 0 := of_decide_eq_true start.symm
              subst atStart
              simp only [readElements, List.append_assoc, List.cons_append,
                skipBlanks_append_cons blanks visible, notClose, ↓reduceIte]
              exact element
          | comma before after =>
              have inside : index ≠ 0 := of_decide_eq_false start.symm
              simp only [readElements, List.append_assoc, List.cons_append,
                skipBlanks_append_cons before commaVisible,
                skipBlanks_append_cons after visible, commaNotClose, notClose, inside,
                ↓reduceIte]
              exact element

/-! ## Records -/

/-- What a record comes to from a value. -/
def Tree.record? (members : List Member) : Tree → Option (Values members)
  | .object written => (Row.empty members).settleNamed written
  | .list elements => settlePlaces members elements
  | _ => none

theorem Spelled.length_members
    {first : Bool}
    {written : Written}
    {bytes : Bytes}
    (spelled : Spelled (.members first written) bytes) :
    written.length < bytes.length := by
  induction written generalizing first bytes with
  | nil =>
      cases spelled with
      | endOfObject =>
          simp only [List.length_nil, List.length_append, List.length_singleton]
          omega
  | cons member written inductionHypothesis =>
      cases spelled with
      | member _ _ _ _ _ others =>
          have shorter := inductionHypothesis others
          simp only [List.length_cons, List.length_append]
          omega

/-- A record is taken from an object or a list by what stands behind the names of its
members. -/
theorem takes_record
    {members : List Member}
    (faithful : Faithful members)
    (distinct : (members.map Member.name).Nodup)
    (name : String) :
    Takes (Reader.record name members) (Tree.record? members) := by
  constructor
  intro tree gap bytes rest spelled blanks ended
  obtain ⟨byte, others, shape, opens⟩ := spelled.opens
  rw [Reader.record, spelled.skipBlanks_eq blanks]
  by_cases brace : byte = ascii '{'
  · obtain ⟨written, rfl⟩ := (brace ▸ opens).eq_object
    cases spelled with
    | @object _ bytes inside =>
        have enough : written.length ≤ (bytes ++ rest).length := by
          have shorter := inside.length_members
          simp only [List.length_append]
          omega
        have finished :=
          finish_readMembers faithful distinct inside enough (Row.empty members) rest
        rw [← Tree.record?] at finished
        rw [← finished, Row.finish]
        simp only [List.cons_append, ↓reduceIte, toOption_bind]
        rcases readMembers members ((bytes ++ rest).length + 1) true (Row.empty members)
          (bytes ++ rest) with cause | ⟨row, after⟩
        · rfl
        · simp only [Except.toOption, Option.bind_some]
          cases row.complete members <;> rfl
  by_cases bracket : byte = ascii '['
  · obtain ⟨elements, rfl⟩ := (bracket ▸ opens).eq_list
    have notBrace : ascii '[' ≠ ascii '{' := by decide
    cases spelled with
    | list inside =>
        simp only [List.cons_append, notBrace, ↓reduceIte]
        exact toOption_readElements faithful name members.length 0 rfl inside rest
  · have noRecord : tree.record? members = none := by
      cases tree with
      | object => exact absurd opens brace
      | list => exact absurd opens bracket
      | _ => rfl
    rw [shape, noRecord, List.cons_append]
    simp only [brace, bracket, ↓reduceIte]
    rfl

end OrderCustody.Json
