import OrderCustody.Proofs.Json.Scalars

namespace OrderCustody.Json

/-!
# Readers follow the value, not its text

Each reader is described by what it takes from a value.  On every text of the value it
takes that and stops behind it, or it refuses every text of the value, so that readers
cannot tell the texts of one value apart.
-/

/-! ## What readers take -/

/-- On every text of a value a reader takes the same from it and stops behind it, or it
refuses them all. -/
structure Takes {α : Type} (reader : Reader α) (take : Tree → Option α) : Prop where
  read :
    ∀ {tree : Tree} {gap bytes rest : Bytes},
      Spelled (.value tree) bytes →
        Blanks gap →
          Ended rest →
            (reader (gap ++ (bytes ++ rest))).toOption =
              (take tree).map fun value => (value, rest)

/-- What a reader takes from one of the texts of a value. -/
def Reader.taken {α : Type} (reader : Reader α) (tree : Tree) : Option α :=
  (reader (tree.write [])).toOption.map Prod.fst

section Takes

variable {α : Type} {reader : Reader α} {take : Tree → Option α}

theorem Takes.taken_eq
    (takes : Takes reader take)
    (tree : Tree) :
    reader.taken tree = take tree := by
  have read := takes.read (spelled_write .nil tree) .nil .nil
  rw [List.nil_append, List.append_nil] at read
  rw [Reader.taken, read, Option.map_map]
  exact Option.map_id'

/-- To take anything is to take what is taken from one text. -/
theorem Takes.taken
    (takes : Takes reader take) :
    Takes reader reader.taken := by
  constructor
  intro tree gap bytes rest spelled blanks ended
  rw [takes.taken_eq]
  exact takes.read spelled blanks ended

theorem Takes.map
    {β : Type}
    (takes : Takes reader take)
    (arrange : α → β) :
    Takes (reader.map arrange) fun tree => (take tree).map arrange := by
  constructor
  intro tree gap bytes rest spelled blanks ended
  rw [Reader.map, toOption_bind, takes.read spelled blanks ended, Option.map_map]
  cases take tree <;> rfl

/-- A whole text is read as its value is taken. -/
theorem Takes.run
    (takes : Takes reader take)
    {tree : Tree}
    {text : Bytes}
    (isText : tree.HasText text) :
    (reader.run text).toOption = take tree := by
  obtain ⟨before, bytes, after, blanksBefore, spelled, blanksAfter, rfl⟩ := isText
  have ended : Ended after := by
    simpa only [List.append_nil] using blanksAfter.ended_append .nil
  have nothing : skipBlanks after = [] := by
    have skipped := skipBlanks_append blanksAfter []
    rwa [List.append_nil] at skipped
  rw [Reader.run, toOption_bind, takes.read spelled blanksBefore ended]
  cases take tree with
  | none => rfl
  | some value =>
      simp only [Option.map_some, Option.bind_some, nothing, List.isEmpty_nil, ↓reduceIte]
      rfl

end Takes

/-! ## Texts, `null` and numbers -/

/-- The text that a value is, if it is one. -/
def Tree.text? : Tree → Option String
  | .text content => content
  | _ => none

theorem textNamed_closed
    {gap : Bytes}
    (blanks : Blanks gap)
    (expected : String)
    (pieces : List Piece)
    (rest : Bytes) :
    (Reader.textNamed expected
        (gap ++ ascii '"' :: (Piece.closed pieces ++ rest))).toOption =
      (Piece.text? pieces).map fun text => (text, rest) := by
  have quoteVisible : isBlank (ascii '"') = false := by decide
  simp only [Reader.textNamed, skipBlanks_append_cons blanks quoteVisible, ↓reduceIte,
    textBody_closed]

theorem takes_textNamed (expected : String) :
    Takes (Reader.textNamed expected) Tree.text? := by
  constructor
  intro tree gap bytes rest spelled blanks ended
  obtain ⟨byte, others, shape, opens⟩ := spelled.opens
  by_cases quote : byte = ascii '"'
  · obtain ⟨content, rfl⟩ := (quote ▸ opens).eq_text
    cases spelled with
    | @text _ pieces same =>
        rw [List.cons_append, textNamed_closed blanks, same, Tree.text?]
  · have noText : tree.text? = none := by
      cases tree with
      | text => exact absurd opens quote
      | _ => rfl
    rw [Reader.textNamed, spelled.skipBlanks_eq blanks, shape, noText, List.cons_append]
    simp only [quote, ↓reduceIte]
    rfl

/-- What is taken where `null` stands for nothing. -/
def Tree.optional {α : Type} (take : Tree → Option α) : Tree → Option (Option α)
  | .null => some none
  | tree => (take tree).map some

theorem Tree.optional_of_ne
    {α : Type}
    {tree : Tree}
    (present : tree ≠ .null)
    (take : Tree → Option α) :
    Tree.optional take tree = (take tree).map some := by
  cases tree with
  | null => exact absurd rfl present
  | _ => rfl

theorem Takes.optional
    {α : Type}
    {reader : Reader α}
    {take : Tree → Option α}
    (takes : Takes reader take) :
    Takes reader.optional (Tree.optional take) := by
  constructor
  intro tree gap bytes rest spelled blanks ended
  have read := takes.read spelled blanks ended
  obtain ⟨byte, others, shape, opens⟩ := spelled.opens
  by_cases null : byte = ascii 'n'
  · cases (null ▸ opens).eq_null
    cases spelled
    rw [Reader.optional, Spelled.null.skipBlanks_eq blanks]
    rfl
  · have present : tree ≠ .null := by
      rintro rfl
      exact null opens
    rw [Reader.optional, spelled.skipBlanks_eq blanks, Tree.optional_of_ne present]
    rw [shape, List.cons_append]
    simp only [null, ↓reduceIte]
    rw [toOption_bind, ← List.cons_append, ← shape, read, Option.map_map]
    cases take tree <;> rfl

/-- The natural number below a bound that a value is, if it is one. -/
def Tree.natural? (bound : Nat) : Tree → Option Nat
  | .number numeral => numeral.natural?.filter (· < bound)
  | _ => none

theorem takes_natural
    {bound : Nat}
    (small : bound ≤ UInt64.size)
    (expected : String) :
    Takes (Reader.natural bound expected) (Tree.natural? bound) := by
  constructor
  intro tree gap bytes rest spelled blanks ended
  obtain ⟨byte, others, shape, opens⟩ := spelled.opens
  by_cases number : byte = ascii '-' ∨ isDigit byte = true
  · obtain ⟨numeral, rfl⟩ := opens.eq_number number
    cases spelled
    rw [natural_numeral blanks, toOption_naturalBelow, naturalRead_numberBody numeral ended,
      Tree.natural?]
    cases numeral.natural? with
    | none => rfl
    | some value =>
        by_cases below : value < bound
        · have fits : value < UInt64.size := Nat.lt_of_lt_of_le below small
          simp [Option.filter, below, fits]
        · by_cases fits : value < UInt64.size <;> simp [Option.filter, below, fits]
  · have noNumber : tree.natural? bound = none := by
      cases tree with
      | number => exact absurd opens number
      | _ => rfl
    obtain ⟨notMinus, notDigit⟩ := not_or.mp number
    rw [Reader.natural, spelled.skipBlanks_eq blanks, shape, noNumber, List.cons_append]
    simp only [notMinus, notDigit, ↓reduceIte]
    rfl

theorem takes_byte :
    Takes Reader.byte fun tree => (tree.natural? UInt8.size).map UInt8.ofNat := by
  have small : UInt8.size ≤ UInt64.size := by decide
  exact (takes_natural small "u8").map UInt8.ofNat

/-! ## Choices -/

/-- The choice that a value names, alone or with `null` behind its name. -/
def Tree.choice? {α : Type} (choices : List (String × α)) : Tree → Option α
  | .text (some name) => (choose choices name).toOption
  | .object [(some name, .null)] => (choose choices name).toOption
  | _ => none

theorem choice?_cons
    {α : Type}
    {choices : List (String × α)}
    {name : String}
    {tree : Tree}
    {members : List (Option String × Tree)}
    (more : ¬ (tree = .null ∧ members = []) ∨ (choose choices name).toOption = none) :
    Tree.choice? choices (.object ((some name, tree) :: members)) = none := by
  cases members with
  | cons => cases tree <;> rfl
  | nil =>
      cases tree with
      | null => exact more.resolve_left fun other => other ⟨rfl, rfl⟩
      | _ => rfl

/-- A choice in an object, which has to be its only member. -/
theorem choice_object
    {α : Type}
    (choices : List (String × α))
    {members : List (Option String × Tree)}
    {gap bytes : Bytes}
    (inside : Spelled (.members true members) bytes)
    (blanks : Blanks gap)
    (rest : Bytes) :
    (Reader.choice choices (gap ++ ascii '{' :: (bytes ++ rest))).toOption =
      (Tree.choice? choices (.object members)).map fun choice => (choice, rest) := by
  have braceVisible : isBlank (ascii '{') = false := by decide
  have closeVisible : isBlank (ascii '}') = false := by decide
  have noQuote : ascii '{' ≠ ascii '"' := by decide
  have commaNotBrace : ascii ',' ≠ ascii '}' := by decide
  have nullRead (behind : Bytes) :
      literal ['u', 'l', 'l'] (ascii 'u' :: ascii 'l' :: ascii 'l' :: behind) =
        .ok behind :=
    rfl
  rw [Reader.choice, skipBlanks_append_cons blanks braceVisible]
  simp only [noQuote, ↓reduceIte, toOption_bind]
  cases inside with
  | endOfObject lead =>
      rw [Reader.textNamed, List.append_assoc, List.singleton_append,
        skipBlanks_append_cons lead closeVisible]
      rfl
  | @member _ _ _ _ _ _ name pieces tree _ separator same blanksBefore blanksAfter value
      more =>
      obtain ⟨lead⟩ := separator
      simp only [List.append_assoc, List.cons_append, textNamed_closed lead, same]
      rcases name with _ | name
      · rfl
      simp only [Option.map_some, Option.bind_some]
      rcases chosen : choose choices name with cause | choice
      · rw [choice?_cons (.inr (by rw [chosen]; rfl))]
        rfl
      simp only [Except.toOption, Option.bind_some, colon_append blanksBefore,
        value.skipBlanks_eq blanksAfter]
      obtain ⟨byte, tail, shape, opens⟩ := value.opens
      by_cases null : byte = ascii 'n'
      · cases (null ▸ opens).eq_null
        cases value
        simp only [List.map_cons, List.map_nil, List.cons_append, List.nil_append,
          ↓reduceIte, nullRead, bind, Except.bind]
        rcases more.skipBlanks_members rest with ⟨rfl, closes⟩ | ⟨others, tail, goesOn⟩
        · simp only [closes, ↓reduceIte, Tree.choice?, chosen]
          rfl
        · rw [choice?_cons (.inl fun alone => others alone.2)]
          simp only [goesOn, commaNotBrace, ↓reduceIte]
          rfl
      · have notNull : tree ≠ .null := by
          rintro rfl
          exact null opens
        rw [choice?_cons (.inl fun other => notNull other.1), shape]
        simp only [List.cons_append, null, ↓reduceIte]
        rfl

theorem takes_choice
    {α : Type}
    (choices : List (String × α)) :
    Takes (Reader.choice choices) (Tree.choice? choices) := by
  constructor
  intro tree gap bytes rest spelled blanks ended
  obtain ⟨byte, others, shape, opens⟩ := spelled.opens
  by_cases quote : byte = ascii '"'
  · obtain ⟨content, rfl⟩ := (quote ▸ opens).eq_text
    rw [Reader.choice, spelled.skipBlanks_eq blanks]
    cases spelled with
    | @text _ pieces same =>
        simp only [List.cons_append, ↓reduceIte, toOption_bind, textBody_closed, same]
        cases content with
        | none => rfl
        | some name =>
            simp only [Option.map_some, Option.bind_some, Tree.choice?]
            cases choose choices name <;> rfl
  by_cases brace : byte = ascii '{'
  · obtain ⟨members, rfl⟩ := (brace ▸ opens).eq_object
    cases spelled with
    | object inside => exact choice_object choices inside blanks rest
  · have noChoice : tree.choice? choices = none := by
      cases tree with
      | text => exact absurd opens quote
      | object => exact absurd opens brace
      | _ => rfl
    rw [Reader.choice, spelled.skipBlanks_eq blanks, shape, noChoice, List.cons_append]
    simp only [quote, brace, ↓reduceIte]
    rfl

end OrderCustody.Json
