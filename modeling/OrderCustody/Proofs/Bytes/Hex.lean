import OrderCustody.Bytes.Hex

namespace OrderCustody.Hex

/-!
# Which texts are hexadecimal

Hexadecimal text is two digits of either case for each byte, and nothing else.  Exactly
such texts are read, and read as the bytes that they spell.
-/

/-- A character as a digit of either case, with the number that it stands for. -/
def IsDigit (c : Char) (value : Nat) : Prop :=
  "0123456789abcdef".toList[value]? = some c ∨ "0123456789ABCDEF".toList[value]? = some c

/-- Digits and the bytes that they spell, high digit first. -/
inductive Spells : List Char → Bytes → Prop where
  | nil : Spells [] []
  | cons
      {high low : Char}
      {highValue lowValue : Nat}
      {digits : List Char}
      {bytes : Bytes}
      (highDigit : IsDigit high highValue)
      (lowDigit : IsDigit low lowValue)
      (spells : Spells digits bytes) :
      Spells (high :: low :: digits) (UInt8.ofNat (16 * highValue + lowValue) :: bytes)

instance (c : Char) (value : Nat) : Decidable (IsDigit c value) :=
  inferInstanceAs (Decidable (_ ∨ _))

/-- Every digit comes before `g`. -/
theorem toNat_lt_of_value?
    {c : Char}
    {value : Nat}
    (read : value? c = some value) :
    c.toNat < 103 := by
  unfold value? at read
  split at read
  · next between => exact Nat.lt_of_le_of_lt between.2 (by decide)
  split at read
  · next between => exact Nat.lt_of_le_of_lt between.2 (by decide)
  split at read
  · next between => exact Nat.lt_of_le_of_lt between.2 (by decide)
  · cases read

/-- The digits are the characters that have a value as digits. -/
theorem value?_eq_some_iff (c : Char) (value : Nat) :
    value? c = some value ↔ IsDigit c value := by
  constructor
  · intro read
    have every :
        ∀ number : Fin 103, ∀ value ∈ value? (Char.ofNat number),
          IsDigit (Char.ofNat number) value := by
      decide
    have digit := every ⟨c.toNat, toNat_lt_of_value? read⟩ value
    rw [Char.ofNat_toNat] at digit
    exact digit read
  · intro digit
    have every :
        ∀ number : Fin 16,
          "0123456789abcdef".toList[number.val]?.bind value? = some number.val ∧
            "0123456789ABCDEF".toList[number.val]?.bind value? = some number.val := by
      decide
    rcases digit with lower | upper
    · have small : value < 16 := (List.getElem?_eq_some_iff.mp lower).1
      have reads := (every ⟨value, small⟩).1
      rw [lower] at reads
      exact reads
    · have small : value < 16 := (List.getElem?_eq_some_iff.mp upper).1
      have reads := (every ⟨value, small⟩).2
      rw [upper] at reads
      exact reads

/-- A text is read as bytes exactly if it spells them. -/
theorem bytes?_eq_some_iff (digits : List Char) (bytes : Bytes) :
    bytes? digits = some bytes ↔ Spells digits bytes := by
  constructor
  · intro read
    induction digits using bytes?.induct generalizing bytes with
    | case1 =>
        cases read
        exact .nil
    | case2 high low rest inductionHypothesis =>
        simp only [bytes?, Option.bind_eq_bind, Option.bind_eq_some_iff, Option.pure_def,
          Option.some.injEq] at read
        obtain ⟨highValue, highRead, lowValue, lowRead, others, othersRead, rfl⟩ := read
        exact .cons ((value?_eq_some_iff _ _).mp highRead)
          ((value?_eq_some_iff _ _).mp lowRead) (inductionHypothesis others othersRead)
    | case3 => cases read
  · intro spells
    induction spells with
    | nil => rfl
    | cons highDigit lowDigit _ inductionHypothesis =>
        simp only [bytes?, (value?_eq_some_iff _ _).mpr highDigit,
          (value?_eq_some_iff _ _).mpr lowDigit, inductionHypothesis, Option.bind_eq_bind,
          Option.bind_some, Option.pure_def]

theorem Spells.length_eq
    {digits : List Char}
    {bytes : Bytes}
    (spells : Spells digits bytes) :
    digits.length = 2 * bytes.length := by
  induction spells with
  | nil => rfl
  | cons _ _ _ inductionHypothesis =>
      rw [List.length_cons, List.length_cons, List.length_cons, inductionHypothesis]
      rfl

/-- Digits spell bytes exactly if there are two of them for each byte. -/
theorem exists_spells_iff (digits : List Char) :
    (∃ bytes, Spells digits bytes) ↔
      digits.length % 2 = 0 ∧ ∀ c ∈ digits, ∃ value, IsDigit c value := by
  induction digits using bytes?.induct with
  | case1 => exact ⟨fun _ => ⟨rfl, nofun⟩, fun _ => ⟨[], .nil⟩⟩
  | case2 high low rest inductionHypothesis =>
      have even : (high :: low :: rest).length % 2 = rest.length % 2 :=
        Nat.add_mod_right rest.length 2
      simp only [even, List.forall_mem_cons]
      constructor
      · rintro ⟨_, spelled⟩
        obtain _ | ⟨highDigit, lowDigit, spells⟩ := spelled
        obtain ⟨restEven, restDigits⟩ := inductionHypothesis.mp ⟨_, spells⟩
        exact ⟨restEven, ⟨_, highDigit⟩, ⟨_, lowDigit⟩, restDigits⟩
      · rintro ⟨restEven, ⟨_, highDigit⟩, ⟨_, lowDigit⟩, restDigits⟩
        obtain ⟨_, spells⟩ := inductionHypothesis.mpr ⟨restEven, restDigits⟩
        exact ⟨_, .cons highDigit lowDigit spells⟩
  | case3 =>
      constructor
      · rintro ⟨_, ⟨⟩⟩
      · rintro ⟨⟨⟩, _⟩

/-- What spells nothing has an odd length, or something in it that is no digit. -/
theorem unspelled_iff (digits : List Char) :
    (∀ bytes, ¬ Spells digits bytes) ↔
      digits.length % 2 = 1 ∨ ∃ c ∈ digits, ∀ value, ¬ IsDigit c value := by
  rw [← not_exists, exists_spells_iff, Classical.not_and_iff_not_or_not]
  simp only [Nat.mod_two_not_eq_zero, Classical.not_forall, not_exists, exists_prop]

/-- No digits spell two byte strings. -/
theorem Spells.unique
    {digits : List Char}
    {first second : Bytes}
    (spellsFirst : Spells digits first)
    (spellsSecond : Spells digits second) :
    first = second := by
  have read := (bytes?_eq_some_iff digits first).mpr spellsFirst
  rw [(bytes?_eq_some_iff digits second).mpr spellsSecond] at read
  exact (Option.some.inj read).symm

end OrderCustody.Hex
