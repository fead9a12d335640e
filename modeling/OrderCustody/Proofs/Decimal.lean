import Mathlib.Data.List.Basic
import Mathlib.Data.List.Induction
import OrderCustody.Decimal

namespace OrderCustody.Decimal

/-!
# Decimal text is exact

A number is written with its digits in base ten, and reading them gives the number
back, whatever its size and whatever zeros are put in front.  What can be read is said
by a grammar: digits and nothing else, at least one of them.
-/

/-! ## The grammar -/

/-- A run of digits and the number that it denotes in base ten. -/
inductive Denotes : List Char → Nat → Prop where
  | single (digit : Fin 10) : Denotes [Nat.digitChar digit] digit
  | append
      {digits : List Char}
      {number : Nat}
      (denotes : Denotes digits number)
      (digit : Fin 10) :
      Denotes (digits ++ [Nat.digitChar digit]) (10 * number + digit)

theorem value_append_singleton (digits : List Char) (c : Char) :
    value (digits ++ [c]) = 10 * value digits + (c.toNat - 48) := by
  simp [value]

/-- Every digit stands for a number below ten. -/
theorem exists_digitChar_of_isDigit
    {c : Char}
    (digit : isDigit c = true) :
    ∃ index : Fin 10, c = Nat.digitChar index ∧ c.toNat - 48 = index := by
  obtain ⟨least, most⟩ : '0' ≤ c ∧ c ≤ '9' := by
    simpa [isDigit] using digit
  have least : 48 ≤ c.toNat := least
  have most : c.toNat ≤ 57 := most
  have inRange : c.toNat - 48 < 10 := by omega
  have every : ∀ index : Fin 10, Char.ofNat (48 + index) = Nat.digitChar index := by decide
  refine ⟨⟨c.toNat - 48, inRange⟩, ?_, rfl⟩
  rw [← every ⟨c.toNat - 48, inRange⟩, Nat.add_sub_cancel' least, Char.ofNat_toNat]

theorem digit_digitChar (digit : Fin 10) :
    isDigit (Nat.digitChar digit) = true ∧ (Nat.digitChar digit).toNat - 48 = digit := by
  revert digit
  decide

/-- Digits denote their value. -/
theorem denotes_value
    {digits : List Char}
    (some : digits ≠ [])
    (allDigits : ∀ c ∈ digits, isDigit c = true) :
    Denotes digits (value digits) := by
  induction digits using List.reverseRecOn with
  | nil => exact absurd rfl some
  | append_singleton digits c inductionHypothesis =>
      obtain ⟨others, last⟩ := List.forall_mem_append.mp allDigits
      obtain ⟨index, same, stands⟩ :=
        exists_digitChar_of_isDigit (last c (List.mem_singleton_self c))
      rw [value_append_singleton, stands, same]
      by_cases none : digits = []
      · subst none
        have alone : 10 * value [] + index.val = index.val := Nat.zero_add _
        rw [alone]
        exact .single index
      · exact .append (inductionHypothesis none others) index

namespace Denotes

variable {digits : List Char} {number : Nat}

theorem ne_nil (denotes : Denotes digits number) : digits ≠ [] := by
  cases denotes with
  | single => exact List.cons_ne_nil _ _
  | append => exact List.append_ne_nil_of_right_ne_nil _ (List.cons_ne_nil _ _)

theorem isDigit_of_mem
    (denotes : Denotes digits number) :
    ∀ c ∈ digits, isDigit c = true := by
  induction denotes with
  | single digit =>
      exact List.forall_mem_singleton.mpr (digit_digitChar digit).1
  | append _ digit inductionHypothesis =>
      exact List.forall_mem_append.mpr
        ⟨inductionHypothesis, List.forall_mem_singleton.mpr (digit_digitChar digit).1⟩

theorem value_eq (denotes : Denotes digits number) : value digits = number := by
  induction denotes with
  | single digit =>
      exact (Nat.zero_add _).trans (digit_digitChar digit).2
  | append _ digit inductionHypothesis =>
      rw [value_append_singleton, inductionHypothesis, (digit_digitChar digit).2]

end Denotes

/-- A text is read as a number exactly if it is a run of digits that denotes it. -/
theorem parse?_eq_some_iff (text : String) (number : Nat) :
    parse? text = some number ↔ Denotes text.toList number := by
  constructor
  · intro read
    simp only [parse?] at read
    split at read
    · cases read
    · next wellFormed =>
        cases read
        simp only [Bool.or_eq_true, not_or, Bool.not_eq_true, Bool.not_eq_false',
          List.isEmpty_eq_false_iff, List.all_eq_true] at wellFormed
        exact denotes_value wellFormed.1 wellFormed.2
  · intro denotes
    have notEmpty : text.toList.isEmpty = false :=
      List.isEmpty_eq_false_iff.mpr denotes.ne_nil
    have allDigits : text.toList.all isDigit = true :=
      List.all_eq_true.mpr denotes.isDigit_of_mem
    simp only [parse?, notEmpty, allDigits, Bool.not_true, Bool.or_self,
      Bool.false_eq_true, ↓reduceIte, denotes.value_eq]

/-- A run of digits denotes a number exactly if there is one and there are only digits. -/
theorem exists_denotes_iff (digits : List Char) :
    (∃ number, Denotes digits number) ↔
      digits ≠ [] ∧ ∀ c ∈ digits, isDigit c = true := by
  constructor
  · rintro ⟨number, denotes⟩
    exact ⟨denotes.ne_nil, denotes.isDigit_of_mem⟩
  · rintro ⟨some, allDigits⟩
    exact ⟨value digits, denotes_value some allDigits⟩

/-! ## Written numbers -/

theorem isDigit_of_mem_toDigits
    {number : Nat}
    {c : Char}
    (member : c ∈ Nat.toDigits 10 number) :
    isDigit c = true := by
  have digit : c.isDigit = true :=
    Nat.isDigit_of_mem_toDigits (by decide) (by decide) member
  simpa [Char.isDigit, isDigit, Char.le_def] using digit

theorem value_toDigits (number : Nat) : value (Nat.toDigits 10 number) = number :=
  Nat.ofDigitChars_ten_toDigits

/-- No number is written with a zero in front. -/
theorem toDigits_of_leading_zero
    {number : Nat}
    (leading : (Nat.toDigits 10 number).head? = some '0') :
    Nat.toDigits 10 number = ['0'] := by
  induction number using Nat.strongRecOn with
  | ind number inductionHypothesis =>
      rw [Nat.toDigits_eq_if (by decide)] at leading ⊢
      split at leading
      · next small =>
          rw [List.head?_cons, Option.some.injEq] at leading
          rw [if_pos small, leading]
      · next large =>
          rw [List.head?_append_of_ne_nil _ Nat.toDigits_ne_nil] at leading
          have alone := inductionHypothesis (number / 10) (by omega) leading
          have nothing : number / 10 = 0 := by
            rw [← value_toDigits (number / 10), alone]
            rfl
          omega

@[simp] theorem toList_text (number : Nat) :
    (text number).toList = Nat.toDigits 10 number := by
  simp [text]

/-- What is written for a number denotes it. -/
theorem denotes_text (number : Nat) : Denotes (text number).toList number := by
  have denotes : Denotes (Nat.toDigits 10 number) (value (Nat.toDigits 10 number)) :=
    denotes_value Nat.toDigits_ne_nil fun _ => isDigit_of_mem_toDigits
  rw [value_toDigits] at denotes
  rw [toList_text]
  exact denotes

/-- The text of a number reads as that number. -/
@[simp] theorem parse?_text (number : Nat) : parse? (text number) = some number :=
  (parse?_eq_some_iff _ _).mpr (denotes_text number)

/-- A run of digits is zeros and behind them the number that it denotes, as it is
written. -/
theorem Denotes.exists_zeros
    {digits : List Char}
    {number : Nat}
    (denotes : Denotes digits number) :
    ∃ zeros, digits = List.replicate zeros '0' ++ (text number).toList := by
  simp only [toList_text]
  have single (digit : Fin 10) : Nat.toDigits 10 digit = [Nat.digitChar digit] :=
    Nat.toDigits_of_lt_base digit.isLt
  induction denotes with
  | single digit =>
      refine ⟨0, ?_⟩
      rw [single]
      rfl
  | @append digits number denotes digit inductionHypothesis =>
      obtain ⟨zeros, written⟩ := inductionHypothesis
      rcases Nat.eq_zero_or_pos number with rfl | positive
      · refine ⟨zeros + 1, ?_⟩
        rw [written, Nat.mul_zero, Nat.zero_add, single, List.replicate_succ']
        rfl
      · refine ⟨zeros, ?_⟩
        calc
          digits ++ [Nat.digitChar digit] =
              List.replicate zeros '0' ++
                (Nat.toDigits 10 number ++ Nat.toDigits 10 digit) := by
            rw [written, single, List.append_assoc]
          _ = List.replicate zeros '0' ++ Nat.toDigits 10 (10 * number + digit) := by
            rw [Nat.toDigits_append_toDigits (by decide) positive digit.isLt]

/-- A zero in front of a text that is not empty changes neither its number nor whether
there is one. -/
theorem parse?_zero_append
    {text : String}
    (some : text ≠ "") :
    parse? ("0" ++ text) = parse? text := by
  have characters : ("0" ++ text).toList = '0' :: text.toList := by
    rw [String.toList_append]
    rfl
  have notEmpty : text.toList.isEmpty = false := by
    simpa using some
  have zeroDigit : isDigit '0' = true := by decide
  have sameValue : value ('0' :: text.toList) = value text.toList := rfl
  simp only [parse?, characters, notEmpty, List.isEmpty_cons, List.all_cons, zeroDigit,
    Bool.true_and, Bool.false_or, sameValue]

end OrderCustody.Decimal
