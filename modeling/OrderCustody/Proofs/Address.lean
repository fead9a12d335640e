import OrderCustody.Order.Field

namespace OrderCustody

/-!
# Accounts are read in any letter case

The letters of a hexadecimal text may be of either case, and so may the letter of the
mark in front of it.  An account is read from the lowercase text.
-/

theorem toList_toLower (text : String) :
    text.toLower.toList = text.toList.map Char.toLower :=
  String.toList_map

/-- A letter goes from upper to lower case, and no other character changes. -/
theorem toLower_cases (c : Char) :
    c.toLower = c ∧ ¬ ('A' ≤ c ∧ c ≤ 'Z') ∨
      ∃ index : Fin 26,
        c = Char.ofNat (65 + index) ∧ c.toLower = Char.ofNat (97 + index) := by
  by_cases upper : 'A' ≤ c ∧ c ≤ 'Z'
  · have least : 65 ≤ c.toNat := upper.1
    have most : c.toNat ≤ 90 := upper.2
    have inRange : c.toNat - 65 < 26 := by omega
    have every : ∀ index : Fin 26,
        (Char.ofNat (65 + index)).toLower = Char.ofNat (97 + index) := by decide
    have same : c = Char.ofNat (65 + (c.toNat - 65)) := by
      rw [Nat.add_sub_cancel' least, Char.ofNat_toNat]
    have lower := every ⟨c.toNat - 65, inRange⟩
    rw [← same] at lower
    exact .inr ⟨⟨c.toNat - 65, inRange⟩, same, lower⟩
  · have unchanged : c.toLower = c := dif_neg upper
    exact .inl ⟨unchanged, upper⟩

namespace Hex

theorem value?_toLower (c : Char) : value? c.toLower = value? c := by
  rcases toLower_cases c with ⟨same, -⟩ | ⟨index, rfl, lower⟩
  · rw [same]
  · have every : ∀ index : Fin 26,
        value? (Char.ofNat (97 + index)) = value? (Char.ofNat (65 + index)) := by decide
    rw [lower, every index]

theorem bytes?_map_toLower (digits : List Char) :
    bytes? (digits.map Char.toLower) = bytes? digits := by
  induction digits using bytes?.induct with
  | case1 => rfl
  | case2 high low rest inductionHypothesis =>
      simp only [List.map_cons, bytes?, value?_toLower, inductionHypothesis]
  | case3 => rfl

end Hex

namespace Address

theorem unmarked?_cons_cons (first second : Char) (digits : List Char) :
    unmarked? (first :: second :: digits) =
      if first = '0' ∧ (second = 'x' ∨ second = 'X') then some digits else none := by
  unfold unmarked?
  split
  · next shape =>
      cases shape
      rfl
  · next shape =>
      cases shape
      rfl
  · next notLower notUpper =>
      rw [if_neg]
      rintro ⟨rfl, rfl | rfl⟩
      · exact notLower digits rfl
      · exact notUpper digits rfl

/-- What is behind the mark is all that is left of a marked text. -/
theorem unmarked?_eq_some_iff (text digits : List Char) :
    unmarked? text = some digits ↔
      ∃ mark, (mark = 'x' ∨ mark = 'X') ∧ text = '0' :: mark :: digits := by
  constructor
  · intro unmarked
    match text with
    | [] => cases unmarked
    | [_] => simp [unmarked?] at unmarked
    | first :: mark :: rest =>
        rw [unmarked?_cons_cons] at unmarked
        split at unmarked
        · next marked =>
            obtain ⟨rfl, eitherCase⟩ := marked
            cases unmarked
            exact ⟨mark, eitherCase, rfl⟩
        · cases unmarked
  · rintro ⟨mark, rfl | rfl, rfl⟩ <;> rfl

/-- What is behind the mark of the lowercase text is that of the text in lower case. -/
theorem unmarked?_map_toLower (text : List Char) :
    unmarked? (text.map Char.toLower) = (unmarked? text).map (List.map Char.toLower) := by
  match text with
  | [] => rfl
  | [_] => simp [unmarked?]
  | first :: second :: digits =>
      have zero : first.toLower = '0' ↔ first = '0' := by
        rcases toLower_cases first with ⟨same, -⟩ | ⟨index, rfl, lower⟩
        · rw [same]
        · rw [lower]
          revert index
          decide
      have mark : second.toLower = 'x' ∨ second.toLower = 'X' ↔
          second = 'x' ∨ second = 'X' := by
        rcases toLower_cases second with ⟨same, -⟩ | ⟨index, rfl, lower⟩
        · rw [same]
        · rw [lower]
          revert index
          decide
      rw [List.map_cons, List.map_cons, unmarked?_cons_cons, unmarked?_cons_cons]
      simp only [zero, mark]
      split <;> rfl

end Address

theorem toOption_eq_some_iff {ε α : Type} (read : Except ε α) (value : α) :
    read.toOption = some value ↔ read = .ok value := by
  cases read <;> simp [Except.toOption]

namespace Field

theorem toOption_address (field value : String) :
    (address field value).toOption =
      (Address.unmarked? value.toList).bind fun digits =>
        (Hex.bytes? digits).bind (Octets.ofBytes? 20) := by
  rw [address]
  cases Address.unmarked? value.toList with
  | none => rfl
  | some digits =>
      simp only [Option.bind_some]
      cases Hex.bytes? digits with
      | none => rfl
      | some bytes =>
          simp only [Option.bind_some]
          cases Octets.ofBytes? 20 bytes <;> rfl

/-- Texts that differ in letter case at most are read as the same account or both
refused. -/
theorem toOption_address_of_toLower_eq
    {value other : String}
    (same : value.toLower = other.toLower)
    (field : String) :
    (address field value).toOption = (address field other).toOption := by
  have lower (text : String) :
      ((Address.unmarked? text.toList).bind fun digits =>
          (Hex.bytes? digits).bind (Octets.ofBytes? 20)) =
        (Address.unmarked? text.toLower.toList).bind fun digits =>
          (Hex.bytes? digits).bind (Octets.ofBytes? 20) := by
    rw [toList_toLower, Address.unmarked?_map_toLower]
    cases Address.unmarked? text.toList with
    | none => rfl
    | some digits => simp only [Option.map_some, Option.bind_some, Hex.bytes?_map_toLower]
  rw [toOption_address, toOption_address, lower value, lower other, same]

end Field

end OrderCustody
