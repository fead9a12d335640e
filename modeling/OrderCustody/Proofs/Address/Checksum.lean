import OrderCustody.Proofs.Address

namespace OrderCustody

/-!
# Checksummed text is read back

The checksum of an address is in the case of its letters only.  In lower case there is
nothing but the digits, and since accounts are read in any letter case, the text of an
address is read as that address.
-/

theorem toLower_toLower (text : String) : text.toLower.toLower = text.toLower := by
  have once (c : Char) : c.toLower.toLower = c.toLower := by
    rcases toLower_cases c with ⟨same, -⟩ | ⟨index, rfl, lower⟩
    · rw [same, same]
    · rw [lower]
      revert index
      decide
  rw [← String.toList_inj, toList_toLower, toList_toLower, List.map_map]
  exact List.map_congr_left fun c _ => once c

namespace Hex

/-- The digits of bytes stand for numbers below sixteen. -/
theorem exists_digit_of_mem_digits
    {bytes : Bytes}
    {c : Char}
    (member : c ∈ digits bytes) :
    ∃ value : Fin 16, c = digit value := by
  induction bytes with
  | nil => cases member
  | cons byte rest inductionHypothesis =>
      have bound := byte.toNat_lt
      rcases List.mem_cons.mp member with rfl | member
      · exact ⟨⟨byte.toNat / 16, by omega⟩, rfl⟩
      rcases List.mem_cons.mp member with rfl | member
      · exact ⟨⟨byte.toNat % 16, by omega⟩, rfl⟩
      · exact inductionHypothesis member

theorem toList_marked (bytes : Bytes) : (marked bytes).toList = '0' :: 'x' :: digits bytes := by
  simp [marked, encode]

end Hex

namespace Address

@[simp] theorem length_nibbles (bytes : Bytes) :
    (nibbles bytes).length = 2 * bytes.length := by
  induction bytes with
  | nil => rfl
  | cons byte rest inductionHypothesis =>
      rw [nibbles, List.length_cons, List.length_cons, inductionHypothesis, List.length_cons]
      rfl

/-- Whatever case a digit of the checksum gets, it is lower case again in lower case. -/
theorem toLower_checksumDigit (value : Fin 16) (nibble : Nat) :
    (checksumDigit (Hex.digit value) nibble).toLower = Hex.digit value := by
  have every :
      ∀ value : Fin 16,
        (Hex.digit value).toUpper.toLower = Hex.digit value ∧
          (Hex.digit value).toLower = Hex.digit value := by
    decide
  rw [checksumDigit]
  split
  · exact (every value).1
  · exact (every value).2

theorem map_toLower_zipWith_checksumDigit
    {digits : List Char}
    {nibbles : List Nat}
    (hex : ∀ c ∈ digits, ∃ value : Fin 16, c = Hex.digit value)
    (enough : digits.length ≤ nibbles.length) :
    (List.zipWith checksumDigit digits nibbles).map Char.toLower = digits := by
  induction digits generalizing nibbles with
  | nil => rfl
  | cons c digits inductionHypothesis =>
      obtain ⟨⟨value, rfl⟩, others⟩ := List.forall_mem_cons.mp hex
      cases nibbles with
      | nil => cases enough
      | cons nibble nibbles =>
          rw [List.zipWith_cons_cons, List.map_cons, toLower_checksumDigit,
            inductionHypothesis others (Nat.le_of_succ_le_succ enough)]

/-- In lower case the checksummed text of at most thirty-two bytes is their digits behind
the mark. -/
theorem toLower_checksumText
    {bytes : Bytes}
    (short : bytes.length ≤ 32) :
    (checksumText bytes).toLower = Hex.marked bytes := by
  let digest := Keccak.hash (Bytes.ofText (String.ofList (Hex.digits bytes)))
  have enough : (Hex.digits bytes).length ≤ (nibbles digest.bytes).length := by
    rw [Hex.length_digits, length_nibbles, digest.length_eq]
    exact Nat.mul_le_mul_left 2 short
  have mark : "0x".toList.map Char.toLower = ['0', 'x'] := by decide
  rw [← String.toList_inj, toList_toLower, Hex.toList_marked, checksumText,
    String.toList_append, List.map_append, mark, String.toList_ofList,
    map_toLower_zipWith_checksumDigit (fun _ => Hex.exists_digit_of_mem_digits) enough]
  rfl

end Address

namespace Field

/-- The digits of an address behind the mark are read as that address. -/
theorem address_marked (field : String) (address : Address) :
    Field.address field (Hex.marked address.bytes) = .ok address := by
  have marked :
      Address.unmarked? (Hex.marked address.bytes).toList = some (Hex.digits address.bytes) := by
    rw [Hex.toList_marked]
    rfl
  simp only [Field.address, marked, Hex.bytes?_digits, Octets.ofBytes?_bytes]

/-- The text of an address is read as that address. -/
theorem address_toText (field : String) (address : Address) :
    Field.address field address.toText = .ok address := by
  have short : address.bytes.length ≤ 32 := by
    rw [address.length_eq]
    decide
  have lower : address.toText.toLower = Hex.marked address.bytes :=
    Address.toLower_checksumText short
  have sameLetters : address.toText.toLower = (Hex.marked address.bytes).toLower := by
    rw [← lower, toLower_toLower]
  rw [← toOption_eq_some_iff, toOption_address_of_toLower_eq sameLetters, address_marked]
  rfl

end Field

end OrderCustody
