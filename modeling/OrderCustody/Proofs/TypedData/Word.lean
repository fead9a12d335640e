import OrderCustody.Address
import OrderCustody.Proofs.Bytes.Number
import OrderCustody.TypedData.Word

namespace OrderCustody.TypedData

/-!
# Words as numbers

Whatever way a number, an integer of a fixed width or an address takes into a word, the
word is its big-endian form in thirty-two bytes.
-/

theorem integerWord_eq (field : String) (value : Nat) :
    integerWord field value =
      if value < Bytes.count 32 then .ok (Octets.ofNat 32 value)
      else .error (.overflow field) := by
  rw [integerWord, Octets.padded?_ofNatMinimal (by decide)]
  by_cases fits : value < Bytes.count 32
  · rw [if_pos fits, if_pos fits]
  · rw [if_neg fits, if_neg fits]

theorem integerWord_of_lt
    {value : Nat}
    (fits : value < Bytes.count 32)
    (field : String) :
    integerWord field value = .ok (Octets.ofNat 32 value) := by
  rw [integerWord_eq, if_pos fits]

theorem integerWord_of_not_lt
    {value : Nat}
    (wide : ¬ value < Bytes.count 32)
    (field : String) :
    integerWord field value = .error (.overflow field) := by
  rw [integerWord_eq, if_neg wide]

theorem smallWord_eq (value : UInt64) :
    smallWord value = Octets.ofNat 32 value.toNat := by
  have bounded : value.toNat < Bytes.count 8 := value.toNat_lt
  calc
    smallWord value = Octets.ofNat 32 (Octets.ofNat 8 value.toNat).toNat :=
      Octets.zero_append 24 _
    _ = Octets.ofNat 32 value.toNat := by
      rw [Octets.toNat_ofNat, Nat.mod_eq_of_lt bounded]

theorem addressWord_eq (address : Address) :
    addressWord address = Octets.ofNat 32 address.toNat :=
  Octets.zero_append 12 address

end OrderCustody.TypedData
