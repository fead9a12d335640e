import Mathlib.Data.List.Induction
import OrderCustody.Bytes.Basic
import OrderCustody.Decimal

namespace OrderCustody

/-!
# Numbers in bytes

A number takes a certain number of bytes.  With more of them there are zeros in front,
and nothing else changes.
-/

namespace Bytes

/-- A number is below the count of byte strings of a length if its binary digits are
covered by that many bytes. -/
theorem lt_count_iff_log2_lt
    {value : Nat}
    (nonzero : value ≠ 0)
    (width : Nat) :
    value < count width ↔ value.log2 < 8 * width := by
  have shifts : count width = Nat.pow 2 (8 * width) := by
    induction width with
    | zero => rfl
    | succ width inductionHypothesis =>
        rw [count_succ, inductionHypothesis, Nat.mul_succ]
        exact (Nat.pow_add 2 (8 * width) 8).trans (Nat.mul_comm _ _) |>.symm
  rw [shifts]
  exact (Nat.log2_lt nonzero).symm

/-- As many bytes as a number takes are enough of them exactly if it is below their
count. -/
theorem length_ofNatMinimal_le_iff
    {width : Nat}
    (positive : 0 < width)
    (value : Nat) :
    (ofNatMinimal value).length ≤ width ↔ value < count width := by
  rw [ofNatMinimal, length_ofNat]
  by_cases nonzero : value = 0
  · subst nonzero
    exact ⟨fun _ => Nat.pow_pos (by decide), fun _ => positive⟩
  · rw [lt_count_iff_log2_lt nonzero]
    omega

theorem ofNat_zero (width : Nat) : ofNat width 0 = List.replicate width 0 := by
  induction width with
  | zero => rfl
  | succ width inductionHypothesis =>
      rw [List.replicate_succ', ofNat, Nat.zero_div, inductionHypothesis]
      rfl

/-- Bytes beyond those that a number needs are zeros in front of it. -/
theorem ofNat_add_of_lt
    {width value : Nat}
    (fits : value < count width)
    (extra : Nat) :
    ofNat (extra + width) value = List.replicate extra 0 ++ ofNat width value := by
  induction width generalizing value with
  | zero =>
      obtain rfl : value = 0 := Nat.lt_one_iff.mp fits
      rw [Nat.add_zero, ofNat_zero, ofNat, List.append_nil]
  | succ width inductionHypothesis =>
      have fitsAbove : value / 256 < count width :=
        Nat.div_lt_of_lt_mul (count_succ width ▸ fits)
      rw [← Nat.add_assoc, ofNat, ofNat, inductionHypothesis fitsAbove, List.append_assoc]

/-- A byte string is the number that it denotes, in its own length. -/
theorem ofNat_toNat (bytes : Bytes) :
    ofNat bytes.length (toNat bytes) = bytes := by
  induction bytes using List.reverseRecOn with
  | nil => rfl
  | append_singleton bytes byte inductionHypothesis =>
      have bound := byte.toNat_lt
      have above : (toNat bytes * 256 + byte.toNat) / 256 = toNat bytes := by omega
      have low : UInt8.ofNat (toNat bytes * 256 + byte.toNat) = byte := by
        apply UInt8.toNat_inj.mp
        rw [UInt8.toNat_ofNat']
        omega
      rw [List.length_append, List.length_singleton, toNat_append_singleton, ofNat, above, low,
        inductionHypothesis]

theorem toNat_lt (bytes : Bytes) : toNat bytes < count bytes.length := by
  rw [← ofNat_toNat bytes, toNat_ofNat, length_ofNat]
  exact Nat.mod_lt _ (Nat.pow_pos (by decide))

end Bytes

namespace Octets

theorem toNat_ofNat (size value : Nat) :
    (ofNat size value).toNat = value % Bytes.count size :=
  Bytes.toNat_ofNat size value

/-- Octets with zeros in front of them are their number in the larger size. -/
theorem zero_append {size : Nat} (extra : Nat) (octets : Octets size) :
    (zero extra).append octets = ofNat (extra + size) octets.toNat := by
  obtain ⟨bytes, rfl⟩ := octets
  apply ext
  calc
    List.replicate extra 0 ++ bytes =
        List.replicate extra 0 ++ Bytes.ofNat bytes.length (Bytes.toNat bytes) := by
      rw [Bytes.ofNat_toNat]
    _ = Bytes.ofNat (extra + bytes.length) (Bytes.toNat bytes) :=
      (Bytes.ofNat_add_of_lt (Bytes.toNat_lt bytes) extra).symm

/-- The bytes of a number, with zeros in front of them, are the number in the larger
size, as long as they are not too many. -/
theorem padded?_ofNatMinimal
    {size : Nat}
    (positive : 0 < size)
    (value : Nat) :
    padded? size (Bytes.ofNatMinimal value) =
      if value < Bytes.count size then some (ofNat size value) else none := by
  rw [padded?]
  by_cases fits : value < Bytes.count size
  · have short := (Bytes.length_ofNatMinimal_le_iff positive value).mpr fits
    rw [dif_pos short, if_pos fits]
    have covered : value < Bytes.count (value.log2 / 8 + 1) :=
      (Bytes.length_ofNatMinimal_le_iff (Nat.succ_pos _) value).mp
        (Nat.le_of_eq (Bytes.length_ofNat _ value))
    have written := Bytes.ofNat_add_of_lt covered (size - (value.log2 / 8 + 1))
    rw [Bytes.ofNatMinimal, Bytes.length_ofNat] at short
    rw [Nat.sub_add_cancel short] at written
    simp only [ofNat, Bytes.ofNatMinimal, Bytes.length_ofNat, written]
  · have long := mt (Bytes.length_ofNatMinimal_le_iff positive value).mp fits
    rw [dif_neg long, if_neg fits]

end Octets

/-- A number has as many binary digits as some bytes exactly if it is below the count of
byte strings of their length. -/
theorem Decimal.bitLength_le_iff (number width : Nat) :
    bitLength number ≤ 8 * width ↔ number < Bytes.count width := by
  rw [bitLength]
  by_cases nonzero : number = 0
  · subst nonzero
    exact ⟨fun _ => Nat.pow_pos (by decide), fun _ => Nat.zero_le _⟩
  · rw [if_neg nonzero, Bytes.lt_count_iff_log2_lt nonzero, Nat.succ_le_iff]

end OrderCustody

