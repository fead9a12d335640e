import Mathlib.Logic.ExistsUnique
import OrderCustody.Proofs.Aead.Opening

namespace OrderCustody

/-!
# What is sealed is revealed

Sealing goes through two layers: the material is encrypted under a sealing key, and the
sealing key is split into two shares.  Neither loses anything, whatever was drawn, so that
all that can be wrong with material is that there is none.  And no share tells anything by
itself: it belongs to every sealing key alike.
-/

namespace Octets

variable {size : Nat}

theorem xor_comm (left right : Octets size) : left.xor right = right.xor left :=
  ext (List.zipWith_comm_of_comm UInt8.xor_comm)

/-- What an exclusive or was taken with is found from its result. -/
theorem xor_eq_iff (left right result : Octets size) :
    left.xor right = result ↔ right = left.xor result := by
  have recovered (other : Octets size) : left.xor (left.xor other) = other := by
    rw [xor_comm left other, xor_comm left, xor_xor_cancel]
  constructor
  · rintro rfl
    exact (recovered right).symm
  · rintro rfl
    exact recovered result

end Octets

namespace Custody

/-! ## Shares -/

/-- The share that is not drawn takes a value under exactly one draw. -/
theorem Shares.existsUnique_left (key value : Octets 32) :
    ∃! left, (split key left).right = value := by
  have right_eq_iff (left : Octets 32) :
      (split key left).right = value ↔ left = key.xor value :=
    Octets.xor_eq_iff key left value
  refine ⟨key.xor value, (right_eq_iff _).mpr rfl, fun left same => ?_⟩
  exact (right_eq_iff left).mp same

/-! ## Sealed keys -/

namespace SealedKey

/-- Only sealing nothing fails, and for no other reason. -/
theorem ofMaterial_eq_error_iff (draw : Draw) (material : Bytes) (fault : Fault) :
    ofMaterial draw material = .error fault ↔ fault = .empty ∧ material = [] := by
  cases material with
  | nil =>
      constructor
      · rintro ⟨⟩
        exact ⟨rfl, rfl⟩
      · rintro ⟨rfl, -⟩
        rfl
  | cons => exact ⟨nofun, nofun⟩

/-- The length of a sealed key is that of its material, the tag left out. -/
theorem length_ofMaterial
    {draw : Draw}
    {material : Bytes}
    {sealedKey : SealedKey}
    (sealing : ofMaterial draw material = .ok sealedKey) :
    sealedKey.length = material.length := by
  unfold ofMaterial at sealing
  split at sealing
  · cases sealing
  · cases sealing
    rw [length, Aead.length_encrypt, Nat.add_sub_cancel]

/--
A sealed key always reveals what was sealed, whatever was drawn.

All material but the empty is sealed, as the cipher's bound on its length is left out; from
then on the sealed key, which no revealing changes, is revealed as that material, and has its
length.  Sealing fails only for want of material.  The shares of a sealing key combine to it,
whichever share was drawn; and whatever the sealing key, the other share takes any value under
exactly one draw, so that it says nothing about the key.
-/
theorem sealed_always_reveals :
    (∀ (draw : Draw) (material : Bytes),
      material ≠ [] →
      ∃ sealedKey,
        ofMaterial draw material = .ok sealedKey ∧
          sealedKey.reveal = .ok material ∧
          sealedKey.length = material.length) ∧
    (∀ (draw : Draw) (material : Bytes) (fault : Fault),
      ofMaterial draw material = .error fault ↔ fault = .empty ∧ material = []) ∧
    (∀ key left : Octets 32, (Shares.split key left).combine = key) ∧
    ∀ key value : Octets 32, ∃! left, (Shares.split key left).right = value := by
  refine ⟨fun draw material nonempty => ?_, ofMaterial_eq_error_iff, Shares.combine_split,
    Shares.existsUnique_left⟩
  obtain ⟨sealedKey, sealing, revealing⟩ := exists_ofMaterial_eq_ok draw nonempty
  exact ⟨sealedKey, sealing, revealing, length_ofMaterial sealing⟩

end SealedKey

end Custody

end OrderCustody
