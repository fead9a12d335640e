import OrderCustody.Aead.Basic

namespace OrderCustody.Custody

/-!
# Sealed key material

A key at rest is only ever held encrypted.  The key of that encryption is not
held either: it is split into two shares, of which one is drawn at random and
the other makes their exclusive or the sealing key.  Revealing combines the
shares and opens the ciphertext, as often as it is asked to.
-/

/-- Why key material cannot be sealed or revealed. -/
inductive Fault where
  /-- There is nothing to seal. -/
  | empty
  /-- The encryption failed, with its own explanation.  Only the bound on the length of a
  plaintext can make it fail, and that is left out: nothing here fails like this. -/
  | notSealed (detail : String)
  /-- The ciphertext does not open under the combined shares. -/
  | notOpened
  deriving DecidableEq, Repr

/-- The text of a fault. -/
def Fault.message : Fault → String
  | empty => "Refusing to seal empty key material"
  | notSealed detail => "Failed to seal key material: " ++ detail
  | notOpened => "Failed to open sealed key material"

/-- A sealing key held as two shares. -/
structure Shares where
  left : Octets 32
  right : Octets 32
  deriving DecidableEq

namespace Shares

/-- Split a key, given the share drawn at random. -/
def split (key left : Octets 32) : Shares where
  left := left
  right := key.xor left

/-- The key that was split into two shares. -/
def combine (shares : Shares) : Octets 32 :=
  shares.right.xor shares.left

/-- Splitting loses nothing, whatever share is drawn. -/
@[simp] theorem combine_split (key left : Octets 32) :
    (split key left).combine = key :=
  Octets.xor_xor_cancel key left

end Shares

/-- The random bytes of one sealing. -/
structure Draw where
  key : Octets 32
  nonce : Octets 12
  left : Octets 32
  deriving DecidableEq

/-- Key material encrypted at rest. -/
structure SealedKey where
  ciphertext : Bytes
  nonce : Octets 12
  shares : Shares
  deriving DecidableEq

namespace SealedKey

/-- Seal a copy of key material with freshly drawn bytes; no material is too long for it. -/
def ofMaterial (draw : Draw) (material : Bytes) : Except Fault SealedKey :=
  if material.isEmpty then .error .empty
  else
    .ok {
      ciphertext := Aead.encrypt draw.key draw.nonce material
      nonce := draw.nonce
      shares := Shares.split draw.key draw.left
    }

/-- The key material, as long as the ciphertext opens under the combined shares. -/
def reveal (sealedKey : SealedKey) : Except Fault Bytes :=
  match Aead.decrypt? sealedKey.shares.combine sealedKey.nonce
      sealedKey.ciphertext with
  | some material => .ok material
  | none => .error .notOpened

/-- The number of bytes of key material. -/
def length (sealedKey : SealedKey) : Nat :=
  sealedKey.ciphertext.length - Aead.tagLength

/-- Whether there is no key material. -/
def isEmpty (sealedKey : SealedKey) : Bool :=
  sealedKey.length == 0

/-- What is shown of a sealed key: its length and nothing else. -/
def summary (sealedKey : SealedKey) : String :=
  "SealedKey \x7b len: " ++ toString sealedKey.length ++ ", .. \x7d"

/-- What is shown of revealed key material: that there is some. -/
def revealedSummary : String :=
  "RevealedKey(<redacted>)"

/-- A sealed key reveals what was sealed, whatever was drawn. -/
theorem reveal_ofMaterial
    {draw : Draw}
    {material : Bytes}
    {sealedKey : SealedKey}
    (sealing : ofMaterial draw material = .ok sealedKey) :
    sealedKey.reveal = .ok material := by
  unfold ofMaterial at sealing
  split at sealing
  · cases sealing
  · cases sealing
    simp [reveal, Aead.decrypt?_encrypt]

/-- Key material can be sealed if there is any, and then it is revealed, whatever was
drawn. -/
theorem exists_ofMaterial_eq_ok
    (draw : Draw)
    {material : Bytes}
    (nonempty : material ≠ []) :
    ∃ sealedKey,
      ofMaterial draw material = .ok sealedKey ∧
        sealedKey.reveal = .ok material := by
  have notEmpty : material.isEmpty = false := by simpa using nonempty
  cases sealing : ofMaterial draw material with
  | error fault => simp [ofMaterial, notEmpty] at sealing
  | ok sealedKey => exact ⟨sealedKey, rfl, reveal_ofMaterial sealing⟩

end SealedKey

end OrderCustody.Custody
