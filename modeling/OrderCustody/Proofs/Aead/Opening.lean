import OrderCustody.Custody.SealedKey

namespace OrderCustody

/-!
# What opens is what was sealed

A sealed text opens to a plaintext exactly if sealing that plaintext gives it.  Byte by
byte the plaintext goes under the key stream, also in a last block that is not full, and
one tag is right behind what comes out of it.
-/

namespace ChaCha20

/-- In blocks of one size that stand behind each other, a place is found by division. -/
theorem getElem?_flatMap_range
    {size count index : Nat}
    (piece : Nat → Bytes)
    (sized : ∀ place, (piece place).length = size)
    (inside : index < size * count) :
    ((List.range count).flatMap piece)[index]? = (piece (index / size))[index % size]? := by
  have length (count : Nat) : ((List.range count).flatMap piece).length = size * count := by
    rw [length_flatMap_of_length _ _ sized, List.length_range]
  induction count with
  | zero => exact absurd inside (Nat.not_lt_zero index)
  | succ count inductionHypothesis =>
      rw [List.range_succ, List.flatMap_append, List.flatMap_singleton]
      by_cases earlier : index < size * count
      · rw [List.getElem?_append_left (length count ▸ earlier), inductionHypothesis earlier]
      · have behind : size * count ≤ index := Nat.le_of_not_lt earlier
        have inLast : index - size * count < size := by
          rw [Nat.mul_succ] at inside
          omega
        have quotient : index / size = count := by
          rw [Nat.div_eq_of_lt_le]
          · rw [Nat.mul_comm]
            exact behind
          · rw [Nat.mul_comm]
            exact inside
        have remainder : index % size = index - size * count := by
          rw [Nat.mod_eq_sub, quotient]
        rw [List.getElem?_append_right (length count ▸ behind), length, quotient, remainder]

/-- A byte of a text under the key stream: the block is found by its place, counted from
one. -/
theorem getElem?_apply
    (key : Octets 32)
    (nonce : Octets 12)
    (bytes : Bytes)
    (index : Nat) :
    (apply key nonce bytes)[index]? =
      bytes[index]?.map fun byte =>
        byte ^^^ (block key nonce (UInt32.ofNat (index / 64 + 1))).getD (index % 64) 0 := by
  by_cases inside : index < bytes.length
  · have inStream : index < 64 * (bytes.length / 64 + 1) := by omega
    have inBlock : index % 64 < (block key nonce (UInt32.ofNat (index / 64 + 1))).length := by
      rw [length_block]
      exact Nat.mod_lt index (by decide)
    have masked :
        (stream key nonce bytes.length)[index]? =
          some ((block key nonce (UInt32.ofNat (index / 64 + 1))).getD (index % 64) 0) := by
      rw [stream, getElem?_flatMap_range _ (fun _ => length_block _ _ _) inStream,
        List.getD_eq_getElem?_getD, List.getElem?_eq_getElem inBlock]
      rfl
    rw [apply, Bytes.xor, List.getElem?_zipWith, masked, List.getElem?_eq_getElem inside]
    rfl
  · have beyond : bytes.length ≤ index := Nat.le_of_not_lt inside
    rw [List.getElem?_eq_none beyond, List.getElem?_eq_none (by rw [length_apply]; exact beyond)]
    rfl

end ChaCha20

namespace Aead

variable (key : Octets 32) (nonce : Octets 12)

@[simp] theorem length_encrypt (plaintext : Bytes) :
    (encrypt key nonce plaintext).length = plaintext.length + tagLength := by
  rw [encrypt, List.length_append, ChaCha20.length_apply, Octets.length_eq, tagLength]

/-- Nothing shorter than a tag opens. -/
theorem decrypt?_of_short
    {sealedText : Bytes}
    (short : sealedText.length < tagLength) :
    decrypt? key nonce sealedText = none := by
  rw [decrypt?, if_pos short]

/-- What opens is its own body, with the tag of that body behind it. -/
theorem decrypt?_append_eq_some_iff
    (body : Bytes)
    (mark : Octets 16)
    (plaintext : Bytes) :
    decrypt? key nonce (body ++ mark.bytes) = some plaintext ↔
      mark = tag key nonce body ∧ ChaCha20.apply key nonce body = plaintext := by
  have marked : mark.bytes.length = tagLength := mark.length_eq
  have long : ¬ (body ++ mark.bytes).length < tagLength := by
    rw [List.length_append, marked]
    exact Nat.not_lt.mpr (Nat.le_add_left _ _)
  have cut : (body ++ mark.bytes).length - tagLength = body.length := by
    rw [List.length_append, marked, Nat.add_sub_cancel]
  simp only [decrypt?, if_neg long, cut, List.take_left, List.drop_left]
  by_cases right : mark.bytes = (tag key nonce body).bytes
  · have same : mark = tag key nonce body := Octets.ext right
    rw [if_pos right, Option.some.injEq, and_iff_right same]
  · rw [if_neg right]
    constructor
    · intro opened
      cases opened
    · rintro ⟨same, -⟩
      exact absurd (congrArg Octets.bytes same) right

/-- A text of at least the length of a tag is a body with a tag behind it. -/
theorem exists_append_of_long
    {sealedText : Bytes}
    (long : tagLength ≤ sealedText.length) :
    ∃ (body : Bytes) (mark : Octets 16), sealedText = body ++ mark.bytes := by
  let place := sealedText.length - tagLength
  have marked : (sealedText.drop place).length = 16 := by
    rw [List.length_drop]
    exact Nat.sub_sub_self long
  exact ⟨sealedText.take place, ⟨sealedText.drop place, marked⟩,
    (List.take_append_drop place sealedText).symm⟩

/-- A text opens to a plaintext exactly if sealing the plaintext gives it. -/
theorem decrypt?_eq_some_iff (sealedText plaintext : Bytes) :
    decrypt? key nonce sealedText = some plaintext ↔
      encrypt key nonce plaintext = sealedText := by
  constructor
  · intro opened
    by_cases short : sealedText.length < tagLength
    · rw [decrypt?_of_short key nonce short] at opened
      cases opened
    · obtain ⟨body, mark, rfl⟩ := exists_append_of_long (Nat.le_of_not_lt short)
      obtain ⟨rfl, rfl⟩ := (decrypt?_append_eq_some_iff key nonce body mark plaintext).mp opened
      simp only [encrypt, ChaCha20.apply_apply]
  · rintro rfl
    exact decrypt?_encrypt key nonce plaintext

/-- A byte of a sealed text that is not in its tag. -/
theorem getElem?_encrypt
    {plaintext : Bytes}
    {index : Nat}
    (inside : index < plaintext.length) :
    (encrypt key nonce plaintext)[index]? =
      plaintext[index]?.map fun byte =>
        byte ^^^
          (ChaCha20.block key nonce (UInt32.ofNat (index / 64 + 1))).getD (index % 64) 0 := by
  have inBody : index < (ChaCha20.apply key nonce plaintext).length := by
    rw [ChaCha20.length_apply]
    exact inside
  rw [encrypt, List.getElem?_append_left inBody, ChaCha20.getElem?_apply]

end Aead

namespace Custody.SealedKey

/-- A key is revealed exactly as the material that sealing gives its ciphertext for. -/
theorem reveal_eq_ok_iff (sealedKey : SealedKey) (material : Bytes) :
    sealedKey.reveal = .ok material ↔
      Aead.encrypt sealedKey.shares.combine sealedKey.nonce material =
        sealedKey.ciphertext := by
  rw [← Aead.decrypt?_eq_some_iff, reveal]
  split
  · next opened =>
      rw [opened, Except.ok.injEq, Option.some.injEq]
  · next closed =>
      rw [closed]
      constructor
      · intro revealed
        cases revealed
      · intro opened
        cases opened

/-- A ciphertext that is no sealed material does not open, and there is no other way for
revealing to fail. -/
theorem reveal_eq_error_iff (sealedKey : SealedKey) (fault : Fault) :
    sealedKey.reveal = .error fault ↔
      fault = .notOpened ∧
        ∀ material,
          Aead.encrypt sealedKey.shares.combine sealedKey.nonce material ≠
            sealedKey.ciphertext := by
  simp only [ne_eq, ← reveal_eq_ok_iff]
  rw [reveal]
  split
  · constructor
    · intro failed
      cases failed
    · rintro ⟨-, never⟩
      exact absurd rfl (never _)
  · constructor
    · rintro ⟨⟩
      refine ⟨rfl, fun material revealed => ?_⟩
      cases revealed
    · rintro ⟨rfl, -⟩
      rfl

end Custody.SealedKey

namespace Aead

variable (key : Octets 32) (nonce : Octets 12)

/--
A text opens exactly if it was sealed, under any key and nonce.  No length is too great for
it here, where the cipher stops at `2 ^ 38 - 64` bytes of plaintext.

Opening gives a plaintext exactly if sealing that plaintext gives the text, and fails in
all other cases; so it is with a key that is held sealed.  Hence every sealed text opens
to its plaintext, and it is sixteen bytes longer; nothing shorter than sixteen bytes opens;
and behind a body exactly one tag is right, the one computed over that body.  Each byte in
front of the tag is that of the plaintext under the byte of the key stream at its place.
-/
theorem opens_iff_sealed :
    (∀ sealedText plaintext,
      decrypt? key nonce sealedText = some plaintext ↔
        encrypt key nonce plaintext = sealedText) ∧
    (∀ (left : Octets 32) (ciphertext : Bytes),
      let sealedKey : Custody.SealedKey := ⟨ciphertext, nonce, .split key left⟩
      (∀ plaintext,
        sealedKey.reveal = .ok plaintext ↔ encrypt key nonce plaintext = ciphertext) ∧
      ∀ fault,
        sealedKey.reveal = .error fault ↔
          fault = .notOpened ∧ ∀ plaintext, encrypt key nonce plaintext ≠ ciphertext) ∧
    (∀ plaintext,
      decrypt? key nonce (encrypt key nonce plaintext) = some plaintext ∧
        (encrypt key nonce plaintext).length = plaintext.length + 16) ∧
    (∀ sealedText : Bytes, sealedText.length < 16 → decrypt? key nonce sealedText = none) ∧
    (∀ (body : Bytes) (mark : Octets 16),
      (∃ plaintext, decrypt? key nonce (body ++ mark.bytes) = some plaintext) ↔
        mark = tag key nonce body) ∧
    ∀ (plaintext : Bytes) (index : Nat),
      index < plaintext.length →
      (encrypt key nonce plaintext)[index]? =
        plaintext[index]?.map fun byte =>
          byte ^^^
            (ChaCha20.block key nonce (UInt32.ofNat (index / 64 + 1))).getD (index % 64) 0 := by
  refine ⟨decrypt?_eq_some_iff key nonce, ?_, ?_, ?_, ?_, ?_⟩
  · intro left ciphertext sealedKey
    have combined : sealedKey.shares.combine = key := Custody.Shares.combine_split key left
    have revealed := sealedKey.reveal_eq_ok_iff
    have refused := sealedKey.reveal_eq_error_iff
    rw [combined] at revealed refused
    exact ⟨revealed, refused⟩
  · intro plaintext
    exact ⟨decrypt?_encrypt key nonce plaintext, length_encrypt key nonce plaintext⟩
  · intro sealedText short
    exact decrypt?_of_short key nonce short
  · intro body mark
    simp only [decrypt?_append_eq_some_iff, exists_and_left, exists_eq', and_true]
  · intro plaintext index inside
    exact getElem?_encrypt key nonce inside

end Aead

end OrderCustody
