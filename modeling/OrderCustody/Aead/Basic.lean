import OrderCustody.Aead.ChaCha20
import OrderCustody.Aead.Poly1305

namespace OrderCustody.Aead

/-!
# Authenticated encryption

A sealed text is the plaintext under the key stream followed by a sixteen-byte
tag over it.  No associated data is sealed with it.  Opening recomputes the
tag, so a text opens exactly when sealing its plaintext produces it.
-/

/-- Bytes a sealed text has more than its plaintext. -/
def tagLength : Nat := 16

/-- The one-time key of the tag: the first half of block zero. -/
def tagKey (key : Octets 32) (nonce : Octets 12) : Octets 32 :=
  ⟨(ChaCha20.block key nonce 0).take 32, by simp⟩

/-- The tag of an encrypted body: it covers the body padded to whole blocks
and the lengths of the absent associated data and of the body. -/
def tag (key : Octets 32) (nonce : Octets 12) (body : Bytes) : Octets 16 :=
  let padding := List.replicate ((16 - body.length % 16) % 16) 0
  Poly1305.tag (tagKey key nonce)
    (body ++ padding ++ Bytes.ofNatLittle 8 0 ++
      Bytes.ofNatLittle 8 body.length)

/-- The sealed text of a plaintext.  The cipher's own bound of `2 ^ 38 - 64` bytes, where
its counter of blocks would start over, is left out: nothing that is sealed comes near it. -/
def encrypt (key : Octets 32) (nonce : Octets 12) (plaintext : Bytes) : Bytes :=
  let body := ChaCha20.apply key nonce plaintext
  body ++ (tag key nonce body).bytes

/-- The plaintext of a sealed text whose tag is right. -/
def decrypt? (key : Octets 32) (nonce : Octets 12) (sealedText : Bytes) :
    Option Bytes :=
  if sealedText.length < tagLength then none
  else
    let body := sealedText.take (sealedText.length - tagLength)
    let claimed := sealedText.drop (sealedText.length - tagLength)
    if claimed = (tag key nonce body).bytes then
      some (ChaCha20.apply key nonce body)
    else
      none

/-- A sealed text opens to its plaintext. -/
theorem decrypt?_encrypt (key : Octets 32) (nonce : Octets 12) (plaintext : Bytes) :
    decrypt? key nonce (encrypt key nonce plaintext) = some plaintext := by
  have tagged : ∀ body, (tag key nonce body).bytes.length = tagLength :=
    fun body => (tag key nonce body).length_eq
  simp [decrypt?, encrypt, tagged, ChaCha20.apply_apply]

end OrderCustody.Aead
