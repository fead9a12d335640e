import OrderCustody.Bytes.Basic

namespace OrderCustody.Poly1305

/-!
# The Poly1305 tag

The message's sixteen-byte blocks, each with a one bit above its end, are the
coefficients of a polynomial evaluated modulo `2¹³⁰ - 5` at the first half of
the one-time key; the second half is added at the end.
-/

/-- The prime that the tag is computed modulo. -/
def modulus : Nat := Nat.pow 2 130 - 5

/-- The bits of the evaluation point that may be set. -/
def clamp (value : Nat) : Nat :=
  value &&& 0x0ffffffc0ffffffc0ffffffc0fffffff

/-- A block as a number, with a one put behind its last byte. -/
def coefficient (block : Bytes) : Nat :=
  block.toNatLittle + Bytes.count block.length

/-- The tag of a message under a one-time key. -/
def tag (key : Octets 32) (message : Bytes) : Octets 16 :=
  let point := clamp (Bytes.toNatLittle (key.bytes.take 16))
  let sum := (Bytes.blocks 16 message).foldl
    (fun accumulated block =>
      (accumulated + coefficient block) * point % modulus) 0
  ⟨Bytes.ofNatLittle 16
      (sum + Bytes.toNatLittle (key.bytes.drop 16)),
    Bytes.length_ofNatLittle 16 _⟩

end OrderCustody.Poly1305
