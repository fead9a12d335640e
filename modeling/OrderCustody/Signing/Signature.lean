import OrderCustody.Bytes.Hex

namespace OrderCustody

/-!
# Signatures

A signature is sixty-five bytes: its two halves of thirty-two bytes and a byte
that says how to recover the signer.  Digests are thirty-two bytes.
-/

/-- What is signed. -/
abbrev Digest := Octets 32

/-- A recoverable signature. -/
abbrev Signature := Octets 65

namespace Signature

/-- Lowercase hexadecimal behind `0x`. -/
def toHex (signature : Signature) : String :=
  Hex.marked signature.bytes

/-- What is shown of a signature in diagnostics. -/
def summary (signature : Signature) : String :=
  "Signature(" ++ signature.toHex ++ ")"

end Signature

end OrderCustody
