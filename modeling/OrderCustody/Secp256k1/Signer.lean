import OrderCustody.Address
import OrderCustody.Secp256k1.Ecdsa
import OrderCustody.Signing.Signer

namespace OrderCustody.Secp256k1

/-!
# The production signer

Keys are thirty-two bytes that denote a scalar.  The address is derived from
the public point, and a signature carries its recovery number plus 27.
-/

/-- Why a byte string is no private key. -/
inductive KeyFault where
  | wrongLength (length : Nat)
  | notScalar
  deriving DecidableEq, Repr

/-- The text of a fault. -/
def KeyFault.message : KeyFault → String
  | wrongLength length => "expected 32 bytes, got " ++ toString length
  | notScalar => "not a valid secp256k1 scalar"

/-- The private key a byte string holds. -/
def privateKey (key : Bytes) : Except KeyFault Scalar :=
  if key.length ≠ 32 then .error (.wrongLength key.length)
  else
    match Scalar.ofNat? key.toNat with
    | some scalar => .ok scalar
    | none => .error .notScalar

/-- The sixty-four bytes of a point; zeros for the neutral element, which is no
private key's point. -/
def Point.toOctets : Point → Octets 64
  | .infinity => Octets.zero 64
  | .affine x y => (Octets.ofNat 32 x).append (Octets.ofNat 32 y)

/-- The sixty-five bytes of a signature. -/
def RawSignature.toSignature (raw : RawSignature) : Signature :=
  ((Octets.ofNat 32 raw.r).append (Octets.ofNat 32 raw.s)).append
    (Octets.ofNat 1 (27 + raw.recovery))

/-- The address of a private key. -/
def addressOf (scalar : Scalar) : Address :=
  Address.ofPublicKey scalar.publicPoint.toOctets

/-- The answer to a signing request: the bytes of the signature, if one was made. -/
def answer : Option RawSignature → Except SigningFault Signature
  | some raw => .ok raw.toSignature
  | none => .error (.backend "signature error")

/-- The production signing primitive. -/
def signer : Signer where
  address key :=
    match privateKey key with
    | .ok scalar => .ok (addressOf scalar).toText
    | .error fault => .error (.invalidKey fault.message)
  sign key digest :=
    match privateKey key with
    | .ok scalar => answer (Secp256k1.sign scalar digest)
    | .error fault => .error (.invalidKey fault.message)

end OrderCustody.Secp256k1
