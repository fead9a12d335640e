import OrderCustody.Signing.Signature

namespace OrderCustody

/-!
# Signing primitives

Custody only ever asks two things of a signing scheme: which address a key
stands for, and the signature of a digest under a key.  Both are functions of
their arguments alone.
-/

/-- Why a signing primitive refuses. -/
inductive SigningFault where
  /-- The key is none of the scheme's keys. -/
  | invalidKey (detail : String)
  /-- The scheme failed on a valid key. -/
  | backend (detail : String)
  deriving DecidableEq, Repr

/-- The text of a fault. -/
def SigningFault.message : SigningFault → String
  | invalidKey detail => "Invalid signing key: " ++ detail
  | backend detail => "Signature generation failed: " ++ detail

/-- A signing primitive. -/
structure Signer where
  /-- The display address of a key. -/
  address : Bytes → Except SigningFault String
  /-- The signature of a digest under a key. -/
  sign : Bytes → Digest → Except SigningFault Signature

end OrderCustody
