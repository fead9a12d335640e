import OrderCustody.Hash.Keccak

namespace OrderCustody.TypedData

/-!
# Encoded words

Every member of a hashed structure is encoded as one word of thirty-two bytes:
integers and addresses in big-endian form, texts as their digest.
-/

/-- Why a value has no encoding. -/
inductive Fault where
  /-- The integer of this member needs more than 256 bits. -/
  | overflow (field : String)
  deriving DecidableEq, Repr

/-- The text of a fault. -/
def Fault.message : Fault → String
  | overflow field => field ++ " does not fit in uint256"

/-- The word of an integer of any size, if it fits. -/
def integerWord (field : String) (value : Nat) : Except Fault (Octets 32) :=
  match Octets.padded? 32 (Bytes.ofNatMinimal value) with
  | some word => .ok word
  | none => .error (.overflow field)

/-- The word of an integer of at most 64 bits: twenty-four zeros in front of it. -/
def smallWord (value : UInt64) : Octets 32 :=
  (Octets.zero 24).append (Octets.ofNat 8 value.toNat)

/-- The word of an address: twelve zeros in front of it. -/
def addressWord (address : Octets 20) : Octets 32 :=
  (Octets.zero 12).append address

/-- The word of a text. -/
def textWord (text : String) : Octets 32 :=
  Keccak.hash (Bytes.ofText text)

/-- The digest of words one after the other. -/
def hashWords (words : List (Octets 32)) : Octets 32 :=
  Keccak.hash (words.flatMap (·.bytes))

end OrderCustody.TypedData
