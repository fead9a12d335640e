import OrderCustody.Address

namespace OrderCustody

/-!
# Exchange orders

An order as it is signed: amounts of any size, three accounts, the side of the
trade and how its signature is to be checked.
-/

/-- Which side of the trade an order takes. -/
inductive Side where
  | buy
  | sell
  deriving DecidableEq, Repr

namespace Side

/-- The number that stands for a side in the hashed order. -/
def toNat : Side → Nat
  | buy => 0
  | sell => 1

end Side

/-- An exchange order. -/
structure Order where
  salt : Nat
  maker : Address
  signer : Address
  taker : Address
  tokenId : Nat
  makerAmount : Nat
  takerAmount : Nat
  expiration : Nat
  nonce : Nat
  feeRateBps : Nat
  side : Side
  signatureType : UInt8
  deriving DecidableEq

end OrderCustody
