import OrderCustody.Order.Basic
import OrderCustody.TypedData.Domain

namespace OrderCustody.TypedData

/-!
# Order digests

The digest that is signed binds the domain and every member of the order.
-/

/-- The type text of an order. -/
def orderTypeText : String :=
  "Order(uint256 salt,address maker,address signer,address taker," ++
    "uint256 tokenId,uint256 makerAmount,uint256 takerAmount," ++
    "uint256 expiration,uint256 nonce,uint256 feeRateBps," ++
    "uint8 side,uint8 signatureType)"

/-- The structure hash of an order; the first integer that does not fit is
blamed. -/
def structHash (order : Order) : Except Fault (Octets 32) := do
  let salt ← integerWord "salt" order.salt
  let tokenId ← integerWord "tokenId" order.tokenId
  let makerAmount ← integerWord "makerAmount" order.makerAmount
  let takerAmount ← integerWord "takerAmount" order.takerAmount
  let expiration ← integerWord "expiration" order.expiration
  let nonce ← integerWord "nonce" order.nonce
  let feeRateBps ← integerWord "feeRateBps" order.feeRateBps
  return hashWords [
    textWord orderTypeText,
    salt,
    addressWord order.maker,
    addressWord order.signer,
    addressWord order.taker,
    tokenId,
    makerAmount,
    takerAmount,
    expiration,
    nonce,
    feeRateBps,
    smallWord (UInt64.ofNat order.side.toNat),
    smallWord order.signatureType.toUInt64
  ]

/-- The digest of an order in a domain. -/
def digest (domain : Domain) (order : Order) : Except Fault (Octets 32) := do
  let orderHash ← structHash order
  return Keccak.hash (0x19 :: 0x01 :: (domain.separator.bytes ++ orderHash.bytes))

end OrderCustody.TypedData
