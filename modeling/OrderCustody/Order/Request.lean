import OrderCustody.Order.Basic
import OrderCustody.Order.Field

namespace OrderCustody

/-!
# Order requests

An order as callers submit it: every number as decimal text, every account as
hexadecimal text, and some fields optional.
-/

/-- An order as submitted. -/
structure OrderRequest where
  salt : String
  maker : String
  signer : String
  taker : Option String
  tokenId : String
  makerAmount : String
  takerAmount : String
  expiration : Option String
  nonce : Option String
  feeRateBps : Option String
  side : Side
  signatureType : UInt8
  deriving DecidableEq, Repr

namespace OrderRequest

/-- The highest signature type: a plain account, a proxy or a multi-signature
wallet. -/
def maxSignatureType : UInt8 := 2

/-- The order a request stands for; the first field at fault is blamed. -/
def parse (request : OrderRequest) : Except FieldFault Order := do
  if maxSignatureType < request.signatureType then
    throw (.signatureType request.signatureType)
  return {
    salt := ← Field.uint256 "salt" request.salt
    maker := ← Field.address "maker" request.maker
    signer := ← Field.address "signer" request.signer
    taker := ← Field.optionalAddress "taker" request.taker
    tokenId := ← Field.uint256 "tokenId" request.tokenId
    makerAmount := ← Field.uint256 "makerAmount" request.makerAmount
    takerAmount := ← Field.uint256 "takerAmount" request.takerAmount
    expiration := ← Field.optionalUint256 "expiration" request.expiration
    nonce := ← Field.optionalUint256 "nonce" request.nonce
    feeRateBps := ← Field.optionalUint256 "feeRateBps" request.feeRateBps
    side := request.side
    signatureType := request.signatureType
  }

end OrderRequest

end OrderCustody
