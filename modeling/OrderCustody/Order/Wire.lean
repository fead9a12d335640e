import OrderCustody.Json.Record
import OrderCustody.Json.Writer
import OrderCustody.Order.Request

namespace OrderCustody

/-!
# Order requests as JSON

The members of an order request in their order, how they are read, and how a
request is written back with `null` for what is absent.
-/

namespace Side

/-- The name of a side. -/
def name : Side → String
  | buy => "BUY"
  | sell => "SELL"

/-- The sides by their names. -/
def choices : List (String × Side) :=
  [buy, sell].map fun side => (side.name, side)

end Side

namespace OrderRequest

open Json in
/-- The members of an order, as they are read. -/
def members : List Member := [
  Member.required "salt" Reader.text,
  Member.required "maker" Reader.text,
  Member.required "signer" Reader.text,
  Member.optional "taker" Reader.text,
  Member.required "tokenId" Reader.text,
  Member.required "makerAmount" Reader.text,
  Member.required "takerAmount" Reader.text,
  Member.optional "expiration" Reader.text,
  Member.optional "nonce" Reader.text,
  Member.optional "feeRateBps" Reader.text,
  Member.required "side" (Reader.choice Side.choices),
  Member.withFallback "signatureType" Reader.byte 0
]

/-- The order of the values of its members. -/
def ofValues : Json.Values members → OrderRequest
  | (salt, maker, signer, taker, tokenId, makerAmount, takerAmount,
      expiration, nonce, feeRateBps, side, signatureType, ()) =>
    { salt, maker, signer, taker, tokenId, makerAmount, takerAmount,
      expiration, nonce, feeRateBps, side, signatureType }

/-- An order, read from an object with its members. -/
def reader : Json.Reader OrderRequest :=
  (Json.Reader.record "OrderRequest" members).map ofValues

/-- The order that a text is read as. -/
def ofJson (bytes : Bytes) : Except Json.Cause OrderRequest :=
  reader.run bytes

/-- An order as an object; what it leaves to its defaults is `null`. -/
def toJson (request : OrderRequest) : Json.Value :=
  .record [
    ("salt", .text request.salt),
    ("maker", .text request.maker),
    ("signer", .text request.signer),
    ("taker", .optionalText request.taker),
    ("tokenId", .text request.tokenId),
    ("makerAmount", .text request.makerAmount),
    ("takerAmount", .text request.takerAmount),
    ("expiration", .optionalText request.expiration),
    ("nonce", .optionalText request.nonce),
    ("feeRateBps", .optionalText request.feeRateBps),
    ("side", .text request.side.name),
    ("signatureType", .number request.signatureType.toNat)
  ]

end OrderRequest

/-- A request to sign, in which the order may be missing. -/
structure SignRequest where
  order : Option OrderRequest
  deriving DecidableEq, Repr

namespace SignRequest

/-- The members of a request to sign. -/
def members : List Json.Member :=
  [Json.Member.optional "order" OrderRequest.reader]

/-- Reading a request to sign. -/
def reader : Json.Reader SignRequest :=
  (Json.Reader.record "SignOrderRequest" members).map fun values =>
    { order := values.1 }

/-- The request that a text is read as. -/
def ofJson (bytes : Bytes) : Except Json.Cause SignRequest :=
  reader.run bytes

/-- A request as an object; an order that is missing is `null`. -/
def toJson (request : SignRequest) : Json.Value :=
  .record [
    ("order",
      match request.order with
      | some order => order.toJson
      | none => .null)
  ]

end SignRequest

end OrderCustody
