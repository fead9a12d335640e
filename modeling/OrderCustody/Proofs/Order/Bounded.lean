import OrderCustody.Order.Request
import OrderCustody.Proofs.TypedData.Word
import OrderCustody.TypedData.Digest

namespace OrderCustody

/-!
# Parsed orders can be hashed

Every number of a parsed order fits into 256 bits, so that its struct hash and its digest
exist in every domain.
-/

/-- An order whose numbers fit into a word. -/
structure Order.Bounded (order : Order) : Prop where
  salt : order.salt < Bytes.count 32
  tokenId : order.tokenId < Bytes.count 32
  makerAmount : order.makerAmount < Bytes.count 32
  takerAmount : order.takerAmount < Bytes.count 32
  expiration : order.expiration < Bytes.count 32
  nonce : order.nonce < Bytes.count 32
  feeRateBps : order.feeRateBps < Bytes.count 32

theorem bind_eq_ok
    {ε α β : Type}
    {read : Except ε α}
    {next : α → Except ε β}
    {result : β}
    (done : (read >>= next) = .ok result) :
    ∃ value, read = .ok value ∧ next value = .ok result := by
  cases read with
  | error => cases done
  | ok value => exact ⟨value, rfl, done⟩

namespace Field

theorem uint256_lt
    {field value : String}
    {number : Nat}
    (read : uint256 field value = .ok number) :
    number < Bytes.count 32 := by
  obtain ⟨decimal, -, checked⟩ := bind_eq_ok read
  by_cases wide : 256 < Decimal.bitLength decimal
  · rw [if_pos wide] at checked
    cases checked
  · rw [if_neg wide] at checked
    cases checked
    exact (Decimal.bitLength_le_iff _ 32).mp (Nat.le_of_not_lt wide)

theorem optionalUint256_lt
    {field : String}
    {value : Option String}
    {number : Nat}
    (read : optionalUint256 field value = .ok number) :
    number < Bytes.count 32 := by
  cases value with
  | some value => exact uint256_lt read
  | none =>
      cases read
      exact Nat.pow_pos (by decide)

end Field

/-- A parsed order is bounded. -/
theorem OrderRequest.bounded_of_parse
    {request : OrderRequest}
    {order : Order}
    (parsed : request.parse = .ok order) :
    order.Bounded := by
  unfold parse at parsed
  split at parsed
  · cases parsed
  · obtain ⟨salt, saltRead, parsed⟩ := bind_eq_ok parsed
    obtain ⟨maker, -, parsed⟩ := bind_eq_ok parsed
    obtain ⟨signer, -, parsed⟩ := bind_eq_ok parsed
    obtain ⟨taker, -, parsed⟩ := bind_eq_ok parsed
    obtain ⟨tokenId, tokenIdRead, parsed⟩ := bind_eq_ok parsed
    obtain ⟨makerAmount, makerAmountRead, parsed⟩ := bind_eq_ok parsed
    obtain ⟨takerAmount, takerAmountRead, parsed⟩ := bind_eq_ok parsed
    obtain ⟨expiration, expirationRead, parsed⟩ := bind_eq_ok parsed
    obtain ⟨nonce, nonceRead, parsed⟩ := bind_eq_ok parsed
    obtain ⟨feeRateBps, feeRateBpsRead, parsed⟩ := bind_eq_ok parsed
    cases parsed
    exact {
      salt := Field.uint256_lt saltRead
      tokenId := Field.uint256_lt tokenIdRead
      makerAmount := Field.uint256_lt makerAmountRead
      takerAmount := Field.uint256_lt takerAmountRead
      expiration := Field.optionalUint256_lt expirationRead
      nonce := Field.optionalUint256_lt nonceRead
      feeRateBps := Field.optionalUint256_lt feeRateBpsRead
    }

namespace TypedData

/-- A bounded order has a struct hash. -/
theorem exists_structHash
    {order : Order}
    (bounded : order.Bounded) :
    ∃ hash, structHash order = .ok hash := by
  simp only [structHash, integerWord_of_lt bounded.salt,
    integerWord_of_lt bounded.tokenId, integerWord_of_lt bounded.makerAmount,
    integerWord_of_lt bounded.takerAmount, integerWord_of_lt bounded.expiration,
    integerWord_of_lt bounded.nonce, integerWord_of_lt bounded.feeRateBps]
  exact ⟨_, rfl⟩

/-- A struct hash gives a digest in every domain. -/
theorem exists_digest
    {order : Order}
    {hash : Octets 32}
    (hashed : structHash order = .ok hash)
    (domain : Domain) :
    ∃ digest, TypedData.digest domain order = .ok digest := by
  rw [TypedData.digest, hashed]
  exact ⟨_, rfl⟩

end TypedData

end OrderCustody
