import OrderCustody.Proofs.Bytes.Text
import OrderCustody.Proofs.TypedData.Word
import OrderCustody.TypedData.Digest

namespace OrderCustody.TypedData

/-!
# What a digest binds

Two orders in two domains have the same digest only if both are the same, or else two
different byte strings among those hashed for them have the same hash.  The three
layers of hashing are peeled from the outside; at each layer a common hash either
shows such a collision or carries the equality on to what was hashed, and every
layout determines the fields it was made of.  Nothing is used of the hash function but
that it is one.
-/

/-! ## Words determine what they encode -/

theorem word_injective
    {first second : Nat}
    (firstFits : first < Bytes.count 32)
    (secondFits : second < Bytes.count 32)
    (same : Octets.ofNat 32 first = Octets.ofNat 32 second) :
    first = second := by
  have sameNumber := congrArg Octets.toNat same
  simpa [Octets.ofNat, Octets.toNat, Bytes.toNat_ofNat, Nat.mod_eq_of_lt firstFits,
    Nat.mod_eq_of_lt secondFits] using sameNumber

theorem integerWord_bind_eq_ok
    {Result : Type}
    {field : String}
    {value : Nat}
    {next : Octets 32 → Except Fault Result}
    {result : Result}
    (taken : (integerWord field value >>= next) = .ok result) :
    value < Bytes.count 32 ∧ next (Octets.ofNat 32 value) = .ok result := by
  by_cases fits : value < Bytes.count 32
  · rw [integerWord_of_lt fits] at taken
    exact ⟨fits, taken⟩
  · rw [integerWord_of_not_lt fits] at taken
    cases taken

theorem smallWord_injective
    {first second : UInt64}
    (same : smallWord first = smallWord second) :
    first = second := by
  have fits (value : UInt64) : value.toNat < Bytes.count 32 :=
    Nat.lt_of_lt_of_le value.toNat_lt (by decide)
  rw [smallWord_eq, smallWord_eq] at same
  exact UInt64.toNat_inj.mp (word_injective (fits first) (fits second) same)

theorem addressWord_injective
    {first second : Address}
    (same : addressWord first = addressWord second) :
    first = second := by
  have sameBytes := congrArg Octets.bytes same
  exact Octets.ext (List.append_cancel_left sameBytes)

/-- Words one after the other determine each of them. -/
theorem words_injective
    {first second : List (Octets 32)}
    (sameLength : first.length = second.length)
    (same : first.flatMap (·.bytes) = second.flatMap (·.bytes)) :
    first = second := by
  induction first generalizing second with
  | nil => exact (List.length_eq_zero_iff.mp sameLength.symm).symm
  | cons word words inductionHypothesis =>
      cases second with
      | nil => simp at sameLength
      | cons other others =>
          have widths : word.bytes.length = other.bytes.length :=
            word.length_eq.trans other.length_eq.symm
          simp only [List.flatMap_cons] at same
          obtain ⟨sameWord, sameRest⟩ := List.append_inj same widths
          have sameLengths : words.length = others.length := by simpa using sameLength
          rw [Octets.ext sameWord, inductionHypothesis sameLengths sameRest]

theorem side_injective
    {first second : Side}
    (same : UInt64.ofNat first.toNat = UInt64.ofNat second.toNat) :
    first = second := by
  cases first <;> cases second <;> first | rfl | simp [Side.toNat] at same

/-! ## What is hashed -/

/-- The words that a domain is hashed as. -/
def domainWords (domain : Domain) : List (Octets 32) := [
  textWord Domain.typeText,
  textWord domain.name,
  textWord domain.version,
  smallWord domain.chainId,
  addressWord domain.verifyingContract
]

/-- The words that an order is hashed as, if its integers fit. -/
def orderWords (order : Order) : List (Octets 32) := [
  textWord orderTypeText,
  Octets.ofNat 32 order.salt,
  addressWord order.maker,
  addressWord order.signer,
  addressWord order.taker,
  Octets.ofNat 32 order.tokenId,
  Octets.ofNat 32 order.makerAmount,
  Octets.ofNat 32 order.takerAmount,
  Octets.ofNat 32 order.expiration,
  Octets.ofNat 32 order.nonce,
  Octets.ofNat 32 order.feeRateBps,
  smallWord (UInt64.ofNat order.side.toNat),
  smallWord order.signatureType.toUInt64
]

/-- The byte string that the digest of an order in a domain is the hash of. -/
def digestMessage (domain : Domain) (order : Order) : Bytes :=
  0x19 :: 0x01 ::
    ((hashWords (domainWords domain)).bytes ++ (hashWords (orderWords order)).bytes)

/-- The byte strings that are hashed for the separator of a domain. -/
def domainMessages (domain : Domain) : List Bytes := [
  Bytes.ofText Domain.typeText,
  Bytes.ofText domain.name,
  Bytes.ofText domain.version,
  (domainWords domain).flatMap (·.bytes)
]

/-- The byte strings that are hashed for the structure hash of an order. -/
def orderMessages (order : Order) : List Bytes := [
  Bytes.ofText orderTypeText,
  (orderWords order).flatMap (·.bytes)
]

/-- The byte strings that are hashed for the digest of an order in a domain. -/
def hashed (domain : Domain) (order : Order) : List Bytes :=
  domainMessages domain ++ orderMessages order ++ [digestMessage domain order]

/-- Every integer of an order has a word of its own. -/
structure Fits (order : Order) : Prop where
  salt : order.salt < Bytes.count 32
  tokenId : order.tokenId < Bytes.count 32
  makerAmount : order.makerAmount < Bytes.count 32
  takerAmount : order.takerAmount < Bytes.count 32
  expiration : order.expiration < Bytes.count 32
  nonce : order.nonce < Bytes.count 32
  feeRateBps : order.feeRateBps < Bytes.count 32

theorem structHash_eq_ok
    {order : Order}
    {hash : Octets 32}
    (hashing : structHash order = .ok hash) :
    Fits order ∧ hash = hashWords (orderWords order) := by
  unfold structHash at hashing
  obtain ⟨salt, hashing⟩ := integerWord_bind_eq_ok hashing
  obtain ⟨tokenId, hashing⟩ := integerWord_bind_eq_ok hashing
  obtain ⟨makerAmount, hashing⟩ := integerWord_bind_eq_ok hashing
  obtain ⟨takerAmount, hashing⟩ := integerWord_bind_eq_ok hashing
  obtain ⟨expiration, hashing⟩ := integerWord_bind_eq_ok hashing
  obtain ⟨nonce, hashing⟩ := integerWord_bind_eq_ok hashing
  obtain ⟨feeRateBps, hashing⟩ := integerWord_bind_eq_ok hashing
  cases hashing
  exact ⟨⟨salt, tokenId, makerAmount, takerAmount, expiration, nonce, feeRateBps⟩, rfl⟩

theorem digest_eq_ok
    {domain : Domain}
    {order : Order}
    {hash : Octets 32}
    (hashing : digest domain order = .ok hash) :
    Fits order ∧ hash = Keccak.hash (digestMessage domain order) := by
  unfold digest at hashing
  cases orderHashing : structHash order with
  | error fault =>
      rw [orderHashing] at hashing
      cases hashing
  | ok orderHash =>
      obtain ⟨fits, rfl⟩ := structHash_eq_ok orderHashing
      rw [orderHashing] at hashing
      cases hashing
      exact ⟨fits, rfl⟩

/-! ## Peeling the layers -/

/-- Two different byte strings among these have the same hash. -/
def Collide (messages : List Bytes) : Prop :=
  ∃ first ∈ messages, ∃ second ∈ messages,
    first ≠ second ∧ Keccak.hash first = Keccak.hash second

section Peeling

variable {messages : List Bytes}

theorem eq_of_hash_eq
    (free : ¬ Collide messages)
    {first second : Bytes}
    (firstHashed : first ∈ messages)
    (secondHashed : second ∈ messages)
    (same : Keccak.hash first = Keccak.hash second) :
    first = second := by
  refine Classical.byContradiction fun different => free ?_
  exact ⟨first, firstHashed, second, secondHashed, different, same⟩

theorem text_eq_of_textWord_eq
    (free : ¬ Collide messages)
    {first second : String}
    (firstHashed : Bytes.ofText first ∈ messages)
    (secondHashed : Bytes.ofText second ∈ messages)
    (same : textWord first = textWord second) :
    first = second :=
  Bytes.ofText_injective (eq_of_hash_eq free firstHashed secondHashed same)

theorem words_eq_of_hashWords_eq
    (free : ¬ Collide messages)
    {first second : List (Octets 32)}
    (sameLength : first.length = second.length)
    (firstHashed : first.flatMap (·.bytes) ∈ messages)
    (secondHashed : second.flatMap (·.bytes) ∈ messages)
    (same : hashWords first = hashWords second) :
    first = second :=
  words_injective sameLength (eq_of_hash_eq free firstHashed secondHashed same)

theorem domain_eq_of_hashWords_eq
    (free : ¬ Collide messages)
    {first second : Domain}
    (firstHashed : domainMessages first ⊆ messages)
    (secondHashed : domainMessages second ⊆ messages)
    (same : hashWords (domainWords first) = hashWords (domainWords second)) :
    first = second := by
  have sameWords : domainWords first = domainWords second :=
    words_eq_of_hashWords_eq free (by simp [domainWords])
      (firstHashed (by simp [domainMessages]))
      (secondHashed (by simp [domainMessages])) same
  simp only [domainWords, List.cons.injEq, and_true, true_and] at sameWords
  obtain ⟨nameWords, versionWords, chainWords, contractWords⟩ := sameWords
  have sameName : first.name = second.name :=
    text_eq_of_textWord_eq free (firstHashed (by simp [domainMessages]))
      (secondHashed (by simp [domainMessages])) nameWords
  have sameVersion : first.version = second.version :=
    text_eq_of_textWord_eq free (firstHashed (by simp [domainMessages]))
      (secondHashed (by simp [domainMessages])) versionWords
  have sameChain : first.chainId = second.chainId := smallWord_injective chainWords
  have sameContract : first.verifyingContract = second.verifyingContract :=
    addressWord_injective contractWords
  cases first
  cases second
  congr

theorem order_eq_of_hashWords_eq
    (free : ¬ Collide messages)
    {first second : Order}
    (firstFits : Fits first)
    (secondFits : Fits second)
    (firstHashed : orderMessages first ⊆ messages)
    (secondHashed : orderMessages second ⊆ messages)
    (same : hashWords (orderWords first) = hashWords (orderWords second)) :
    first = second := by
  have sameWords : orderWords first = orderWords second :=
    words_eq_of_hashWords_eq free (by simp [orderWords])
      (firstHashed (by simp [orderMessages]))
      (secondHashed (by simp [orderMessages])) same
  simp only [orderWords, List.cons.injEq, and_true, true_and] at sameWords
  obtain ⟨salt, maker, signer, taker, tokenId, makerAmount, takerAmount, expiration,
    nonce, feeRateBps, side, signatureType⟩ := sameWords
  have sameSalt := word_injective firstFits.salt secondFits.salt salt
  have sameTokenId := word_injective firstFits.tokenId secondFits.tokenId tokenId
  have sameMakerAmount :=
    word_injective firstFits.makerAmount secondFits.makerAmount makerAmount
  have sameTakerAmount :=
    word_injective firstFits.takerAmount secondFits.takerAmount takerAmount
  have sameExpiration :=
    word_injective firstFits.expiration secondFits.expiration expiration
  have sameNonce := word_injective firstFits.nonce secondFits.nonce nonce
  have sameFeeRateBps :=
    word_injective firstFits.feeRateBps secondFits.feeRateBps feeRateBps
  have sameMaker := addressWord_injective maker
  have sameSigner := addressWord_injective signer
  have sameTaker := addressWord_injective taker
  have sameSide := side_injective (smallWord_injective side)
  have sameSignatureType : first.signatureType = second.signatureType :=
    UInt8.toUInt64_inj.mp (smallWord_injective signatureType)
  cases first
  cases second
  congr

end Peeling

/--
A digest binds the domain and the order.

If two digests that are given are the same, either all fields of the domains and of
the orders are the same, or two different byte strings among those hashed for the two
digests have the same hash.
-/
theorem digest_binds
    {firstDomain secondDomain : Domain}
    {firstOrder secondOrder : Order}
    {hash : Octets 32}
    (firstDigest : digest firstDomain firstOrder = .ok hash)
    (secondDigest : digest secondDomain secondOrder = .ok hash) :
    (firstDomain = secondDomain ∧ firstOrder = secondOrder) ∨
      ∃ first ∈ hashed firstDomain firstOrder ++ hashed secondDomain secondOrder,
        ∃ second ∈ hashed firstDomain firstOrder ++ hashed secondDomain secondOrder,
          first ≠ second ∧ Keccak.hash first = Keccak.hash second := by
  obtain ⟨firstFits, firstHash⟩ := digest_eq_ok firstDigest
  obtain ⟨secondFits, secondHash⟩ := digest_eq_ok secondDigest
  let messages := hashed firstDomain firstOrder ++ hashed secondDomain secondOrder
  by_cases free : Collide messages
  · exact .inr free
  · have sameMessage :
        digestMessage firstDomain firstOrder = digestMessage secondDomain secondOrder :=
      eq_of_hash_eq free (by simp [messages, hashed]) (by simp [messages, hashed])
        (firstHash.symm.trans secondHash)
    simp only [digestMessage, List.cons.injEq, true_and] at sameMessage
    obtain ⟨sameSeparator, sameOrderHash⟩ :=
      List.append_inj sameMessage (by simp only [Octets.length_eq])
    have hashedDomain {domain : Domain} {order : Order} :
        domainMessages domain ⊆ hashed domain order := by
      simp [hashed, List.append_assoc]
    have hashedOrder {domain : Domain} {order : Order} :
        orderMessages order ⊆ hashed domain order := by
      simp [hashed]
    refine .inl ⟨?_, ?_⟩
    · exact
        domain_eq_of_hashWords_eq free
          (fun _ member => List.mem_append_left _ (hashedDomain member))
          (fun _ member => List.mem_append_right _ (hashedDomain member))
          (Octets.ext sameSeparator)
    · exact
        order_eq_of_hashWords_eq free firstFits secondFits
          (fun _ member => List.mem_append_left _ (hashedOrder member))
          (fun _ member => List.mem_append_right _ (hashedOrder member))
          (Octets.ext sameOrderHash)

/-- An order whose integers are the widest has a digest in a domain, which binds them. -/
theorem digest_binds_widest :
    let domain : Domain := ⟨"Desk", "1", 137, .zero 20⟩
    let order : Order := {
      salt := Bytes.count 32 - 1
      maker := .zero 20
      signer := .ofNat 20 1
      taker := .zero 20
      tokenId := Bytes.count 32 - 1
      makerAmount := Bytes.count 32 - 1
      takerAmount := 1
      expiration := 0
      nonce := 0
      feeRateBps := 0
      side := .sell
      signatureType := 255
    }
    let rewritten : Order := { order with maker := .ofNat 20 (Bytes.count 20) }
    ∃ hash, digest domain order = .ok hash ∧ digest domain rewritten = .ok hash ∧
      ((domain = domain ∧ order = rewritten) ∨
        ∃ first ∈ hashed domain order ++ hashed domain rewritten,
          ∃ second ∈ hashed domain order ++ hashed domain rewritten,
            first ≠ second ∧ Keccak.hash first = Keccak.hash second) := by
  intro domain order rewritten
  have given : ∃ hash, digest domain order = .ok hash := by
    simp only [domain, order]
    exact ⟨_, rfl⟩
  obtain ⟨hash, given⟩ := given
  have same : order = rewritten := by decide
  have givenAgain : digest domain rewritten = .ok hash := same ▸ given
  exact ⟨hash, given, givenAgain, digest_binds given givenAgain⟩

end OrderCustody.TypedData
