import OrderCustody.Proofs.TypedData.Binding

namespace OrderCustody.TypedData

/-!
# Hashing by a schema

A schema lists the members of a structure with their types.  The type text, the words
and their order all follow from it, so that they cannot drift apart.  Hashing a domain
and an order comes to hashing them by their schemas.
-/

namespace Schema

/-- The types of members. -/
inductive Kind where
  /-- An unsigned integer of so many bits. -/
  | uint (bits : Nat)
  | address
  | string

namespace Kind

/-- A type as it is spelled in a type text. -/
def text : Kind → String
  | uint bits => "uint" ++ Decimal.text bits
  | address => "address"
  | string => "string"

/-- The values of a type. -/
def Carrier : Kind → Type
  | uint _ => Nat
  | address => Address
  | string => String

/-- The word of a value: a number in big-endian form, an address as the number that its
bytes are, a text as the hash of its bytes. -/
def word : (kind : Kind) → kind.Carrier → Octets 32
  | uint _, value => Octets.ofNat 32 value
  | address, value => Octets.ofNat 32 (Octets.toNat value)
  | string, value => Keccak.hash (Bytes.ofText value)

end Kind

/-- A member of a structure with its value. -/
structure Member where
  kind : Kind
  name : String
  value : kind.Carrier

/-- The type text of a structure. -/
def typeText (name : String) (members : List Member) : String :=
  name ++ "(" ++
    ",".intercalate (members.map fun member => member.kind.text ++ " " ++ member.name) ++
    ")"

/-- The hash of a structure: the hash of its type text, then the words of its members. -/
def hash (name : String) (members : List Member) : Octets 32 :=
  Keccak.hash
    ((Keccak.hash (Bytes.ofText (typeText name members))).bytes ++
      members.flatMap fun member => (member.kind.word member.value).bytes)

/-- The members of a domain. -/
def ofDomain (domain : Domain) : List Member := [
  ⟨.string, "name", domain.name⟩,
  ⟨.string, "version", domain.version⟩,
  ⟨.uint 256, "chainId", domain.chainId.toNat⟩,
  ⟨.address, "verifyingContract", domain.verifyingContract⟩
]

/-- The members of an order. -/
def ofOrder (order : Order) : List Member := [
  ⟨.uint 256, "salt", order.salt⟩,
  ⟨.address, "maker", order.maker⟩,
  ⟨.address, "signer", order.signer⟩,
  ⟨.address, "taker", order.taker⟩,
  ⟨.uint 256, "tokenId", order.tokenId⟩,
  ⟨.uint 256, "makerAmount", order.makerAmount⟩,
  ⟨.uint 256, "takerAmount", order.takerAmount⟩,
  ⟨.uint 256, "expiration", order.expiration⟩,
  ⟨.uint 256, "nonce", order.nonce⟩,
  ⟨.uint 256, "feeRateBps", order.feeRateBps⟩,
  ⟨.uint 8, "side", order.side.toNat⟩,
  ⟨.uint 8, "signatureType", order.signatureType.toNat⟩
]

/-- The words that a structure is hashed as. -/
theorem hash_eq_hashWords (name : String) (members : List Member) :
    hash name members =
      hashWords
        (textWord (typeText name members) ::
          members.map fun member => member.kind.word member.value) := by
  rw [hash, hashWords, List.flatMap_cons, List.flatMap_map, textWord]

theorem typeText_ofDomain (domain : Domain) :
    typeText "EIP712Domain" (ofDomain domain) = Domain.typeText := by
  simp only [typeText, ofDomain, List.map_cons, List.map_nil, Kind.text]
  decide +kernel

theorem typeText_ofOrder (order : Order) :
    typeText "Order" (ofOrder order) = orderTypeText := by
  simp only [typeText, ofOrder, List.map_cons, List.map_nil, Kind.text]
  decide +kernel

/-- The words of a domain are those of its members. -/
theorem words_ofDomain (domain : Domain) :
    textWord (typeText "EIP712Domain" (ofDomain domain)) ::
        (ofDomain domain).map (fun member => member.kind.word member.value) =
      domainWords domain := by
  rw [typeText_ofDomain, domainWords, smallWord_eq, addressWord_eq]
  rfl

/-- The words of an order are those of its members. -/
theorem words_ofOrder (order : Order) :
    textWord (typeText "Order" (ofOrder order)) ::
        (ofOrder order).map (fun member => member.kind.word member.value) =
      orderWords order := by
  have side : (UInt64.ofNat order.side.toNat).toNat = order.side.toNat := by
    cases order.side <;> rfl
  have signatureType : order.signatureType.toUInt64.toNat = order.signatureType.toNat := rfl
  rw [typeText_ofOrder, orderWords, smallWord_eq, smallWord_eq, addressWord_eq,
    addressWord_eq, addressWord_eq, side, signatureType]
  rfl

end Schema

/-! ## Integers that do not fit -/

/-- The integers of an order, in the order in which they are encoded. -/
def integers (order : Order) : List (String × Nat) := [
  ("salt", order.salt),
  ("tokenId", order.tokenId),
  ("makerAmount", order.makerAmount),
  ("takerAmount", order.takerAmount),
  ("expiration", order.expiration),
  ("nonce", order.nonce),
  ("feeRateBps", order.feeRateBps)
]

/-- A hash, unless an integer has no word; the first such integer is blamed. -/
def settle (hash : Octets 32) : List (String × Nat) → Except Fault (Octets 32)
  | [] => .ok hash
  | (field, value) :: rest =>
      if value < Bytes.count 32 then settle hash rest else .error (.overflow field)

theorem settle_eq_ok_iff
    (hash result : Octets 32)
    (integers : List (String × Nat)) :
    settle hash integers = .ok result ↔
      (∀ integer ∈ integers, integer.2 < Bytes.count 32) ∧ result = hash := by
  induction integers with
  | nil =>
      constructor
      · rintro ⟨⟩
        exact ⟨nofun, rfl⟩
      · rintro ⟨-, rfl⟩
        rfl
  | cons integer rest inductionHypothesis =>
      rw [settle, List.forall_mem_cons]
      by_cases fits : integer.2 < Bytes.count 32
      · rw [if_pos fits, inductionHypothesis]
        exact ⟨fun ⟨others, same⟩ => ⟨⟨fits, others⟩, same⟩,
          fun ⟨⟨_, others⟩, same⟩ => ⟨others, same⟩⟩
      · rw [if_neg fits]
        exact ⟨nofun, fun ⟨⟨below, _⟩, _⟩ => absurd below fits⟩

theorem settle_eq_error_iff
    (hash : Octets 32)
    (field : String)
    (integers : List (String × Nat)) :
    settle hash integers = .error (.overflow field) ↔
      ∃ before value after,
        integers = before ++ (field, value) :: after ∧
          (∀ integer ∈ before, integer.2 < Bytes.count 32) ∧
          Bytes.count 32 ≤ value := by
  induction integers with
  | nil =>
      constructor
      · exact nofun
      · rintro ⟨before, value, after, split, -⟩
        simp at split
  | cons integer rest inductionHypothesis =>
      obtain ⟨name, number⟩ := integer
      rw [settle]
      by_cases fits : number < Bytes.count 32
      · rw [if_pos fits, inductionHypothesis]
        constructor
        · rintro ⟨before, value, after, rfl, below, wide⟩
          exact ⟨(name, number) :: before, value, after, rfl,
            List.forall_mem_cons.mpr ⟨fits, below⟩, wide⟩
        · rintro ⟨before, value, after, split, below, wide⟩
          cases before with
          | nil =>
              cases split
              exact absurd fits (Nat.not_lt.mpr wide)
          | cons head before =>
              cases split
              exact ⟨before, value, after, rfl, (List.forall_mem_cons.mp below).2, wide⟩
      · rw [if_neg fits]
        constructor
        · rintro ⟨⟩
          exact ⟨[], number, rest, rfl, nofun, Nat.le_of_not_lt fits⟩
        · rintro ⟨before, value, after, split, below, wide⟩
          cases before with
          | nil =>
              cases split
              rfl
          | cons head before =>
              cases split
              exact absurd (below _ List.mem_cons_self) fits

/-- Encoding an integer settles it, and what follows settles the others. -/
theorem integerWord_bind_eq_settle
    {field : String}
    {value : Nat}
    {next : Octets 32 → Except Fault (Octets 32)}
    {hash : Octets 32}
    {rest : List (String × Nat)}
    (settled : next (Octets.ofNat 32 value) = settle hash rest) :
    (integerWord field value >>= next) = settle hash ((field, value) :: rest) := by
  by_cases fits : value < Bytes.count 32
  · rw [integerWord_of_lt fits, settle, if_pos fits]
    exact settled
  · rw [integerWord_of_not_lt fits, settle, if_neg fits]
    rfl

theorem structHash_eq_settle (order : Order) :
    structHash order = settle (hashWords (orderWords order)) (integers order) := by
  unfold structHash integers
  iterate 7 apply integerWord_bind_eq_settle
  rfl

/--
Domains and orders are hashed by their schemas.

The separator of a domain is its hash by its schema.  An order, its integers of any size,
has a struct hash exactly if all seven of them are below two to the 256, and then it is
the hash by the schema; otherwise the first one that is not is blamed.  The digest is the
hash of a mark, the separator and the struct hash.
-/
theorem hashing_follows_schema (domain : Domain) (order : Order) :
    domain.separator = Schema.hash "EIP712Domain" (Schema.ofDomain domain) ∧
      (∀ hash,
        structHash order = .ok hash ↔
          (∀ integer ∈ integers order, integer.2 < Nat.pow 2 256) ∧
            hash = Schema.hash "Order" (Schema.ofOrder order)) ∧
      (∀ field,
        structHash order = .error (.overflow field) ↔
          ∃ before value after,
            integers order = before ++ (field, value) :: after ∧
              (∀ integer ∈ before, integer.2 < Nat.pow 2 256) ∧
              Nat.pow 2 256 ≤ value) ∧
      digest domain order =
        (structHash order).map fun hash =>
          Keccak.hash (0x19 :: 0x01 :: (domain.separator.bytes ++ hash.bytes)) := by
  have bound : Nat.pow 2 256 = Bytes.count 32 := by decide
  rw [bound, Schema.hash_eq_hashWords, Schema.hash_eq_hashWords, Schema.words_ofDomain,
    Schema.words_ofOrder, structHash_eq_settle]
  refine ⟨rfl, ?_, ?_, ?_⟩
  · exact fun hash => settle_eq_ok_iff _ hash _
  · exact fun field => settle_eq_error_iff _ field _
  · rw [digest, structHash_eq_settle]
    cases settle (hashWords (orderWords order)) (integers order) with
    | error fault => rfl
    | ok hash => rfl

end OrderCustody.TypedData
