import OrderCustody.Desk.Basic
import OrderCustody.Proofs.Address.Checksum
import OrderCustody.Proofs.Bytes.Hex
import OrderCustody.Proofs.Decimal
import OrderCustody.Proofs.Order.Bounded

namespace OrderCustody

/-!
# The grammar of order requests

Which texts the fields of a request may have, and which order they stand for.  Exactly
the requests of this grammar are parsed, to exactly that order; of any other request the
first field outside it is blamed.  Every order that fits its words can be written so that
it is parsed again.
-/

/-- A byte string is read as octets exactly if it is theirs. -/
theorem Octets.ofBytes?_eq_some_iff {size : Nat} (bytes : Bytes) (octets : Octets size) :
    ofBytes? size bytes = some octets ↔ bytes = octets.bytes := by
  constructor
  · intro read
    unfold ofBytes? at read
    split at read
    · cases read
      rfl
    · cases read
  · rintro rfl
    exact ofBytes?_bytes octets

namespace Field

/-! ## Texts of fields -/

/-- A text that is an amount: digits, denoting a number of at most 256 bits. -/
structure Amount (text : String) (number : Nat) : Prop where
  denoted : Decimal.Denotes text.toList number
  bounded : number < Nat.pow 2 256

/-- A text that is an account: a mark and forty hexadecimal digits of either case, two for
each of its bytes. -/
inductive Account (text : String) (address : Address) : Prop where
  | marked
      {mark : Char}
      {digits : List Char}
      (eitherCase : mark = 'x' ∨ mark = 'X')
      (spelled : text.toList = '0' :: mark :: digits)
      (forty : digits.length = 40)
      (spells : Hex.Spells digits address.bytes) :
      Account text address

/-- What a text that may be missing means, when it is there and when it is not. -/
inductive Optional {α : Type} (means : String → α → Prop) (absent : α) :
    Option String → α → Prop where
  | present
      {text : String}
      {value : α}
      (meant : means text value) :
      Optional means absent (some text) value
  | missing : Optional means absent none absent

/-! ## Reading them -/

/-- A reading of a field: it gives exactly what the text means, and blames the field if
the text means nothing. -/
structure Reads {α : Type} (read : Except FieldFault α) (field : String) (Means : α → Prop) :
    Prop where
  ok_iff : ∀ value, read = .ok value ↔ Means value
  blamed : ∀ fault, read = .error fault → fault.field = field

theorem reads_uint256 (field text : String) :
    Reads (uint256 field text) field (Amount text) := by
  have bound : Bytes.count 32 = Nat.pow 2 256 := by decide
  rw [uint256, decimal]
  cases parsing : Decimal.parse? text with
  | none =>
      refine ⟨fun number => ⟨nofun, fun amount => ?_⟩, fun fault failed => ?_⟩
      · have read := (Decimal.parse?_eq_some_iff text number).mpr amount.denoted
        rw [parsing] at read
        cases read
      · cases failed
        rfl
  | some parsed =>
      have denoted := (Decimal.parse?_eq_some_iff text parsed).mp parsing
      have fits : Decimal.bitLength parsed ≤ 256 ↔ parsed < Nat.pow 2 256 :=
        bound ▸ Decimal.bitLength_le_iff parsed 32
      by_cases wide : 256 < Decimal.bitLength parsed
      · simp only [bind, Except.bind, wide, ↓reduceIte]
        refine ⟨fun number => ⟨nofun, fun amount => ?_⟩, fun fault failed => ?_⟩
        · obtain rfl : parsed = number := by
            rw [← denoted.value_eq, amount.denoted.value_eq]
          exact absurd (fits.mpr amount.bounded) (Nat.not_le.mpr wide)
        · cases failed
          rfl
      · simp only [bind, Except.bind, wide, ↓reduceIte]
        refine ⟨fun number => ⟨?_, fun amount => ?_⟩, nofun⟩
        · rintro ⟨⟩
          exact ⟨denoted, fits.mp (Nat.le_of_not_lt wide)⟩
        · obtain rfl : parsed = number := by
            rw [← denoted.value_eq, amount.denoted.value_eq]
          rfl

theorem reads_address (field text : String) :
    Reads (address field text) field (Account text) := by
  refine ⟨fun account => ?_, fun fault failed => ?_⟩
  · rw [← toOption_eq_some_iff, toOption_address]
    simp only [Option.bind_eq_some_iff, Address.unmarked?_eq_some_iff,
      Hex.bytes?_eq_some_iff, Octets.ofBytes?_eq_some_iff]
    constructor
    · rintro ⟨digits, ⟨mark, eitherCase, spelled⟩, bytes, spells, rfl⟩
      have forty : digits.length = 40 := by
        rw [spells.length_eq, account.length_eq]
      exact .marked eitherCase spelled forty spells
    · rintro ⟨eitherCase, spelled, -, spells⟩
      exact ⟨_, ⟨_, eitherCase, spelled⟩, _, spells, rfl⟩
  · unfold address at failed
    split at failed
    · cases failed
      rfl
    split at failed
    · cases failed
      rfl
    split at failed
    · cases failed
      rfl
    · cases failed

/-- A text that may be missing is read as one that is there, unless it is missing. -/
theorem Reads.optional
    {α : Type}
    {read : String → Except FieldFault α}
    {field : String}
    {means : String → α → Prop}
    (reads : ∀ text, Reads (read text) field (means text))
    (absent : α)
    (text? : Option String) :
    Reads (text?.elim (.ok absent) read) field (Optional means absent text?) := by
  cases text? with
  | none =>
      refine ⟨fun value => ⟨?_, ?_⟩, nofun⟩
      · rintro ⟨⟩
        exact .missing
      · rintro ⟨⟩
        rfl
  | some text =>
      refine ⟨fun value => ⟨fun read => ?_, ?_⟩, (reads text).blamed⟩
      · exact .present (((reads text).ok_iff value).mp read)
      · rintro ⟨meant⟩
        exact ((reads text).ok_iff value).mpr meant

theorem reads_optionalUint256 (field : String) (text? : Option String) :
    Reads (optionalUint256 field text?) field (Optional Amount 0 text?) := by
  cases text? with
  | none => exact .optional (reads_uint256 field) 0 none
  | some text => exact .optional (reads_uint256 field) 0 (some text)

theorem reads_optionalAddress (field : String) (text? : Option String) :
    Reads (optionalAddress field text?) field (Optional Account (Octets.zero 20) text?) := by
  cases text? with
  | none => exact .optional (reads_address field) (Octets.zero 20) none
  | some text => exact .optional (reads_address field) (Octets.zero 20) (some text)

end Field

/-! ## Requests -/

/-- The first check that fails, by its name. -/
inductive FirstFailing : List (String × Prop) → String → Prop where
  | here
      {name : String}
      {holds : Prop}
      {checks : List (String × Prop)}
      (fails : ¬ holds) :
      FirstFailing ((name, holds) :: checks) name
  | later
      {name other : String}
      {holds : Prop}
      {checks : List (String × Prop)}
      (passes : holds)
      (first : FirstFailing checks name) :
      FirstFailing ((other, holds) :: checks) name

namespace FirstFailing

variable {checks : List (String × Prop)} {name : String}

theorem exists_fails (first : FirstFailing checks name) :
    ∃ holds, (name, holds) ∈ checks ∧ ¬ holds := by
  induction first with
  | here fails => exact ⟨_, List.mem_cons_self, fails⟩
  | later _ _ inductionHypothesis =>
      obtain ⟨holds, member, fails⟩ := inductionHypothesis
      exact ⟨holds, List.mem_cons_of_mem _ member, fails⟩

theorem unique
    {other : String}
    (first : FirstFailing checks name)
    (otherFirst : FirstFailing checks other) :
    name = other := by
  induction first with
  | here fails =>
      cases otherFirst with
      | here => rfl
      | later passes => exact absurd passes fails
  | later passes _ inductionHypothesis =>
      cases otherFirst with
      | here fails => exact absurd passes fails
      | later _ otherFirst => exact inductionHypothesis otherFirst

end FirstFailing

/-- A result that goes by checks: there is one if all of them hold, and otherwise the
first that does not is blamed. -/
def GoesBy {α : Type} (checks : List (String × Prop)) : Except FieldFault α → Prop
  | .ok _ => ∀ check ∈ checks, check.2
  | .error fault => FirstFailing checks fault.field

/-- A check in front that passes leaves the result to the others. -/
theorem GoesBy.cons
    {α : Type}
    {name : String}
    {holds : Prop}
    {checks : List (String × Prop)}
    {result : Except FieldFault α}
    (passes : holds)
    (behind : GoesBy checks result) :
    GoesBy ((name, holds) :: checks) result := by
  cases result with
  | error fault => exact FirstFailing.later passes behind
  | ok value => exact List.forall_mem_cons.mpr ⟨passes, behind⟩

/-- Reading a field checks it, before all that comes behind. -/
theorem goesBy_bind
    {α β : Type}
    {read : Except FieldFault α}
    {field : String}
    {Means : α → Prop}
    {next : α → Except FieldFault β}
    {checks : List (String × Prop)}
    (reads : Field.Reads read field Means)
    (behind : ∀ value, GoesBy checks (next value)) :
    GoesBy ((field, ∃ value, Means value) :: checks) (read >>= next) := by
  cases reading : read with
  | error fault =>
      have fails : ¬ ∃ value, Means value := by
        rintro ⟨value, meant⟩
        have read := (reads.ok_iff value).mpr meant
        rw [reading] at read
        cases read
      obtain rfl := reads.blamed fault reading
      exact FirstFailing.here fails
  | ok value =>
      have passes : ∃ value, Means value := ⟨value, (reads.ok_iff value).mp reading⟩
      exact GoesBy.cons passes (behind value)

namespace OrderRequest

/-- The checks of a request, in their order. -/
def checks (request : OrderRequest) : List (String × Prop) := [
  ("signatureType", request.signatureType.toNat ≤ 2),
  ("salt", ∃ number, Field.Amount request.salt number),
  ("maker", ∃ address, Field.Account request.maker address),
  ("signer", ∃ address, Field.Account request.signer address),
  ("taker", ∃ address, Field.Optional Field.Account (Octets.zero 20) request.taker address),
  ("tokenId", ∃ number, Field.Amount request.tokenId number),
  ("makerAmount", ∃ number, Field.Amount request.makerAmount number),
  ("takerAmount", ∃ number, Field.Amount request.takerAmount number),
  ("expiration", ∃ number, Field.Optional Field.Amount 0 request.expiration number),
  ("nonce", ∃ number, Field.Optional Field.Amount 0 request.nonce number),
  ("feeRateBps", ∃ number, Field.Optional Field.Amount 0 request.feeRateBps number)
]

/-- An order that a request stands for: what its fields mean, and zero or the zero
address for what is missing. -/
structure StandsFor (request : OrderRequest) (order : Order) : Prop where
  known : request.signatureType.toNat ≤ 2
  salt : Field.Amount request.salt order.salt
  maker : Field.Account request.maker order.maker
  signer : Field.Account request.signer order.signer
  taker : Field.Optional Field.Account (Octets.zero 20) request.taker order.taker
  tokenId : Field.Amount request.tokenId order.tokenId
  makerAmount : Field.Amount request.makerAmount order.makerAmount
  takerAmount : Field.Amount request.takerAmount order.takerAmount
  expiration : Field.Optional Field.Amount 0 request.expiration order.expiration
  nonce : Field.Optional Field.Amount 0 request.nonce order.nonce
  feeRateBps : Field.Optional Field.Amount 0 request.feeRateBps order.feeRateBps
  side : order.side = request.side
  signatureType : order.signatureType = request.signatureType

theorem lt_signatureType_iff (signatureType : UInt8) :
    maxSignatureType < signatureType ↔ ¬ signatureType.toNat ≤ 2 := by
  rw [Nat.not_le]
  exact UInt8.lt_iff_toNat_lt

/-- Parsing a request goes by its checks. -/
theorem goesBy_parse (request : OrderRequest) : GoesBy request.checks request.parse := by
  unfold parse checks
  by_cases unknown : maxSignatureType < request.signatureType
  · rw [if_pos unknown]
    exact FirstFailing.here ((lt_signatureType_iff _).mp unknown)
  · rw [if_neg unknown]
    have known : request.signatureType.toNat ≤ 2 :=
      Decidable.not_not.mp (mt (lt_signatureType_iff _).mpr unknown)
    refine .cons known ?_
    refine goesBy_bind (Field.reads_uint256 _ _) fun salt => ?_
    refine goesBy_bind (Field.reads_address _ _) fun maker => ?_
    refine goesBy_bind (Field.reads_address _ _) fun signer => ?_
    refine goesBy_bind (Field.reads_optionalAddress _ _) fun taker => ?_
    refine goesBy_bind (Field.reads_uint256 _ _) fun tokenId => ?_
    refine goesBy_bind (Field.reads_uint256 _ _) fun makerAmount => ?_
    refine goesBy_bind (Field.reads_uint256 _ _) fun takerAmount => ?_
    refine goesBy_bind (Field.reads_optionalUint256 _ _) fun expiration => ?_
    refine goesBy_bind (Field.reads_optionalUint256 _ _) fun nonce => ?_
    refine goesBy_bind (Field.reads_optionalUint256 _ _) fun feeRateBps => ?_
    exact List.forall_mem_nil _

/-- A request is parsed to the order that it stands for, and to no other. -/
theorem parse_eq_ok_iff (request : OrderRequest) (order : Order) :
    request.parse = .ok order ↔ request.StandsFor order := by
  constructor
  · intro parsed
    unfold parse at parsed
    by_cases unknown : maxSignatureType < request.signatureType
    · rw [if_pos unknown] at parsed
      cases parsed
    · rw [if_neg unknown] at parsed
      have known : request.signatureType.toNat ≤ 2 :=
        Decidable.not_not.mp (mt (lt_signatureType_iff _).mpr unknown)
      obtain ⟨salt, saltRead, parsed⟩ := bind_eq_ok parsed
      obtain ⟨maker, makerRead, parsed⟩ := bind_eq_ok parsed
      obtain ⟨signer, signerRead, parsed⟩ := bind_eq_ok parsed
      obtain ⟨taker, takerRead, parsed⟩ := bind_eq_ok parsed
      obtain ⟨tokenId, tokenIdRead, parsed⟩ := bind_eq_ok parsed
      obtain ⟨makerAmount, makerAmountRead, parsed⟩ := bind_eq_ok parsed
      obtain ⟨takerAmount, takerAmountRead, parsed⟩ := bind_eq_ok parsed
      obtain ⟨expiration, expirationRead, parsed⟩ := bind_eq_ok parsed
      obtain ⟨nonce, nonceRead, parsed⟩ := bind_eq_ok parsed
      obtain ⟨feeRateBps, feeRateBpsRead, parsed⟩ := bind_eq_ok parsed
      cases parsed
      exact {
        known
        salt := ((Field.reads_uint256 _ _).ok_iff _).mp saltRead
        maker := ((Field.reads_address _ _).ok_iff _).mp makerRead
        signer := ((Field.reads_address _ _).ok_iff _).mp signerRead
        taker := ((Field.reads_optionalAddress _ _).ok_iff _).mp takerRead
        tokenId := ((Field.reads_uint256 _ _).ok_iff _).mp tokenIdRead
        makerAmount := ((Field.reads_uint256 _ _).ok_iff _).mp makerAmountRead
        takerAmount := ((Field.reads_uint256 _ _).ok_iff _).mp takerAmountRead
        expiration := ((Field.reads_optionalUint256 _ _).ok_iff _).mp expirationRead
        nonce := ((Field.reads_optionalUint256 _ _).ok_iff _).mp nonceRead
        feeRateBps := ((Field.reads_optionalUint256 _ _).ok_iff _).mp feeRateBpsRead
        side := rfl
        signatureType := rfl
      }
  · intro standsFor
    have known : ¬ maxSignatureType < request.signatureType := fun unknown =>
      (lt_signatureType_iff _).mp unknown standsFor.known
    rw [parse, if_neg known,
      ((Field.reads_uint256 _ _).ok_iff _).mpr standsFor.salt,
      ((Field.reads_address _ _).ok_iff _).mpr standsFor.maker,
      ((Field.reads_address _ _).ok_iff _).mpr standsFor.signer,
      ((Field.reads_optionalAddress _ _).ok_iff _).mpr standsFor.taker,
      ((Field.reads_uint256 _ _).ok_iff _).mpr standsFor.tokenId,
      ((Field.reads_uint256 _ _).ok_iff _).mpr standsFor.makerAmount,
      ((Field.reads_uint256 _ _).ok_iff _).mpr standsFor.takerAmount,
      ((Field.reads_optionalUint256 _ _).ok_iff _).mpr standsFor.expiration,
      ((Field.reads_optionalUint256 _ _).ok_iff _).mpr standsFor.nonce,
      ((Field.reads_optionalUint256 _ _).ok_iff _).mpr standsFor.feeRateBps,
      ← standsFor.side, ← standsFor.signatureType]
    rfl

/-- Parsing fails exactly if a check does, and the first one that does is blamed. -/
theorem firstFailing_checks_iff (request : OrderRequest) (field : String) :
    FirstFailing request.checks field ↔
      ∃ fault, request.parse = .error fault ∧ fault.field = field := by
  have goesBy := request.goesBy_parse
  cases parsed : request.parse with
  | error fault =>
      rw [parsed] at goesBy
      constructor
      · intro first
        exact ⟨fault, rfl, FirstFailing.unique goesBy first⟩
      · rintro ⟨_, ⟨⟩, rfl⟩
        exact goesBy
  | ok order =>
      rw [parsed] at goesBy
      constructor
      · intro first
        obtain ⟨holds, check, fails⟩ := first.exists_fails
        exact absurd (goesBy _ check) fails
      · rintro ⟨_, ⟨⟩, -⟩

end OrderRequest

/-- Messages that name a field. -/
inductive NamesField (field : String) : String → Prop where
  | invalid (detail : String) : NamesField field ("invalid " ++ field ++ ": " ++ detail)
  | tooWide : NamesField field (field ++ " does not fit in uint256")

/-- The message of a fault names the field at fault. -/
theorem FieldFault.namesField (fault : FieldFault) : NamesField fault.field fault.message := by
  cases fault with
  | notDecimal field value | notAddress field value =>
      change NamesField field ("invalid " ++ field ++ ": " ++ Text.quoted value)
      exact .invalid _
  | tooWide field =>
      change NamesField field (field ++ " does not fit in uint256")
      exact .tooWide
  | unmarked field =>
      have colon : ": missing 0x prefix" = ": " ++ "missing 0x prefix" := by decide
      change NamesField field ("invalid " ++ field ++ ": missing 0x prefix")
      rw [colon, ← String.append_assoc]
      exact .invalid _
  | wrongSize field =>
      have colon : ": expected 20 bytes" = ": " ++ "expected 20 bytes" := by decide
      change NamesField field ("invalid " ++ field ++ ": expected 20 bytes")
      rw [colon, ← String.append_assoc]
      exact .invalid _
  | signatureType value =>
      have named : "invalid signatureType: " = "invalid " ++ "signatureType" ++ ": " := by
        decide
      change NamesField "signatureType" ("invalid signatureType: " ++ toString value.toNat)
      rw [named]
      exact .invalid _

/-- The request that writes an order out: its numbers in decimal, its accounts with their
checksums. -/
def Order.toRequest (order : Order) : OrderRequest where
  salt := Decimal.text order.salt
  maker := order.maker.toText
  signer := order.signer.toText
  taker := some order.taker.toText
  tokenId := Decimal.text order.tokenId
  makerAmount := Decimal.text order.makerAmount
  takerAmount := Decimal.text order.takerAmount
  expiration := some (Decimal.text order.expiration)
  nonce := some (Decimal.text order.nonce)
  feeRateBps := some (Decimal.text order.feeRateBps)
  side := order.side
  signatureType := order.signatureType

theorem Field.amount_text
    {number : Nat}
    (bounded : number < Nat.pow 2 256) :
    Amount (Decimal.text number) number where
  denoted := Decimal.denotes_text number
  bounded := bounded

theorem Field.account_toText (address : Address) : Account address.toText address :=
  ((reads_address "" address.toText).ok_iff address).mp (address_toText "" address)

/-- An order is what its request stands for, if its numbers fit and its signature type is
known. -/
theorem Order.toRequest_standsFor
    {order : Order}
    (bounded : order.Bounded)
    (known : order.signatureType.toNat ≤ 2) :
    order.toRequest.StandsFor order := by
  have bound : Bytes.count 32 = Nat.pow 2 256 := by decide
  exact {
    known
    salt := Field.amount_text (bound ▸ bounded.salt)
    maker := Field.account_toText _
    signer := Field.account_toText _
    taker := .present (Field.account_toText _)
    tokenId := Field.amount_text (bound ▸ bounded.tokenId)
    makerAmount := Field.amount_text (bound ▸ bounded.makerAmount)
    takerAmount := Field.amount_text (bound ▸ bounded.takerAmount)
    expiration := .present (Field.amount_text (bound ▸ bounded.expiration))
    nonce := .present (Field.amount_text (bound ▸ bounded.nonce))
    feeRateBps := .present (Field.amount_text (bound ▸ bounded.feeRateBps))
    side := rfl
    signatureType := rfl
  }

/--
Requests are parsed by their grammar, and the first field outside it is blamed.

A request is parsed to an order exactly if it stands for it: its signature type is at most
two, its amounts are digits that denote numbers of at most 256 bits, its accounts are `0x`
or `0X` and forty hexadecimal digits of either case, and zero or the zero address is in the
place of what is missing.  Any other request is refused as invalid input, in every domain,
with a message that names the first field in their order that is not so.  An order is the
parse of the request that writes it out exactly if its numbers fit and its signature type
is known.
-/
theorem OrderRequest.parsed_by_grammar :
    (∀ (request : OrderRequest) (order : Order),
      request.parse = .ok order ↔ request.StandsFor order) ∧
    (∀ (request : OrderRequest) (field : String),
      FirstFailing request.checks field ↔
        ∃ fault,
          request.parse = .error fault ∧
            fault.field = field ∧
            NamesField field fault.message ∧
            ∀ domain,
              Desk.checkOrder domain { order := some request } =
                .error (.invalidInput fault.message)) ∧
    ∀ order : Order,
      order.toRequest.parse = .ok order ↔
        order.Bounded ∧ order.signatureType.toNat ≤ 2 := by
  refine ⟨parse_eq_ok_iff, ?_, ?_⟩
  · intro request field
    rw [firstFailing_checks_iff]
    constructor
    · rintro ⟨fault, parsed, rfl⟩
      refine ⟨fault, parsed, rfl, fault.namesField, fun domain => ?_⟩
      simp only [Desk.checkOrder, parsed]
    · rintro ⟨fault, parsed, sameField, -⟩
      exact ⟨fault, parsed, sameField⟩
  · intro order
    constructor
    · intro parsed
      exact ⟨bounded_of_parse parsed, ((parse_eq_ok_iff _ _).mp parsed).known⟩
    · rintro ⟨bounded, known⟩
      exact (parse_eq_ok_iff _ _).mpr (order.toRequest_standsFor bounded known)

end OrderCustody
