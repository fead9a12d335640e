import OrderCustody.Desk.Basic
import OrderCustody.Proofs.Address
import OrderCustody.Proofs.Decimal
import OrderCustody.Proofs.Json.Rewriting
import OrderCustody.Proofs.Order.Bounded

namespace OrderCustody

/-!
# Requests that mean the same are interchangeable

Every field of an order means a number, an account, a side or a signature type, and is
refused or not by itself.  The text of a request can be rewritten without changing what
its fields mean.  What an order is parsed to, and so what is hashed, signed and
recorded, depends on the meanings only.
-/

open Json (Tree Column Meanings Takes)

/-! ## Fields on their own -/

namespace Field

theorem toOption_uint256 (field value : String) :
    (uint256 field value).toOption =
      (Decimal.parse? value).filter (· < Bytes.count 32) := by
  rw [uint256, decimal]
  cases Decimal.parse? value with
  | none => rfl
  | some number =>
      have boundsAgree := Decimal.bitLength_le_iff number 32
      by_cases wide : 256 < Decimal.bitLength number
      · have notBelow : ¬ number < Bytes.count 32 := mt boundsAgree.mpr (Nat.not_le.mpr wide)
        simp only [bind, Except.bind, wide, ↓reduceIte, Option.filter, notBelow,
          decide_false, Bool.false_eq_true]
        rfl
      · have below : number < Bytes.count 32 := boundsAgree.mp (Nat.le_of_not_lt wide)
        simp only [bind, Except.bind, wide, ↓reduceIte, Option.filter, below, decide_true]
        rfl

theorem toOption_uint256_zero_append
    {value : String}
    (some : value ≠ "")
    (field : String) :
    (uint256 field ("0" ++ value)).toOption = (uint256 field value).toOption := by
  rw [toOption_uint256, toOption_uint256, Decimal.parse?_zero_append some]

end Field

/-! ## The fields of an order -/

namespace OrderRequest

/-- The kinds of fields: some may be missing. -/
inductive Kind where
  | amount (optional : Bool)
  | account (optional : Bool)
  | side
  | signatureType
  deriving DecidableEq

namespace Kind

/-- What a field means: what it is read as, if it is not refused. -/
def Meaning : Kind → Type
  | amount _ => Option Nat
  | account _ => Option Address
  | side => Side
  | signatureType => UInt8

/-- The member that holds a field. -/
def member (name : String) : Kind → Json.Member
  | amount false => .required name .text
  | amount true => .optional name .text
  | account false => .required name .text
  | account true => .optional name .text
  | side => .required name (.choice Side.choices)
  | signatureType => .withFallback name .byte 0

/-- What a value of a field means. -/
def meaning (name : String) : (kind : Kind) → (kind.member name).Value → kind.Meaning
  | amount false => fun text => (Field.uint256 name text).toOption
  | amount true => fun text => (Field.optionalUint256 name text).toOption
  | account false => fun text => (Field.address name text).toOption
  | account true => fun text => (Field.optionalAddress name text).toOption
  | side => id
  | signatureType => id

/-- A field with what its values mean. -/
def column (name : String) (kind : Kind) : Column where
  member := kind.member name
  Meaning := kind.Meaning
  meaning := kind.meaning name

theorem name_column (name : String) (kind : Kind) : (kind.column name).name = name := by
  match kind with
  | amount false | amount true | account false | account true | side | signatureType => rfl

end Kind

/-- The fields of an order in their order. -/
def fields : List (String × Kind) := [
  ("salt", .amount false),
  ("maker", .account false),
  ("signer", .account false),
  ("taker", .account true),
  ("tokenId", .amount false),
  ("makerAmount", .amount false),
  ("takerAmount", .amount false),
  ("expiration", .amount true),
  ("nonce", .amount true),
  ("feeRateBps", .amount true),
  ("side", .side),
  ("signatureType", .signatureType)
]

/-- The fields with what their values mean. -/
def columns : List Column :=
  fields.map fun (name, kind) => kind.column name

theorem columns_members : columns.map Column.member = members :=
  rfl

/-- The values of the members of an order. -/
def toValues (request : OrderRequest) : Json.Values members :=
  (request.salt, request.maker, request.signer, request.taker, request.tokenId,
    request.makerAmount, request.takerAmount, request.expiration, request.nonce,
    request.feeRateBps, request.side, request.signatureType, ())

/-- What the fields of an order mean. -/
def meanings (request : OrderRequest) : Meanings columns :=
  Json.Values.meanings columns request.toValues

/-- The order that fields stand for, unless one of them is refused. -/
def order? (meanings : Meanings columns) : Option Order :=
  let (salt, maker, signer, taker, tokenId, makerAmount, takerAmount, expiration, nonce,
    feeRateBps, side, signatureType, ()) := meanings
  let signatureType : UInt8 := signatureType
  if maxSignatureType < signatureType then none
  else do
    return {
      salt := ← salt
      maker := ← maker
      signer := ← signer
      taker := ← taker
      tokenId := ← tokenId
      makerAmount := ← makerAmount
      takerAmount := ← takerAmount
      expiration := ← expiration
      nonce := ← nonce
      feeRateBps := ← feeRateBps
      side
      signatureType
    }

/-- An order is parsed by the meanings of its fields. -/
theorem toOption_parse (request : OrderRequest) :
    request.parse.toOption = order? request.meanings := by
  change _ = if maxSignatureType < request.signatureType then none else _
  by_cases unknown : maxSignatureType < request.signatureType
  · simp only [parse, unknown, ↓reduceIte]
    rfl
  · simp only [parse, unknown, ↓reduceIte, Json.toOption_bind]
    rfl

/-! ### Reading them -/

theorem takes_text : Takes Json.Reader.text Json.Reader.text.taken :=
  (Json.takes_textNamed "a string").taken

theorem taken_text (tree : Tree) : Json.Reader.text.taken tree = tree.text? :=
  (Json.takes_textNamed "a string").taken_eq tree

theorem taken_optional_text (tree : Tree) :
    Json.Reader.text.optional.taken tree = Tree.optional Tree.text? tree :=
  (Json.takes_textNamed "a string").optional.taken_eq tree

theorem Kind.takes_column (name : String) (kind : Kind) :
    Takes (kind.column name).member.read (kind.column name).member.read.taken := by
  match kind with
  | amount false | account false => exact takes_text
  | amount true | account true => exact takes_text.optional.taken
  | side => exact (Json.takes_choice Side.choices).taken
  | signatureType => exact Json.takes_byte.taken

theorem faithful_members : Json.Faithful members := by
  intro member known
  rw [← columns_members, columns, List.map_map] at known
  obtain ⟨⟨name, kind⟩, -, rfl⟩ := List.mem_map.mp known
  exact kind.takes_column name

theorem distinct_members : (members.map Json.Member.name).Nodup := by
  decide

/-- What is taken for an order from a value. -/
theorem takes_reader :
    Takes reader fun tree => (tree.record? members).map ofValues :=
  (Json.takes_record faithful_members distinct_members "OrderRequest").map ofValues

theorem taken_map_meanings (tree : Tree) :
    (reader.taken tree).map meanings = tree.meanings? columns := by
  rw [takes_reader.taken_eq, Option.map_map]
  rfl

/-! ### Rewriting them -/

/-- The account of no one. -/
def zeroAccount : String :=
  Hex.marked (Octets.zero 20).bytes

/-- A lone zero. -/
def zero : Json.Numeral where
  negative := false
  whole := ⟨[Json.ascii '0'], List.cons_ne_nil _ _, List.forall_mem_singleton.mpr rfl⟩
  fraction := none
  exponent := none
  lone_zero _ := rfl

namespace Kind

/-- Two values that a field of some kind means the same by. -/
inductive Respells : Kind → Tree → Tree → Prop where
  | leadingZero {optional : Bool} {text : String} :
      text ≠ "" →
        Respells (amount optional) (.text (some text)) (.text (some ("0" ++ text)))
  | letterCase {optional : Bool} {text other : String} :
      text.toLower = other.toLower →
        Respells (account optional) (.text (some text)) (.text (some other))
  | zeroAmount : Respells (amount true) .null (.text (some "0"))
  | zeroAccount : Respells (account true) .null (.text (some zeroAccount))

/-- A value that a field of some kind means the same by as by being left out. -/
inductive Omits : Kind → Tree → Prop where
  | amount : Omits (amount true) .null
  | account : Omits (account true) .null
  | signatureType : Omits signatureType (.number zero)

theorem take_amount (optional : Bool) (name text : String) :
    ((amount optional).column name).take (.text (some text)) =
      some (Field.uint256 name text).toOption := by
  cases optional with
  | false => exact congrArg (Option.map _) (taken_text (.text (some text)))
  | true => exact congrArg (Option.map _) (taken_optional_text (.text (some text)))

theorem take_account (optional : Bool) (name text : String) :
    ((account optional).column name).take (.text (some text)) =
      some (Field.address name text).toOption := by
  cases optional with
  | false => exact congrArg (Option.map _) (taken_text (.text (some text)))
  | true => exact congrArg (Option.map _) (taken_optional_text (.text (some text)))

theorem toOption_address_zero (name : String) :
    (Field.address name OrderRequest.zeroAccount).toOption = some (Octets.zero 20) := by
  rw [Field.toOption_address]
  decide

theorem take_eq_of_respells
    {kind : Kind}
    {tree other : Tree}
    (respells : kind.Respells tree other)
    (name : String) :
    (kind.column name).take tree = (kind.column name).take other := by
  cases respells with
  | @leadingZero optional text some =>
      rw [take_amount, take_amount, Field.toOption_uint256_zero_append some]
  | @letterCase optional text other sameLower =>
      rw [take_account, take_account, Field.toOption_address_of_toLower_eq sameLower]
  | zeroAmount =>
      rw [take_amount]
      exact congrArg (Option.map _) (taken_optional_text .null)
  | zeroAccount =>
      rw [take_account, toOption_address_zero]
      exact congrArg (Option.map _) (taken_optional_text .null)

theorem take_eq_absent_of_omits
    {kind : Kind}
    {tree : Tree}
    (omits : kind.Omits tree)
    (name : String) :
    (kind.column name).take tree = (kind.column name).absent := by
  cases omits with
  | amount => exact congrArg (Option.map _) (taken_optional_text .null)
  | account => exact congrArg (Option.map _) (taken_optional_text .null)
  | signatureType => exact congrArg (Option.map _) (Json.takes_byte.taken_eq (.number zero))

end Kind

/-- One step of rewriting an order. -/
def Rewrite : Tree → Tree → Prop :=
  Json.Rewrite (fields.map Prod.fst)
    (fun name tree other => ∃ kind, (name, kind) ∈ fields ∧ kind.Respells tree other)
    (fun name tree => ∃ kind, (name, kind) ∈ fields ∧ kind.Omits tree)

/-- Orders that rewriting leads from one to the other. -/
def Equivalent : Tree → Tree → Prop :=
  Relation.EqvGen Rewrite

/-- A name has one kind of field. -/
theorem kind_eq
    {name : String}
    {kind other : Kind}
    (field : (name, kind) ∈ fields)
    (otherField : (name, other) ∈ fields) :
    kind = other := by
  have every :
      ∀ first ∈ fields, ∀ second ∈ fields, first.1 = second.1 → first.2 = second.2 := by
    decide
  exact every _ field _ otherField rfl

/-- Rewriting an order does not change what its fields mean. -/
theorem Rewrite.meanings?_eq
    {tree other : Tree}
    (rewrite : Rewrite tree other) :
    tree.meanings? columns = other.meanings? columns := by
  refine Json.Rewrite.meanings?_eq ?_ ?_ rewrite
  · intro column known tree other ⟨kind, field, respells⟩
    obtain ⟨⟨name, sameKind⟩, here, rfl⟩ := List.mem_map.mp known
    rw [Kind.name_column] at field
    cases kind_eq here field
    exact Kind.take_eq_of_respells respells name
  · intro column known tree ⟨kind, field, omits⟩
    obtain ⟨⟨name, sameKind⟩, here, rfl⟩ := List.mem_map.mp known
    rw [Kind.name_column] at field
    cases kind_eq here field
    exact Kind.take_eq_absent_of_omits omits name

end OrderRequest

/-! ## Requests -/

namespace SignRequest

/-- The order of a request with what it means, if there is one. -/
def column : Column where
  member := .optional "order" OrderRequest.reader
  Meaning := Option (Meanings OrderRequest.columns)
  meaning := Option.map OrderRequest.meanings

/-- One step of rewriting a request. -/
def Rewrite : Tree → Tree → Prop :=
  Json.Rewrite ["order"] (fun _ => OrderRequest.Equivalent) (fun _ _ => False)

/-- Requests that rewriting leads from one to the other. -/
def Equivalent : Tree → Tree → Prop :=
  Relation.EqvGen Rewrite

theorem takes_order :
    Takes OrderRequest.reader.optional OrderRequest.reader.optional.taken :=
  OrderRequest.takes_reader.optional.taken

theorem takes_reader :
    Takes reader fun tree =>
      (tree.record? members).map fun values => { order := values.1 } := by
  have faithful : Json.Faithful members := by
    intro member known
    cases List.mem_singleton.mp known
    exact takes_order
  exact (Json.takes_record faithful (by decide) "SignOrderRequest").map _

/-- What an order means in a request, by a value that is there. -/
theorem take_column_of_ne
    {tree : Tree}
    (present : tree ≠ .null) :
    column.take tree = (tree.meanings? OrderRequest.columns).map some := by
  have taken := OrderRequest.takes_reader.taken.optional.taken_eq tree
  rw [Tree.optional_of_ne present] at taken
  rw [← OrderRequest.taken_map_meanings, Option.map_map]
  refine (congrArg (Option.map _) taken).trans ?_
  cases OrderRequest.reader.taken tree <;> rfl

theorem take_column_eq
    {tree other : Tree}
    (equivalent : OrderRequest.Equivalent tree other) :
    column.take tree = column.take other := by
  refine Json.eq_of_eqvGen (fun tree other rewrite => ?_) equivalent
  obtain ⟨present, otherPresent⟩ := Json.Rewrite.ne_null rewrite
  rw [take_column_of_ne present, take_column_of_ne otherPresent, rewrite.meanings?_eq]

/-- Rewriting a request does not change what its order means. -/
theorem Equivalent.meanings?_eq
    {tree other : Tree}
    (equivalent : Equivalent tree other) :
    tree.meanings? [column] = other.meanings? [column] := by
  refine Json.eq_of_eqvGen (fun tree other rewrite => ?_) equivalent
  refine Json.Rewrite.meanings?_eq (fun sameColumn known tree other respells => ?_)
    (fun _ _ _ never => never.elim) rewrite
  cases List.mem_singleton.mp known
  exact take_column_eq respells

/-- What the order of a request means, if the text reads as a request. -/
theorem toOption_ofJson
    {tree : Tree}
    {text : Bytes}
    (isText : tree.HasText text) :
    (ofJson text).toOption.map (fun request => request.order.map OrderRequest.meanings) =
      (tree.meanings? [column]).map Prod.fst := by
  rw [ofJson, takes_reader.run isText]
  change _ = ((tree.record? members).map _).map _
  cases tree.record? members <;> rfl

/-- Two orders as submitted that are parsed to the same order: it has one struct hash and
in every domain one digest, and every desk at any time signs it or refuses to sign it
alike, with the same answer, the same value used and the same trail. -/
structure SameOrder (submitted other : OrderRequest) (order : Order) : Prop where
  parsed : submitted.parse = .ok order
  otherParsed : other.parse = .ok order
  hashed : ∃ hash, TypedData.structHash order = .ok hash
  digested :
    ∀ domain,
      ∃ digest,
        Desk.checkOrder domain { order := some submitted } = .ok (order, digest) ∧
          Desk.checkOrder domain { order := some other } = .ok (order, digest)
  signed :
    ∀ (desk : Desk) (clock : Clock),
      desk.signOrder clock { order := some submitted } =
        desk.signOrder clock { order := some other }

theorem sameOrder_of_parse
    {submitted other : OrderRequest}
    {order : Order}
    (parsed : submitted.parse = .ok order)
    (otherParsed : other.parse = .ok order) :
    SameOrder submitted other order := by
  obtain ⟨hash, hashed⟩ := TypedData.exists_structHash (submitted.bounded_of_parse parsed)
  have sameChecks (domain : TypedData.Domain) :
      Desk.checkOrder domain { order := some submitted } =
        Desk.checkOrder domain { order := some other } := by
    simp only [Desk.checkOrder, parsed, otherParsed]
  refine ⟨parsed, otherParsed, ⟨hash, hashed⟩, fun domain => ?_, fun desk clock => ?_⟩
  · obtain ⟨digest, digested⟩ := TypedData.exists_digest hashed domain
    have checked :
        Desk.checkOrder domain { order := some submitted } = .ok (order, digest) := by
      simp only [Desk.checkOrder, parsed, digested]
    exact ⟨digest, checked, (sameChecks domain).symm.trans checked⟩
  · simp only [Desk.signOrder, sameChecks]

/-- Orders of the same meaning are both refused or parsed to the same order. -/
theorem sameOrder_of_meanings_eq
    {submitted other : OrderRequest}
    (same : submitted.meanings = other.meanings) :
    (∃ fault otherFault, submitted.parse = .error fault ∧ other.parse = .error otherFault) ∨
      ∃ order, SameOrder submitted other order := by
  have sameParse : submitted.parse.toOption = other.parse.toOption := by
    rw [OrderRequest.toOption_parse, OrderRequest.toOption_parse, same]
  cases parsed : submitted.parse with
  | error fault =>
      cases otherParsed : other.parse with
      | error otherFault => exact .inl ⟨fault, otherFault, rfl, rfl⟩
      | ok order =>
          rw [parsed, otherParsed] at sameParse
          cases sameParse
  | ok order =>
      cases otherParsed : other.parse with
      | error fault =>
          rw [parsed, otherParsed] at sameParse
          cases sameParse
      | ok otherOrder =>
          rw [parsed, otherParsed] at sameParse
          cases sameParse
          exact .inr ⟨order, sameOrder_of_parse parsed otherParsed⟩

/--
Requests that mean the same are interchangeable.

Take any two texts of requests to sign that differ at most in blanks, in the order of
members, in members of unknown names that are Unicode, in zeros in front of numbers, in the
letter case of accounts, and in whether a field that may be missing is left out, `null` or
zero.  The value of an unknown member may be anything that is JSON, lone surrogates
included; but a request or an order with a lone surrogate in the name of a member is
refused.

Neither reads as a request; or neither request has an order; or both orders are refused; or
both are parsed to the same order, which is then hashed, signed, accounted for and recorded
in the same way on any desk and at any time.
-/
theorem interchangeable_of_equivalent
    {tree otherTree : Tree}
    {text otherText : Bytes}
    (isText : tree.HasText text)
    (otherIsText : otherTree.HasText otherText)
    (equivalent : Equivalent tree otherTree) :
    (∃ cause otherCause,
      ofJson text = .error cause ∧ ofJson otherText = .error otherCause) ∨
      (ofJson text = .ok { order := none } ∧ ofJson otherText = .ok { order := none }) ∨
      ∃ submitted other,
        ofJson text = .ok { order := some submitted } ∧
          ofJson otherText = .ok { order := some other } ∧
          ((∃ fault otherFault,
            submitted.parse = .error fault ∧ other.parse = .error otherFault) ∨
            ∃ order, SameOrder submitted other order) := by
  have same :
      (ofJson text).toOption.map (fun request => request.order.map OrderRequest.meanings) =
        (ofJson otherText).toOption.map
          (fun request => request.order.map OrderRequest.meanings) := by
    rw [toOption_ofJson isText, toOption_ofJson otherIsText, equivalent.meanings?_eq]
  generalize ofJson text = read at same ⊢
  generalize ofJson otherText = otherRead at same ⊢
  match read, otherRead with
  | .error cause, .error otherCause => exact .inl ⟨cause, otherCause, rfl, rfl⟩
  | .ok ⟨none⟩, .ok ⟨none⟩ => exact .inr (.inl ⟨rfl, rfl⟩)
  | .ok ⟨some submitted⟩, .ok ⟨some other⟩ =>
      have sameMeanings : submitted.meanings = other.meanings :=
        Option.some.inj (Option.some.inj same)
      exact .inr (.inr ⟨submitted, other, rfl, rfl, sameOrder_of_meanings_eq sameMeanings⟩)
  | .error _, .ok _ => cases same
  | .ok _, .error _ => cases same
  | .ok ⟨none⟩, .ok ⟨some _⟩ => cases same
  | .ok ⟨some _⟩, .ok ⟨none⟩ => cases same

/-! ### One request written in two ways -/

/-- What two ways of writing an order have in common. -/
def commonMembers : Json.Written := [
  (some "signer", .text (some "0x0000000000000000000000000000000000000001")),
  (some "tokenId", .text (some "7")),
  (some "makerAmount", .text (some "100")),
  (some "takerAmount", .text (some "80")),
  (some "side", .text (some "BUY"))
]

/-- A salt and a maker in front of the other members. -/
def orderOf (salt maker : String) : Json.Written :=
  (some "salt", .text (some salt)) :: (some "maker", .text (some maker)) :: commonMembers

/-- A request with nothing but what has to be there. -/
def plainRequest : Tree :=
  .object [
    (some "order", .object (orderOf "1" "0xab00000000000000000000000000000000000000"))
  ]

/-- The same request with members in another order, some of them unknown or zero, a zero
in front of a number and an account in upper case. -/
def adornedRequest : Tree :=
  .object [
    (some "memo", .list [.flag true, .object []]),
    (some "order", .object (
      (some "maker", .text (some "0XAB00000000000000000000000000000000000000")) ::
        (some "memo", .null) ::
          (some "nonce", .text (some "0")) ::
            (some "signatureType", .number OrderRequest.zero) ::
              (some "salt", .text (some "01")) ::
                commonMembers))
  ]

theorem equivalent_adornedRequest : Equivalent plainRequest adornedRequest := by
  let lower := "0xab00000000000000000000000000000000000000"
  let upper := "0XAB00000000000000000000000000000000000000"
  let makerMember (maker : String) : Option String × Tree :=
    (some "maker", .text (some maker))
  let signatureType : Option String × Tree :=
    (some "signatureType", .number OrderRequest.zero)
  let nonce (value : Tree) : Option String × Tree := (some "nonce", value)
  let memo : Option String × Tree := (some "memo", .null)
  let salt : Option String × Tree := (some "salt", .text (some "01"))
  have zeroInFront : OrderRequest.Rewrite (.object (orderOf "1" lower))
      (.object (orderOf "01" lower)) :=
    .respell ⟨.amount false, by decide, .leadingZero (by decide)⟩
  have typeZero : OrderRequest.Rewrite (.object (orderOf "01" lower))
      (.object (signatureType :: orderOf "01" lower)) :=
    .leaveOut ⟨.signatureType, by decide, .signatureType⟩ (by decide)
  have nonceNull : OrderRequest.Rewrite (.object (signatureType :: orderOf "01" lower))
      (.object (nonce .null :: signatureType :: orderOf "01" lower)) :=
    .leaveOut ⟨.amount true, by decide, .amount⟩ (by decide)
  have nonceZero : OrderRequest.Rewrite
      (.object (nonce .null :: signatureType :: orderOf "01" lower))
      (.object (nonce (.text (some "0")) :: signatureType :: orderOf "01" lower)) :=
    .respell ⟨.amount true, by decide, .zeroAmount⟩
  have memoAdded : OrderRequest.Rewrite
      (.object (nonce (.text (some "0")) :: signatureType :: orderOf "01" lower))
      (.object (memo :: nonce (.text (some "0")) :: signatureType :: orderOf "01" lower)) :=
    .unknown (by decide)
  let others : Json.Written :=
    memo :: nonce (.text (some "0")) :: signatureType :: salt :: commonMembers
  have reordered : OrderRequest.Rewrite
      (.object (memo :: nonce (.text (some "0")) :: signatureType :: orderOf "01" lower))
      (.object (makerMember lower :: others)) :=
    .reorder (@List.perm_middle _ (makerMember lower)
      [memo, nonce (.text (some "0")), signatureType, salt] commonMembers)
  have sameLetters : lower.toLower = upper.toLower := by
    rw [← String.toList_inj, toList_toLower, toList_toLower]
    decide
  have upperCase : OrderRequest.Rewrite (.object (makerMember lower :: others))
      (.object (makerMember upper :: others)) :=
    .respell ⟨.account false, by decide, .letterCase sameLetters⟩
  have orders : OrderRequest.Equivalent (.object (orderOf "1" lower))
      (.object (makerMember upper :: others)) :=
    .trans _ _ _ (.rel _ _ zeroInFront) <| .trans _ _ _ (.rel _ _ typeZero) <|
      .trans _ _ _ (.rel _ _ nonceNull) <| .trans _ _ _ (.rel _ _ nonceZero) <|
        .trans _ _ _ (.rel _ _ memoAdded) <| .trans _ _ _ (.rel _ _ reordered)
          (.rel _ _ upperCase)
  exact .trans _ _ _ (.rel _ _ (.respell orders)) (.rel _ _ (.unknown (by decide)))

/-- The order that a text of a request is parsed to. -/
def parsedOrder? (text : Bytes) : Option Order :=
  (ofJson text).toOption.bind fun request =>
    request.order.bind fun submitted => submitted.parse.toOption

set_option maxRecDepth 10000 in
theorem interchangeable_of_equivalent_adorned :
    ∃ submitted other order,
      ofJson ([0x0a] ++ (plainRequest.write [] ++ [])) = .ok { order := some submitted } ∧
        ofJson ([] ++ (adornedRequest.write [0x20, 0x09] ++ [0x0a])) =
          .ok { order := some other } ∧
        SameOrder submitted other order := by
  have isText : plainRequest.HasText ([0x0a] ++ (plainRequest.write [] ++ [])) :=
    Json.Tree.hasText_write (by decide) .nil .nil plainRequest
  have otherIsText :
      adornedRequest.HasText ([] ++ (adornedRequest.write [0x20, 0x09] ++ [0x0a])) :=
    Json.Tree.hasText_write .nil (by decide) (by decide) adornedRequest
  have isParsed :
      (parsedOrder? ([0x0a] ++ (plainRequest.write [] ++ []))).isSome = true := by
    decide +kernel
  rcases interchangeable_of_equivalent isText otherIsText equivalent_adornedRequest with
    ⟨cause, otherCause, refused, -⟩ | ⟨empty, -⟩ |
      ⟨submitted, other, read, otherRead, ⟨fault, otherFault, refused, -⟩ | ⟨order, same⟩⟩
  · rw [parsedOrder?, refused] at isParsed
    cases isParsed
  · rw [parsedOrder?, empty] at isParsed
    cases isParsed
  · rw [parsedOrder?, read] at isParsed
    simp only [Except.toOption, Option.bind_some, refused] at isParsed
    cases isParsed
  · exact ⟨submitted, other, order, read, otherRead, same⟩

/-- The request with nothing but what has to be there, and one member more whose name is
a lone surrogate. -/
def surrogateRequest : Tree :=
  .object [
    (none, .number OrderRequest.zero),
    (some "order", .object (orderOf "1" "0xab00000000000000000000000000000000000000"))
  ]

set_option maxRecDepth 10000 in
/-- A request is refused for an unknown member whose name is a lone surrogate, although both
texts are JSON and differ in nothing else. -/
theorem surrogate_name_not_interchangeable :
    let text := plainRequest.write []
    let otherText := surrogateRequest.write []
    plainRequest.HasText ([] ++ (text ++ [])) ∧
      surrogateRequest.HasText ([] ++ (otherText ++ [])) ∧
      otherText = Bytes.ofText "\x7b\"\\ud800\":0," ++ text.tail ∧
      (parsedOrder? text).isSome = true ∧
      ofJson otherText = .error .endOfHexEscape := by
  intro text otherText
  refine ⟨Json.Tree.hasText_write .nil .nil .nil plainRequest,
    Json.Tree.hasText_write .nil .nil .nil surrogateRequest, ?_, ?_, ?_⟩
  all_goals decide +kernel

end SignRequest

end OrderCustody
