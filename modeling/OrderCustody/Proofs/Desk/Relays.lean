import OrderCustody.Desk.Basic
import OrderCustody.Proofs.Json.Writing

namespace OrderCustody

/-!
# The wire loses nothing

Each type that travels is read back from what is written for its values, member by member.
So a relay, which reads a text and writes what it has read, may change how a text is put
but never what it says, and no more do many relays, one behind the other.
-/

/-! ## Formats -/

namespace Json

/-- How the values of a type travel: how they are read, and how they are written. -/
structure Format (α : Type) where
  read : Bytes → Except Cause α
  write : α → Value

namespace Format

variable {α : Type} {format : Format α}

/-- The text that is sent for a value. -/
def text (format : Format α) (value : α) : Bytes :=
  Bytes.ofText (format.write value).render

/-- A relay reads a text and sends on what it has read. -/
def relay (format : Format α) (text : Bytes) : Except Cause Bytes :=
  (format.read text).map format.text

/-- Some relays, one behind the other. -/
def relays (format : Format α) : (count : Nat) → Bytes → Except Cause Bytes
  | 0, text => .ok text
  | count + 1, text => format.relay text >>= format.relays count

/-- Every value is read back from its text. -/
def Lossless (format : Format α) : Prop :=
  ∀ value, format.read (format.text value) = .ok value

theorem relay_of_read
    {text : Bytes}
    {value : α}
    (read : format.read text = .ok value) :
    format.relay text = .ok (format.text value) := by
  rw [relay, read]
  rfl

theorem relay_of_refused
    {text : Bytes}
    {cause : Cause}
    (refused : format.read text = .error cause) :
    format.relay text = .error cause := by
  rw [relay, refused]
  rfl

/-- Behind a relay the same is read, or refused, as in front of it. -/
theorem Lossless.relay_bind_read
    (lossless : format.Lossless)
    (text : Bytes) :
    (format.relay text >>= format.read) = format.read text := by
  cases read : format.read text with
  | error cause =>
      rw [relay_of_refused read]
      rfl
  | ok value =>
      rw [relay_of_read read]
      exact lossless value

/-- What a relay sends, every relay behind it sends on as it is. -/
theorem Lossless.relay_bind_relay
    (lossless : format.Lossless)
    (text : Bytes) :
    (format.relay text >>= format.relay) = format.relay text := by
  cases read : format.read text with
  | error cause =>
      rw [relay_of_refused read]
      rfl
  | ok value =>
      rw [relay_of_read read]
      exact relay_of_read (lossless value)

/-- What the values of a type keep on their way. -/
structure Survives (format : Format α) : Prop where
  /-- A value is read back from its text. -/
  lossless : format.Lossless
  /-- Behind any number of relays the same is read, or refused. -/
  read : ∀ count text, (format.relays count text >>= format.read) = format.read text
  /-- Only the first relay can put a text in another way. -/
  settled : ∀ count text, format.relays (count + 1) text = format.relay text

/-- What is lossless survives any number of relays: the first one is taken off in front, and
the others meet the text that it sends. -/
theorem Lossless.survives (lossless : format.Lossless) : format.Survives where
  lossless := lossless
  read count text := by
    induction count generalizing text with
    | zero => rfl
    | succ count inductionHypothesis =>
        rw [relays, bind_assoc, funext inductionHypothesis, lossless.relay_bind_read]
  settled count text := by
    induction count generalizing text with
    | zero => exact bind_pure (format.relay text)
    | succ count inductionHypothesis =>
        rw [relays, funext inductionHypothesis, lossless.relay_bind_relay]

end Format

theorem reads_optionalText (value : Option String) :
    Reads Reader.text.optional (.optionalText value) value := by
  cases value with
  | none => exact reads_null Reader.text
  | some text => exact (reads_text text).optional nofun

end Json

open Json (Format Member Reads Row)

/-! ## Orders -/

namespace OrderRequest

/-- The format of orders. -/
def format : Format OrderRequest where
  read := ofJson
  write := toJson

theorem reads_toJson (request : OrderRequest) : Reads reader request.toJson request := by
  have distinct : (members.map Member.name).Nodup := by decide
  have side : Json.choose Side.choices request.side.name = .ok request.side := by
    cases request.side <;> rfl
  have yields :
      Row.Yields members (Row.empty members) _
        (request.salt, request.maker, request.signer, request.taker, request.tokenId,
          request.makerAmount, request.takerAmount, request.expiration, request.nonce,
          request.feeRateBps, request.side, request.signatureType, ()) :=
    .next (Json.reads_text request.salt) <|
      .next (Json.reads_text request.maker) <|
        .next (Json.reads_text request.signer) <|
          .next (Json.reads_optionalText request.taker) <|
            .next (Json.reads_text request.tokenId) <|
              .next (Json.reads_text request.makerAmount) <|
                .next (Json.reads_text request.takerAmount) <|
                  .next (Json.reads_optionalText request.expiration) <|
                    .next (Json.reads_optionalText request.nonce) <|
                      .next (Json.reads_optionalText request.feeRateBps) <|
                        .next (Json.reads_choice side) <|
                          .next (Json.reads_byte request.signatureType) .done
  exact (Json.reads_record "OrderRequest" distinct yields).map ofValues

theorem lossless_format : format.Lossless :=
  fun request => request.reads_toJson.run

end OrderRequest

namespace SignRequest

/-- The format of requests to sign. -/
def format : Format SignRequest where
  read := ofJson
  write := toJson

theorem reads_toJson (request : SignRequest) : Reads reader request.toJson request := by
  have distinct : (members.map Member.name).Nodup := by decide
  obtain ⟨order⟩ := request
  cases order with
  | none =>
      have yields : Row.Yields members (Row.empty members) _ (none, ()) :=
        .next (Json.reads_null OrderRequest.reader) .done
      exact (Json.reads_record "SignOrderRequest" distinct yields).map _
  | some order =>
      have yields : Row.Yields members (Row.empty members) _ (some order, ()) :=
        .next (order.reads_toJson.optional nofun) .done
      exact (Json.reads_record "SignOrderRequest" distinct yields).map _

theorem lossless_format : format.Lossless :=
  fun request => request.reads_toJson.run

end SignRequest

/-! ## Answers -/

namespace SignResponse

/-- The format of responses. -/
def format : Format SignResponse where
  read := ofJson
  write := toJson

theorem lossless_format : format.Lossless := by
  intro response
  have distinct : (members.map Member.name).Nodup := by decide
  have yields :
      Row.Yields members (Row.empty members) _
        (response.signature, response.signerAddress, ()) :=
    .next (Json.reads_text response.signature) <|
      .next (Json.reads_text response.signerAddress) .done
  exact ((Json.reads_record "SignOrderResponse" distinct yields).map ofValues).run

end SignResponse

namespace SessionReport

/-- The format of reports. -/
def format : Format SessionReport where
  read := ofJson
  write := toJson

theorem lossless_format : format.Lossless := by
  intro report
  have distinct : (members.map Member.name).Nodup := by decide
  have yields :
      Row.Yields members (Row.empty members) _
        (report.active, report.ttlSeconds, report.maxValueLimit, report.valueUsed,
          report.sessionAddress, ()) :=
    .next (Json.reads_flag report.active) <|
      .next (Json.reads_word report.ttlSeconds) <|
        .next (Json.reads_text report.maxValueLimit) <|
          .next (Json.reads_text report.valueUsed) <|
            .next (Json.reads_text report.sessionAddress) .done
  exact ((Json.reads_record "SessionStatusResponse" distinct yields).map ofValues).run

end SessionReport

/-- All that travels survives the wire: orders, requests to sign with an order or without
one, answers to them and reports of the session, whatever their texts and numbers are.

Each value is read back from the text that is written for it.  Hence behind any number of
relays a text is read as in front of them, or refused for the same cause, and from the
first relay on it is always put in the same way; and an order is parsed there to the same
result and hashed to the same digest. -/
theorem wire_survives :
    OrderRequest.format.Survives ∧
      SignRequest.format.Survives ∧
      SignResponse.format.Survives ∧
      SessionReport.format.Survives ∧
      (∀ domain count text,
        (OrderRequest.format.relays count text >>= OrderRequest.ofJson).map
            (fun request =>
              (request.parse, Desk.checkOrder domain { order := some request })) =
          (OrderRequest.ofJson text).map fun request =>
            (request.parse, Desk.checkOrder domain { order := some request })) ∧
      ∀ domain count text,
        (SignRequest.format.relays count text >>= SignRequest.ofJson).map
            (Desk.checkOrder domain) =
          (SignRequest.ofJson text).map (Desk.checkOrder domain) := by
  have orders := OrderRequest.lossless_format.survives
  have requests := SignRequest.lossless_format.survives
  refine ⟨orders, requests, SignResponse.lossless_format.survives,
    SessionReport.lossless_format.survives, fun domain count text => ?_,
    fun domain count text => ?_⟩
  · exact congrArg _ (orders.read count text)
  · exact congrArg _ (requests.read count text)

end OrderCustody
