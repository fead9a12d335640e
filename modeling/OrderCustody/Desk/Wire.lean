import OrderCustody.Json.Record
import OrderCustody.Json.Writer
import OrderCustody.Session.Basic

namespace OrderCustody

/-!
# Answers of the desk as JSON

The answer to a request to sign and the report of the session, each with its
members in order, written and read.
-/

/-- The answer to a request to sign. -/
structure SignResponse where
  signature : String
  signerAddress : String
  deriving DecidableEq, Repr

namespace SignResponse

/-- The members of a response, as they are read. -/
def members : List Json.Member := [
  Json.Member.required "signature" Json.Reader.text,
  Json.Member.required "signerAddress" Json.Reader.text
]

/-- The response of the values of its members. -/
def ofValues : Json.Values members → SignResponse
  | (signature, signerAddress, ()) => { signature, signerAddress }

/-- The response that a text is read as. -/
def ofJson (bytes : Bytes) : Except Json.Cause SignResponse :=
  ((Json.Reader.record "SignOrderResponse" members).map ofValues).run bytes

/-- A response as an object. -/
def toJson (response : SignResponse) : Json.Value :=
  .record [
    ("signature", .text response.signature),
    ("signerAddress", .text response.signerAddress)
  ]

end SignResponse

/-- The report of the session as callers see it. -/
structure SessionReport where
  active : Bool
  ttlSeconds : UInt64
  maxValueLimit : String
  valueUsed : String
  sessionAddress : String
  deriving DecidableEq, Repr

namespace SessionReport

/-- The report of a status, in whole seconds. -/
def ofStatus (status : SessionStatus) : SessionReport where
  active := status.active
  ttlSeconds := UInt64.ofNat status.seconds
  maxValueLimit := status.limit
  valueUsed := status.used
  sessionAddress := status.address

/-- The members of a report, as they are read. -/
def members : List Json.Member := [
  Json.Member.required "active" Json.Reader.flag,
  Json.Member.required "ttlSeconds" Json.Reader.word,
  Json.Member.required "maxValueLimit" Json.Reader.text,
  Json.Member.required "valueUsed" Json.Reader.text,
  Json.Member.required "sessionAddress" Json.Reader.text
]

/-- The report of the values of its members. -/
def ofValues : Json.Values members → SessionReport
  | (active, ttlSeconds, maxValueLimit, valueUsed, sessionAddress, ()) =>
    { active, ttlSeconds, maxValueLimit, valueUsed, sessionAddress }

/-- The report that a text is read as. -/
def ofJson (bytes : Bytes) : Except Json.Cause SessionReport :=
  ((Json.Reader.record "SessionStatusResponse" members).map ofValues).run bytes

/-- A report as an object. -/
def toJson (report : SessionReport) : Json.Value :=
  .record [
    ("active", .flag report.active),
    ("ttlSeconds", .number report.ttlSeconds.toNat),
    ("maxValueLimit", .text report.maxValueLimit),
    ("valueUsed", .text report.valueUsed),
    ("sessionAddress", .text report.sessionAddress)
  ]

end SessionReport

end OrderCustody
