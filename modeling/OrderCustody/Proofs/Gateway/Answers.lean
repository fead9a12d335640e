import OrderCustody.Proofs.Gateway.Transition
import OrderCustody.Proofs.Json.Unambiguity

namespace OrderCustody

/-!
# Answers a program can branch on

A refusal quotes what a caller has sent, what a file holds and what the operating system
says of it.  None of that disturbs its form: the body spells one object, of the code and
the message as they are, and the code alone tells the status.  Only the preflight of a
browser is answered without a body.
-/

open Json (Denotes Tree Value)

namespace Refusal

/-- What a caller is told of a refusal. -/
def tree (refusal : Refusal) : Tree :=
  .object [
    (some "code", .text (some refusal.code)),
    (some "error", .text (some refusal.message))
  ]

/-- What a client that branches on refusals reads of one. -/
def members : List Json.Member := [
  .required "code" .text,
  .required "error" .text
]

/-- Nothing that a message quotes changes what its body spells. -/
theorem denotes_render (refusal : Refusal) :
    Denotes (Bytes.ofText refusal.toJson.render) refusal.tree :=
  refusal.toJson.denotes_render

/-- Code and message are read back as they are. -/
theorem reads_toJson (refusal : Refusal) :
    Json.Reads (.record "Refusal" members) refusal.toJson
      (refusal.code, refusal.message, ()) :=
  Json.reads_record "Refusal" (by decide)
    (.next (Json.reads_text refusal.code)
      (.next (Json.reads_text refusal.message) .done))

example :
    (notFound "/a\"\\\n").toJson.render =
      "\x7b\"code\":\"NOT_FOUND\",\"error\":\"Not found: /a\\\"\\\\\\n\"\x7d" := by
  decide +kernel

/-- The status that belongs to a code. -/
def statusOfCode? (code : String) : Option Nat :=
  [
    ("INVALID_INPUT", 400),
    ("NO_ACTIVE_SESSION", 412),
    ("SESSION_EXPIRED", 410),
    ("VALUE_LIMIT_EXCEEDED", 429),
    ("SIGNING_FAILURE", 500),
    ("UNAUTHORIZED", 401),
    ("NOT_FOUND", 404),
    ("KEY_SOURCE", 502),
    ("CONFIG", 500),
    ("INTERNAL", 500)
  ].lookup code

theorem statusOfCode?_code (refusal : Refusal) :
    statusOfCode? refusal.code = some refusal.status := by
  cases refusal <;> rfl

/-- Whoever knows the code knows the status. -/
theorem status_eq_of_code_eq
    {first second : Refusal}
    (same : first.code = second.code) :
    first.status = second.status := by
  have statuses := congrArg statusOfCode? same
  rw [statusOfCode?_code, statusOfCode?_code] at statuses
  exact Option.some.inj statuses

end Refusal

namespace Gateway

/-- How a client reads a response: a value comes with the status of a success, and a
refusal comes with the one status of all refusals with its code. -/
inductive Response.Readable (response : Response) : Prop where
  | value
      {tree : Tree}
      (succeeded : response.status = 200)
      (spells : Denotes (Bytes.ofText response.body) tree)
  | refusal
      {refusal : Refusal}
      (failed : response.status ≠ 200)
      (spells : Denotes (Bytes.ofText response.body) refusal.tree)
      (coded : ∀ other : Refusal, other.code = refusal.code → response.status = other.status)

namespace Response

theorem readable_ok (value : Value) : (ok value).Readable :=
  .value rfl value.denotes_render

theorem readable_refused (refusal : Refusal) : (refused refusal).Readable :=
  .refusal (status_refused_ne refusal) refusal.denotes_render fun _ same =>
    Refusal.status_eq_of_code_eq same.symm

theorem readable_ofResult
    {α : Type}
    (toJson : α → Value)
    (result : Except Refusal α) :
    (ofResult toJson result).Readable := by
  cases result with
  | error refusal => exact readable_refused refusal
  | ok value => exact readable_ok (toJson value)

end Response

theorem Route.of_eq_preflight_iff (method path : String) :
    Route.of method path = .preflight ↔ method = "OPTIONS" := by
  constructor
  · intro routed
    by_contra other
    unfold Route.of at routed
    rw [if_neg other] at routed
    split_ifs at routed
  · rintro rfl
    rfl

/-- Whatever a request comes to, its answer can be read, unless it is a preflight. -/
theorem Answering.readable
    {gateway next : Gateway}
    {around : Surroundings}
    {request : Request}
    {response : Response}
    (answering : Answering gateway around request response next)
    (noPreflight : request.method ≠ "OPTIONS") :
    response.Readable := by
  cases answering with
  | preflight routed =>
      exact absurd ((Route.of_eq_preflight_iff _ _).mp routed) noPreflight
  | health => exact Response.readable_ok _
  | version => exact Response.readable_ok _
  | status => exact Response.readable_ok _
  | unreadable => exact Response.readable_refused _
  | unparsed => exact Response.readable_refused _
  | sign => exact Response.readable_ofResult _ _
  | notAdmitted => exact Response.readable_refused _
  | activate => exact Response.readable_ofResult _ _
  | notAuthorized => exact Response.readable_refused _
  | destroy => exact Response.readable_ok _
  | unknown => exact Response.readable_refused _

/-- Every refusal is told in a body that spells one object of two members and nothing
else, the code and the message of the refusal, and a client that reads texts by these
names gets both back.  So whatever is asked of a gateway, in whichever state it is and
whatever files, time and random bytes the request meets, the answer is the preflight of a
browser, or a value with status 200, or such an object with the status of its code. -/
theorem every_answer_readable :
    (∀ refusal : Refusal,
      Denotes (Bytes.ofText refusal.toJson.render)
          (.object [
            (some "code", .text (some refusal.code)),
            (some "error", .text (some refusal.message))
          ]) ∧
        (Json.Reader.record "Refusal" Refusal.members).run
            (Bytes.ofText refusal.toJson.render) =
          .ok (refusal.code, refusal.message, ())) ∧
      ∀ (gateway : Gateway) (around : Surroundings) (request : Request),
        let response := (gateway.handle around request).1
        if request.method = "OPTIONS" then response = .preflight else response.Readable := by
  constructor
  · intro refusal
    exact ⟨refusal.denotes_render, refusal.reads_toJson.run⟩
  · intro gateway around request response
    split_ifs with preflight
    · have routed : Route.of request.method request.path = .preflight :=
        (Route.of_eq_preflight_iff _ _).mpr preflight
      simp only [response, handle, routed]
    · exact (handle_cases rfl).readable preflight

end Gateway

end OrderCustody
