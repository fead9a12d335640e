import OrderCustody.Proofs.Gateway.Credentials
import OrderCustody.Proofs.Gateway.Starting
import OrderCustody.Proofs.Trial

namespace OrderCustody.Gateway

/-!
# Refusals of the administrator's routes

Nobody is let in without the configured key, whatever the header fields hold.  Whoever is
refused learns whether there is administration at all and whether a key was presented, and
nothing else: the credentials are checked before anything that depends on the state or on
what the body says.
-/

/-! ## Nobody else is let in -/

/-- A value that is a key once the spaces and tabs around it are left out. -/
structure Holds (key : String) (value : Bytes) : Prop where
  readable : Readable value
  whole : withoutPadding value = Bytes.ofText key

/-- A value with a key behind `Bearer `, once the spaces and tabs around both are left
out. -/
structure HoldsBearer (key : String) (value : Bytes) : Prop where
  readable : Readable value
  behind :
    ∃ token, withoutPadding value = bearer ++ token ∧ withoutPadding token = Bytes.ofText key

variable {key : String} {request : Request}

theorem bearerKey?_eq_key_iff_first :
    bearerKey? request = some key.toList ↔
      CarriesFirst request "authorization" (HoldsBearer key) := by
  rw [bearerKey?_eq_some_iff_first]
  refine carriesFirst_congr fun value => ?_
  have sameToken :
      ∀ token, Readable value → withoutPadding value = bearer ++ token →
        ((withoutPadding token).map character = key.toList ↔
          withoutPadding token = Bytes.ofText key) := by
    intro token readable split
    have core := (readable_withoutPadding_iff value).mpr readable
    have tokenReadable := (readable_append.mp (split ▸ core)).2
    exact map_character_eq_toList_iff ((readable_withoutPadding_iff token).mpr tokenReadable) key
  constructor
  · rintro ⟨readable, token, split, same⟩
    exact ⟨readable, token, split, (sameToken token readable split).mp same⟩
  · rintro ⟨readable, token, split, same⟩
    exact ⟨readable, token, split, (sameToken token readable split).mpr same⟩

theorem apiKey_eq_key_iff_first :
    (request.header? "x-api-key").map Text.trim = some key.toList ↔
      CarriesFirst request "x-api-key" (Holds key) := by
  rw [Option.map_eq_some_iff]
  have sameValue :
      ∀ value, Readable value →
        (Text.trim ((withoutPadding value).map character) = key.toList ↔
          withoutPadding value = Bytes.ofText key) := by
    intro value readable
    have core := (readable_withoutPadding_iff value).mpr readable
    rw [trim_map_character core, withoutPadding_withoutPadding]
    exact map_character_eq_toList_iff core key
  constructor
  · rintro ⟨characters, header, trimmed⟩
    obtain ⟨before, field, after, split, others, named, readable, rfl⟩ :=
      (header?_eq_some_iff_first _).mp header
    exact ⟨before, field, after, split, others, named, readable,
      (sameValue field.value readable).mp trimmed⟩
  · rintro ⟨before, field, after, split, others, named, readable, same⟩
    refine ⟨(withoutPadding field.value).map character, ?_,
      (sameValue field.value readable).mpr same⟩
    exact (header?_eq_some_iff_first _).mpr
      ⟨before, field, after, split, others, named, readable, rfl⟩

theorem presentedKey?_eq_key_iff :
    presentedKey? request = some key.toList ↔
      CarriesFirst request "authorization" (HoldsBearer key) ∨
        CarriesFirst request "x-api-key" (Holds key) ∧
          ¬ CarriesFirst request "authorization" PresentsBearer := by
  have bearerFirst :
      presentedKey? request = some key.toList ↔
        bearerKey? request = some key.toList ∨
          bearerKey? request = none ∧
            (request.header? "x-api-key").map Text.trim = some key.toList :=
    Option.orElse_eq_some _ _ _
  rw [bearerFirst, bearerKey?_eq_key_iff_first, bearerKey?_eq_none_iff_first,
    apiKey_eq_key_iff_first, and_comm (a := ¬ _)]

/-- Where administration does not exist nobody is let in. -/
theorem authorize_of_disabled
    {adminKey : Option String}
    (disabled : adminKey = none ∨ adminKey = some "")
    (request : Request) :
    authorize adminKey request = .error (.notFound "admin routes are disabled") := by
  rcases disabled with rfl | rfl
  · rfl
  · rfl

/-! ## Nothing is told -/

/-- A request on one of the administrator's routes whose body, where it matters, can
be read. -/
inductive Administrative (request : Request) : Prop where
  | activate
      (posted : request.method = "POST")
      (asked : request.path = "/v1/session/activate")
      (readable : request.Readable)
  | destroy
      (deleted : request.method = "DELETE")
      (asked : request.path = "/v1/session")

/-- Who is let in depends on the header fields alone. -/
theorem authorize_congr
    {other : Request}
    (same : request.headers = other.headers)
    (adminKey : Option String) :
    authorize adminKey request = authorize adminKey other := by
  have sameHeader : request.header? = other.header? := by
    funext name
    rw [Request.header?, Request.header?, same]
  have samePresented : presentedKey? request = presentedKey? other := by
    simp only [presentedKey?, bearerKey?, sameHeader]
  simp only [authorize, samePresented]

/-- Who is refused is told why, and the gateway stays as it is. -/
theorem handle_of_unauthorized
    {gateway : Gateway}
    {refusal : Refusal}
    (administrative : Administrative request)
    (refused : authorize gateway.adminKey request = .error refusal)
    (around : Surroundings) :
    gateway.handle around request = (.refused refusal, gateway) := by
  cases administrative with
  | activate posted asked readable =>
      have admission : gateway.admitActivation request = .error refusal := by
        rw [admitActivation, Request.readBody_of_readable readable, refused]
        rfl
      simp only [handle, Route.of_activate posted asked, activate, admission,
        Response.ofResult]
  | destroy deleted asked =>
      have routed : Route.of request.method request.path = .destroy := by
        rw [deleted, asked]
        rfl
      simp only [handle, routed, destroy, refused, Response.ofResult]

/-- Starting a session, as it is asked for with some header fields and some body. -/
def startingRequest (headers : List HeaderField) (body : String) : Request where
  method := "POST"
  target := "/v1/session/activate"
  headers := headers
  body := Bytes.ofText body

/--
The refusals of the administrator's routes are sound, and tell nothing.

Without a configured key, or with an empty one, every request there gets one and the same
answer.  With a key, a request is let in exactly if that very key is what the first
authorization field holds behind `Bearer `, or what the first key field holds where the
authorization field presents none; any other is unauthorized, and told whether it
presented a key.  Two requests with the same header fields are refused alike in any two
states of two gateways with the same key, whatever is asked for and whatever the bodies
say, and both gateways stay as they are.
-/
theorem refusals_sound_and_uninformative :
    (∀ (gateway : Gateway) (around : Surroundings) (request : Request),
      gateway.adminKey = none ∨ gateway.adminKey = some "" →
      Administrative request →
      gateway.handle around request =
        ({ status := 404
           headers := Response.jsonHeaders
           body :=
            (Json.Value.record
              [("code", .text "NOT_FOUND"),
                ("error", .text "Not found: admin routes are disabled")]).render },
          gateway)) ∧
    (∀ (key : String) (request : Request),
      (authorize (some key) request = .ok () ↔
        key ≠ "" ∧
          (CarriesFirst request "authorization" (HoldsBearer key) ∨
            CarriesFirst request "x-api-key" (Holds key) ∧
              ¬ CarriesFirst request "authorization" PresentsBearer)) ∧
      (key ≠ "" →
        authorize (some key) request = .ok () ∨
          authorize (some key) request =
            .error (.unauthorized
              (if (presentedKey? request).isSome then "invalid admin key"
                else "admin key required")))) ∧
    ∀ (gateway otherGateway : Gateway) (around otherAround : Surroundings)
      (request otherRequest : Request),
      gateway.adminKey = otherGateway.adminKey →
      request.headers = otherRequest.headers →
      Administrative request →
      Administrative otherRequest →
      authorize gateway.adminKey request ≠ .ok () →
      ∃ refusal,
        gateway.handle around request = (.refused refusal, gateway) ∧
          otherGateway.handle otherAround otherRequest = (.refused refusal, otherGateway) := by
  refine ⟨?_, ?_, ?_⟩
  · intro gateway around request disabled administrative
    have refused := authorize_of_disabled disabled request
    rw [handle_of_unauthorized administrative refused]
    rfl
  · intro key request
    refine ⟨?_, fun nonempty => authorize_eq_ok_or nonempty request⟩
    by_cases empty : key = ""
    · subst empty
      rw [authorize_of_disabled (.inr rfl)]
      exact ⟨nofun, fun ⟨nonempty, _⟩ => absurd rfl nonempty⟩
    · rw [authorize_eq_ok_iff empty, presentedKey?_eq_key_iff]
      exact (and_iff_right empty).symm
  · intro gateway otherGateway around otherAround request otherRequest sameKey sameHeaders
      administrative otherAdministrative notLetIn
    cases refused : authorize gateway.adminKey request with
    | ok => exact absurd refused notLetIn
    | error refusal =>
        have otherRefused := refused
        rw [authorize_congr sameHeaders, sameKey] at otherRefused
        exact ⟨refusal, handle_of_unauthorized administrative refused around,
          handle_of_unauthorized otherAdministrative otherRefused otherAround⟩

/-- Ending a live session, and starting one with half a body where there is no session and
no key source: with a wrong key behind `Bearer `, both are refused alike. -/
theorem refusals_sound_and_uninformative_two_states :
    let ending := endingRequest (some "Bearer other") "secret"
    let starting := startingRequest ending.headers "\x7b\"maxValueLimit\":"
    let gateway := Trial.gateway Trial.activeDesk
    let bare := { Trial.gateway Trial.desk with keySource := none }
    let around : Surroundings := ⟨Trial.clock, fun _ => .error .notFound, Trial.draw⟩
    Administrative ending ∧
      Administrative starting ∧
      authorize gateway.adminKey ending ≠ .ok () ∧
      (gateway.handle around ending).1 = (bare.handle around starting).1 := by
  intro ending starting gateway bare around
  have administrative : Administrative ending := .destroy rfl (by decide +kernel)
  have otherAdministrative : Administrative starting :=
    .activate rfl (by decide +kernel) (by decide +kernel)
  have notLetIn : authorize gateway.adminKey ending ≠ .ok () := by decide +kernel
  obtain ⟨refusal, refused, otherRefused⟩ :=
    refusals_sound_and_uninformative.2.2 gateway bare around around ending starting rfl rfl
      administrative otherAdministrative notLetIn
  refine ⟨administrative, otherAdministrative, notLetIn, ?_⟩
  rw [refused, otherRefused]

/-- Credentials of nothing but blanks are presented, and are no key. -/
example :
    authorize (some "secret") (endingRequest (some "Bearer \t") " ") =
      .error (.unauthorized "invalid admin key") := by
  decide +kernel

end OrderCustody.Gateway
