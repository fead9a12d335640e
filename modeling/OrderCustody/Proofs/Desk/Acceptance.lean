import OrderCustody.Proofs.Desk.Entries
import OrderCustody.Proofs.Desk.Provenance
import OrderCustody.Proofs.Gateway.Malformed
import OrderCustody.Proofs.Secp256k1.Acceptance

namespace OrderCustody

/-!
# An accepted key is never rejected later

A session is started only with a key of which the signer has derived an address, and what
is sealed then is revealed ever after.  So with a signer that signs with every key that it
derives addresses of, two of the faults that signing can meet with never occur: that the
key is invalid, and that it does not open.
-/

/-- A signer that rejects no key of which it derives an address. -/
def Signer.Steady (signer : Signer) : Prop :=
  ∀ key address,
    signer.address key = .ok address →
    ∀ digest detail, signer.sign key digest ≠ .error (.invalidKey detail)

/-- The production signer rejects a key to sign with only if it derives no address of
it. -/
theorem Secp256k1.steady_signer : signer.Steady :=
  fun _ _ derived digest detail => sign_ne_invalidKey derived digest detail

/-- No failure for the sake of a signature's numbers is told as an invalid key. -/
theorem SigningFault.message_backend_ne (detail other : String) :
    (backend detail).message ≠ (invalidKey other).message := by
  intro same
  have texts :
      "Signature generation failed: " ++ detail = "Invalid signing key: " ++ other :=
    same
  have first := congrArg (fun text : String => text.toList.head?) texts
  simp [String.toList_append] at first

/-! ## At the keeper -/

namespace Keeper

/-- Whatever session is held seals a key of which the signer derives its address. -/
def SealsAccepted (keeper : Keeper) : Prop :=
  ∀ session,
    keeper.held = some session →
    ∃ key,
      session.sealedKey.reveal = .ok key ∧ keeper.signer.address key = .ok session.address

/-- What signing can lack with an accepted key: a session, time, a large enough limit, or
a signature. -/
inductive Lacking
    (keeper : Keeper)
    (now value : Nat)
    (digest : Digest) :
    SessionFault → Prop where
  | session
      (held : keeper.held = none) :
      Lacking keeper now value digest .noActiveSession
  | time
      {session : Session}
      (held : keeper.held = some session)
      (late : session.expiresAt ≤ now) :
      Lacking keeper now value digest .sessionExpired
  | limit
      {session : Session}
      (held : keeper.held = some session)
      (excess : session.limit < session.used + value) :
      Lacking keeper now value digest (.valueLimitExceeded value session.budget)
  | signature
      {session : Session}
      {key : Bytes}
      {detail : String}
      (held : keeper.held = some session)
      (revealing : session.sealedKey.reveal = .ok key)
      (accepted : keeper.signer.address key = .ok session.address)
      (failing : keeper.signer.sign key digest = .error (.backend detail)) :
      Lacking keeper now value digest (.signingFailure (.backend detail))

/-- What is lacking where no signature is made.  It is not the key: what is sealed opens to
an accepted one, and a steady signer does not find that one invalid. -/
theorem Signing.lacking
    {keeper next : Keeper}
    {now value : Nat}
    {digest : Digest}
    {fault : SessionFault}
    (signing : Signing keeper now value digest (.error fault) next)
    (steady : keeper.signer.Steady)
    (accepted : keeper.SealsAccepted) :
    Lacking keeper now value digest fault := by
  cases signing with
  | vacant held => exact .session held
  | expired held late => exact .time held late
  | overLimit held _ excess => exact .limit held excess
  | notRevealed held _ _ notRevealing =>
      obtain ⟨key, revealing, -⟩ := accepted _ held
      cases notRevealing.symm.trans revealing
  | @failed session key fault held _ _ revealing failing =>
      obtain ⟨acceptedKey, revealed, derived⟩ := accepted session held
      cases revealing.symm.trans revealed
      cases fault with
      | invalidKey detail => exact absurd failing (steady key _ derived digest detail)
      | backend detail => exact .signature held revealing derived failing

end Keeper

/-! ## At the desk -/

namespace Desk

/-- In every history from a desk without a session, the key that is held was accepted. -/
theorem sealsAccepted_run
    {start : Moment}
    (unheld : start.desk.keeper.held = none)
    (operations : List Operation) :
    (run start operations).2.desk.keeper.SealsAccepted := by
  intro session held
  obtain ⟨origin, explains⟩ := Traced.run unheld operations session held
  exact ⟨origin.key, Custody.SealedKey.reveal_ofMaterial explains.sealing, explains.derived⟩

/-- Why a request to sign is refused by a desk with the production signer. -/
inductive Refused
    (desk : Desk)
    (clock : Clock)
    (request : SignRequest) :
    Refusal → Prop where
  | malformed
      {detail : String}
      (malformed : request.Malformed detail) :
      Refused desk clock request (.invalidInput detail)
  | noActiveSession
      (held : desk.keeper.held = none) :
      Refused desk clock request .noActiveSession
  | sessionExpired
      {session : Session}
      (held : desk.keeper.held = some session)
      (late : session.expiresAt ≤ clock.elapsed) :
      Refused desk clock request .sessionExpired
  | valueLimitExceeded
      {order : Order}
      {digest : Digest}
      {session : Session}
      (checking : checkOrder desk.domain request = .ok (order, digest))
      (held : desk.keeper.held = some session)
      (excess : session.limit < session.used + order.makerAmount) :
      Refused desk clock request .valueLimitExceeded
  | unsigned
      {order : Order}
      {digest : Digest}
      {session : Session}
      {key : Bytes}
      {scalar : Secp256k1.Scalar}
      (checking : checkOrder desk.domain request = .ok (order, digest))
      (held : desk.keeper.held = some session)
      (revealing : session.sealedKey.reveal = .ok key)
      (keyed : Secp256k1.privateKey key = .ok scalar)
      (unsigned : Secp256k1.Unsigned scalar digest) :
      Refused desk clock request
        (.signingFailure (SigningFault.backend "signature error").message)

theorem Signing.refused_of_accepted
    {desk next : Desk}
    {clock : Clock}
    {request : SignRequest}
    {result : Except Refusal SignResponse}
    (signing : Signing desk clock request result next)
    (production : desk.keeper.signer = Secp256k1.signer)
    (accepted : desk.keeper.SealsAccepted)
    {refusal : Refusal}
    (refused : result = .error refusal) :
    Refused desk clock request refusal := by
  cases signing with
  | malformed checking =>
      cases refused
      obtain ⟨detail, malformed, rfl⟩ := (checkOrder_eq_error_iff _ request _).mp checking
      exact .malformed malformed
  | refused checking signing =>
      cases refused
      have steady : desk.keeper.signer.Steady := production ▸ Secp256k1.steady_signer
      cases signing.lacking steady accepted with
      | session held => exact .noActiveSession held
      | time held late => exact .sessionExpired held late
      | limit held excess => exact .valueLimitExceeded checking held excess
      | signature held revealing derived failing =>
          rw [production] at derived failing
          have isKey := (Secp256k1.exists_address_iff _).mp ⟨_, derived⟩
          obtain ⟨⟨⟩, scalar, keyed, unsigned⟩ :=
            Secp256k1.unsigned_of_sign_eq_error isKey failing
          exact .unsigned checking held revealing keyed unsigned
  | signed => cases refused

namespace Refused

variable
  {desk : Desk}
  {clock : Clock}
  {request : SignRequest}
  {refusal : Refusal}

theorem ne_internal
    (refused : Refused desk clock request refusal)
    (detail : String) :
    refusal ≠ .internal detail := by
  cases refused <;> exact nofun

theorem ne_invalidKey
    (refused : Refused desk clock request refusal)
    (detail : String) :
    refusal ≠ .signingFailure (SigningFault.invalidKey detail).message := by
  cases refused with
  | unsigned =>
      intro same
      exact SigningFault.message_backend_ne _ detail (Refusal.signingFailure.inj same)
  | malformed | noActiveSession | sessionExpired | valueLimitExceeded => exact nofun

end Refused

/-- With the production signer, a key is either refused when a session is to be started
with it, or never again.

The signer derives an address of exactly the private keys, refuses one for no reason but
that it is none, and refuses to sign, whatever the digest, with exactly the same keys and
in the same words.  So after any history of a desk that starts without a session, whatever
its keys were loaded from, what the session holds opens to a private key of which its
address was derived, and a request to sign is refused only as malformed, for want of a
session, of time or of value, or because the digest has no signature with the key. -/
theorem accepted_key_never_rejected :
    (∀ key,
      ((∃ address, Secp256k1.signer.address key = .ok address) ↔ Secp256k1.IsKey key) ∧
        (∀ fault,
          Secp256k1.signer.address key = .error fault →
          ∃ detail, fault = .invalidKey detail) ∧
        ∀ digest detail,
          Secp256k1.signer.sign key digest = .error (.invalidKey detail) ↔
            Secp256k1.signer.address key = .error (.invalidKey detail)) ∧
      ∀ clock domain defaultLimit lifetime trail operations moment,
        moment =
          (run (.vacant clock domain defaultLimit Secp256k1.signer lifetime trail)
            operations).2 →
        (∀ session,
          moment.desk.keeper.held = some session →
          ∃ key,
            session.sealedKey.reveal = .ok key ∧
              Secp256k1.IsKey key ∧
              Secp256k1.signer.address key = .ok session.address) ∧
          ∀ request refusal,
            (moment.desk.signOrder moment.clock request).1 = .error refusal →
            Refused moment.desk moment.clock request refusal ∧
              (∀ detail, refusal ≠ .internal detail) ∧
              ∀ detail,
                refusal ≠ .signingFailure (SigningFault.invalidKey detail).message := by
  refine ⟨fun key => ⟨Secp256k1.exists_address_iff key, ?_, ?_⟩, ?_⟩
  · exact fun fault refused => Secp256k1.invalidKey_of_address refused
  · exact Secp256k1.sign_eq_invalidKey_iff key
  · rintro clock domain defaultLimit lifetime trail operations moment rfl
    have production := (configuration_run
      (.vacant clock domain defaultLimit Secp256k1.signer lifetime trail) operations).2.1
    have accepted := sealsAccepted_run
      (show (Moment.vacant clock domain defaultLimit Secp256k1.signer lifetime
        trail).desk.keeper.held = none from rfl) operations
    refine ⟨fun session held => ?_, fun request refusal refused => ?_⟩
    · obtain ⟨key, revealing, derived⟩ := accepted session held
      rw [production] at derived
      exact ⟨key, revealing, (Secp256k1.exists_address_iff key).mp ⟨_, derived⟩, derived⟩
    · have refusedFor :=
        (signOrder_cases (Prod.ext refused rfl)).refused_of_accepted production accepted rfl
      exact ⟨refusedFor, refusedFor.ne_internal, refusedFor.ne_invalidKey⟩

end Desk

end OrderCustody
