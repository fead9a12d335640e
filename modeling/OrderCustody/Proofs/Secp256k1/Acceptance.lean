import OrderCustody.Proofs.Secp256k1.Recovery

namespace OrderCustody.Secp256k1

/-!
# Which keys are accepted

A byte string is a private key or it is none, and the signer's two functions look at it in
the same way: what one refuses, the other refuses in the same words.  With a private key
an address can always be derived.  A signature can still fail, for the sake of its numbers
alone.
-/

/-- A byte string that is a private key: thirty-two bytes that denote a scalar. -/
structure IsKey (key : Bytes) : Prop where
  sized : key.length = 32
  positive : 1 ≤ key.toNat
  below : key.toNat ≤ groupOrder - 1

theorem exists_privateKey_iff (key : Bytes) :
    (∃ scalar, privateKey key = .ok scalar) ↔ IsKey key := by
  have orderPositive : 0 < groupOrder := prime_groupOrder.pos
  constructor
  · rintro ⟨scalar, keyed⟩
    unfold privateKey at keyed
    split at keyed
    · cases keyed
    · next sized =>
        split at keyed
        · next denoted =>
            obtain ⟨⟨positive, below⟩, -⟩ := Option.dite_none_right_eq_some.mp denoted
            exact ⟨not_not.mp sized, positive, Nat.le_sub_one_of_lt below⟩
        · cases keyed
  · rintro ⟨sized, positive, below⟩
    exact ⟨_, privateKey_eq_ok sized positive (Nat.lt_of_le_sub_one orderPositive below)⟩

section Refused

variable {key : Bytes} {fault : KeyFault}

theorem signer_address_of_error (unkeyed : privateKey key = .error fault) :
    signer.address key = .error (.invalidKey fault.message) := by
  simp only [signer, unkeyed]

theorem signer_sign_of_error
    (unkeyed : privateKey key = .error fault)
    (digest : Digest) :
    signer.sign key digest = .error (.invalidKey fault.message) := by
  simp only [signer, unkeyed]

end Refused

/-- An address is derived of exactly the private keys. -/
theorem exists_address_iff (key : Bytes) :
    (∃ address, signer.address key = .ok address) ↔ IsKey key := by
  rw [← exists_privateKey_iff]
  cases keyed : privateKey key with
  | error fault =>
      rw [signer_address_of_error keyed]
      exact ⟨nofun, nofun⟩
  | ok scalar =>
      rw [signer_address_of_privateKey keyed]
      exact ⟨fun _ => ⟨scalar, rfl⟩, fun _ => ⟨_, rfl⟩⟩

/-- An address is refused for no other reason than that there is no key. -/
theorem invalidKey_of_address
    {key : Bytes}
    {fault : SigningFault}
    (refused : signer.address key = .error fault) :
    ∃ detail, fault = .invalidKey detail := by
  cases keyed : privateKey key with
  | error unkeyed =>
      rw [signer_address_of_error keyed] at refused
      cases refused
      exact ⟨_, rfl⟩
  | ok scalar =>
      rw [signer_address_of_privateKey keyed] at refused
      cases refused

theorem answer_ne_invalidKey (made : Option RawSignature) (detail : String) :
    answer made ≠ .error (.invalidKey detail) := by
  cases made with
  | none => exact nofun
  | some raw => exact nofun

/-- What is no key to sign with is none to derive an address of, in the same words and
whatever is to be signed. -/
theorem sign_eq_invalidKey_iff (key : Bytes) (digest : Digest) (detail : String) :
    signer.sign key digest = .error (.invalidKey detail) ↔
      signer.address key = .error (.invalidKey detail) := by
  cases keyed : privateKey key with
  | error fault =>
      rw [signer_sign_of_error keyed, signer_address_of_error keyed]
      simp only [Except.error.injEq]
  | ok scalar =>
      rw [signer_sign_of_privateKey keyed, signer_address_of_privateKey keyed]
      exact ⟨fun refused => absurd refused (answer_ne_invalidKey _ detail), nofun⟩

/-- A key of which an address is derived is not refused to sign with. -/
theorem sign_ne_invalidKey
    {key : Bytes}
    {address : String}
    (derived : signer.address key = .ok address)
    (digest : Digest)
    (detail : String) :
    signer.sign key digest ≠ .error (.invalidKey detail) := by
  rw [Ne, sign_eq_invalidKey_iff, derived]
  exact nofun

/-! ## Signatures that fail -/

/-- If the search for a nonce finds nothing, its first candidate is no scalar, and the
search behind it finds nothing either. -/
theorem NonceState.of_draw_eq_none
    {state : NonceState}
    (nothing : state.draw = none) :
    Scalar.ofNat? state.chained.toNat = none ∧ state.next.draw = none := by
  rw [draw] at nothing
  split at nothing
  · cases nothing
  · next refused => exact ⟨refused, nothing⟩

/-- What the search for a nonce finds is one of its candidates. -/
theorem NonceState.exists_of_draw_eq_some
    {state : NonceState}
    {nonce : Scalar}
    (drawn : state.draw = some nonce) :
    ∃ count, Scalar.ofNat? (next^[count] state).chained.toNat = some nonce := by
  refine draw.partial_correctness
    (fun state nonce =>
      ∃ count, Scalar.ofNat? (next^[count] state).chained.toNat = some nonce)
    ?_ state nonce drawn
  intro search found state nonce drawn
  split at drawn
  · next first =>
      cases drawn
      exact ⟨0, first⟩
  · obtain ⟨count, candidate⟩ := found _ _ drawn
    exact ⟨count + 1, candidate⟩

/-- The search for a nonce finds nothing exactly if none of the candidates is a scalar,
however far it goes. -/
theorem NonceState.draw_eq_none_iff (state : NonceState) :
    state.draw = none ↔
      ∀ count, Scalar.ofNat? (next^[count] state).chained.toNat = none := by
  constructor
  · intro nothing count
    obtain ⟨refused, behind⟩ := of_draw_eq_none nothing
    induction count generalizing state with
    | zero => exact refused
    | succ count inductionHypothesis =>
        obtain ⟨nextRefused, nextBehind⟩ := of_draw_eq_none behind
        exact inductionHypothesis _ behind nextRefused nextBehind
  · intro refused
    cases drawn : state.draw with
    | none => rfl
    | some nonce =>
        obtain ⟨count, candidate⟩ := exists_of_draw_eq_some drawn
        cases candidate.symm.trans (refused count)

/-- Why a digest is not signed with a scalar: no candidate for the nonce is ever a scalar,
so that the search does not end, or one half of the signature is zero. -/
inductive Unsigned (scalar : Scalar) (digest : Digest) : Prop where
  | noNonce
      (rejected :
        ∀ count,
          Scalar.ofNat?
              (NonceState.next^[count] (NonceState.seed scalar digest)).chained.toNat =
            none)
  | zeroHalf
      {nonce : Scalar}
      {x y : Nat}
      (drawn : (NonceState.seed scalar digest).draw = some nonce)
      (multiplied : nonce.publicPoint = .affine x y)
      (zero :
        x % groupOrder = 0 ∨
          inverse groupOrder nonce.value *
              (digest.toNat % groupOrder + x % groupOrder * scalar.value) % groupOrder =
            0)

theorem unsigned_of_sign_eq_none
    {scalar : Scalar}
    {digest : Digest}
    (failed : sign scalar digest = none) :
    Unsigned scalar digest := by
  cases drawn : (NonceState.seed scalar digest).draw with
  | none => exact .noNonce ((NonceState.draw_eq_none_iff _).mp drawn)
  | some nonce =>
      rw [sign, drawn, Option.bind_some] at failed
      cases multiplied : nonce.publicPoint with
      | infinity => exact absurd multiplied nonce.publicPoint_ne_infinity
      | affine x y =>
          refine .zeroHalf drawn multiplied ?_
          by_contra nonzero
          obtain ⟨rNonzero, sNonzero⟩ := not_or.mp nonzero
          obtain ⟨raw, made⟩ := exists_signWithNonce scalar multiplied rNonzero sNonzero
          cases failed.symm.trans made

/-- With a private key a signature fails for the sake of its numbers alone. -/
theorem unsigned_of_sign_eq_error
    {key : Bytes}
    {digest : Digest}
    {fault : SigningFault}
    (accepted : IsKey key)
    (failed : signer.sign key digest = .error fault) :
    fault = .backend "signature error" ∧
      ∃ scalar, privateKey key = .ok scalar ∧ Unsigned scalar digest := by
  obtain ⟨scalar, keyed⟩ := (exists_privateKey_iff key).mpr accepted
  rw [signer_sign_of_privateKey keyed] at failed
  cases made : sign scalar digest with
  | some raw =>
      rw [made] at failed
      cases failed
  | none =>
      rw [made] at failed
      cases failed
      exact ⟨rfl, scalar, keyed, unsigned_of_sign_eq_none made⟩

end OrderCustody.Secp256k1
