import OrderCustody.Proofs.Session.Transition

namespace OrderCustody

/-!
# Keepers that cannot be told apart

A keeper shows its key only through what the signer makes of it.  Two keepers whose
keys the signer treats alike, sealed with whatever bytes were drawn, answer every
operation alike and go on to keepers that cannot be told apart either.
-/

/-- Two keys of which a signer makes the same, and of which both are empty or
neither is. -/
structure Signer.TreatsAlike (signer : Signer) (key other : Bytes) : Prop where
  empty : key = [] ↔ other = []
  address : signer.address key = signer.address other
  sign : ∀ digest, signer.sign key digest = signer.sign other digest

theorem Signer.TreatsAlike.refl (signer : Signer) (key : Bytes) :
    signer.TreatsAlike key key :=
  ⟨Iff.rfl, rfl, fun _ => rfl⟩

namespace Keeper

/-- Keepers that are the same but for the key of their session and for the bytes it
was sealed with. -/
inductive Alike : Keeper → Keeper → Prop where
  | vacant
      {signer : Signer}
      {lifetime : Nat} :
      Alike ⟨signer, lifetime, none⟩ ⟨signer, lifetime, none⟩
  | held
      {signer : Signer}
      {lifetime expiresAt limit used : Nat}
      {address : String}
      {sealedKey otherSealedKey : Custody.SealedKey}
      {key otherKey : Bytes}
      (revealing : sealedKey.reveal = .ok key)
      (otherRevealing : otherSealedKey.reveal = .ok otherKey)
      (treated : signer.TreatsAlike key otherKey) :
      Alike
        ⟨signer, lifetime, some ⟨sealedKey, address, expiresAt, limit, used⟩⟩
        ⟨signer, lifetime, some ⟨otherSealedKey, address, expiresAt, limit, used⟩⟩

/-- Whatever keepers held, a start of a session with keys that their signer treats
alike gives the same in both and leaves them alike. -/
theorem alike_activate
    {keeper other : Keeper}
    (sameSigner : other.signer = keeper.signer)
    (sameLifetime : other.lifetime = keeper.lifetime)
    {key otherKey : Bytes}
    (treated : keeper.signer.TreatsAlike key otherKey)
    (now limit : Nat)
    (draw otherDraw : Custody.Draw) :
    (other.activate now otherDraw otherKey limit).1 =
        (keeper.activate now draw key limit).1 ∧
      Alike (keeper.activate now draw key limit).2
        (other.activate now otherDraw otherKey limit).2 := by
  cases keeper with
  | mk signer lifetime held =>
      cases other with
      | mk otherSigner otherLifetime otherHeld =>
          cases sameSigner
          cases sameLifetime
          have sameAddress : signer.address otherKey = signer.address key :=
            treated.address.symm
          cases derived : signer.address key with
          | error fault =>
              simp only [activate, sameAddress, derived]
              exact ⟨trivial, .vacant⟩
          | ok address =>
              by_cases empty : key = []
              · have otherEmpty : otherKey = [] := treated.empty.mp empty
                subst empty otherEmpty
                simp only [activate, derived, Custody.SealedKey.ofMaterial,
                  List.isEmpty_nil, ↓reduceIte]
                exact ⟨trivial, .vacant⟩
              · have otherNonempty : otherKey ≠ [] := mt treated.empty.mpr empty
                obtain ⟨sealedKey, sealing, revealing⟩ :=
                  Custody.SealedKey.exists_ofMaterial_eq_ok draw empty
                obtain ⟨otherSealedKey, otherSealing, otherRevealing⟩ :=
                  Custody.SealedKey.exists_ofMaterial_eq_ok otherDraw otherNonempty
                simp only [activate, sameAddress, derived, sealing, otherSealing]
                exact ⟨rfl, .held revealing otherRevealing treated⟩

namespace Alike

variable {keeper other : Keeper}

theorem signer (alike : Alike keeper other) : other.signer = keeper.signer := by
  cases alike <;> rfl

theorem lifetime (alike : Alike keeper other) : other.lifetime = keeper.lifetime := by
  cases alike <;> rfl

/-- Of the sessions that they hold, whatever does not look at the sealed key is the
same. -/
theorem map_held
    (alike : Alike keeper other)
    {Part : Type}
    (part : Session → Part)
    (unsealed :
      ∀ session sealedKey, part { session with sealedKey } = part session) :
    other.held.map part = keeper.held.map part := by
  cases alike with
  | vacant => rfl
  | held => exact congrArg some (unsealed ⟨_, _, _, _, _⟩ _)

/-- Signing gives the same in both. -/
theorem sign
    (alike : Alike keeper other)
    (now value : Nat)
    (digest : Digest) :
    (other.sign now value digest).1 = (keeper.sign now value digest).1 ∧
      Alike (keeper.sign now value digest).2 (other.sign now value digest).2 := by
  cases alike with
  | vacant => exact ⟨rfl, .vacant⟩
  | @held signer lifetime expiresAt limit used address sealedKey otherSealedKey key
      otherKey revealing otherRevealing treated =>
      have sameAnswer := treated.sign digest
      simp only [Keeper.sign, revealing, otherRevealing, ← sameAnswer]
      by_cases late : expiresAt ≤ now
      · simp only [Session.isExpired, late, decide_true, ↓reduceIte]
        exact ⟨trivial, .vacant⟩
      by_cases excess : limit < used + value
      · simp only [Session.isExpired, late, excess, decide_false, Bool.false_eq_true,
          ↓reduceIte]
        exact ⟨rfl, .held revealing otherRevealing treated⟩
      simp only [Session.isExpired, late, excess, decide_false, Bool.false_eq_true,
        ↓reduceIte]
      cases signing : signer.sign key digest with
      | error fault => exact ⟨rfl, .held revealing otherRevealing treated⟩
      | ok signature => exact ⟨rfl, .held revealing otherRevealing treated⟩

/-- The report is the same in both. -/
theorem observe (alike : Alike keeper other) (now : Nat) :
    (other.observe now).1 = (keeper.observe now).1 ∧
      Alike (keeper.observe now).2 (other.observe now).2 := by
  cases alike with
  | vacant => exact ⟨rfl, .vacant⟩
  | @held signer lifetime expiresAt _ _ _ _ _ _ _ revealing otherRevealing treated =>
      by_cases late : expiresAt ≤ now
      · simp only [Keeper.observe, Session.isExpired, late, decide_true, ↓reduceIte]
        exact ⟨trivial, .vacant⟩
      · simp only [Keeper.observe, Session.isExpired, late, decide_false,
          Bool.false_eq_true, ↓reduceIte]
        exact ⟨rfl, .held revealing otherRevealing treated⟩

/-- Destroying finds the same in both. -/
theorem destroy (alike : Alike keeper other) (now : Nat) :
    (other.destroy now).1 = (keeper.destroy now).1 ∧
      Alike (keeper.destroy now).2 (other.destroy now).2 := by
  cases alike with
  | vacant => exact ⟨rfl, .vacant⟩
  | held => exact ⟨rfl, .vacant⟩

end Alike

end Keeper

end OrderCustody
