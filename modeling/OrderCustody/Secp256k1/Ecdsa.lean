import OrderCustody.Hash.Sha256
import OrderCustody.Secp256k1.Group

namespace OrderCustody.Secp256k1

/-!
# Recoverable signatures

A digest is signed with a nonce derived from the private scalar and the digest
itself, so that signing needs no randomness.  The second half of a signature
is taken from the lower half of the scalars, and the recovery number says
which of the points with the signature's abscissa was the nonce's multiple of
the generator.
-/

/-- A private key: a scalar between one and the group order. -/
structure Scalar where
  value : Nat
  positive : 0 < value
  below : value < groupOrder

namespace Scalar

/-- The scalar a number denotes, unless it is zero or too large. -/
def ofNat? (value : Nat) : Option Scalar :=
  if valid : 0 < value ∧ value < groupOrder then
    some ⟨value, valid.1, valid.2⟩
  else
    none

/-- The public point of a private scalar. -/
def publicPoint (scalar : Scalar) : Point :=
  scalar.value |> (Point.multiply · Point.generator)

end Scalar

/-- The state of the generator of candidate nonces: a key and a chained value. -/
structure NonceState where
  key : Octets 32
  chain : Octets 32

namespace NonceState

/-- Mix a tag and further bytes into the state. -/
def mix (state : NonceState) (tag : UInt8) (input : Bytes) : NonceState :=
  let key :=
    Sha256.hmac state.key.bytes (state.chain.bytes ++ tag :: input)
  { key, chain := Sha256.hmac key.bytes state.chain.bytes }

/-- The state seeded with the private scalar and the digest as it is, also
when it denotes a number beyond the group order. -/
def seed (scalar : Scalar) (digest : Octets 32) : NonceState :=
  let input := Bytes.ofNat 32 scalar.value ++ digest.bytes
  let blank : NonceState :=
    { key := Octets.zero 32
      chain := ⟨List.replicate 32 1, by simp⟩ }
  (blank.mix 0 input).mix 1 input

/-- The value that is chained next; it is the candidate as well. -/
def chained (state : NonceState) : Octets 32 :=
  Sha256.hmac state.key.bytes state.chain.bytes

/-- The state behind a candidate that is no scalar. -/
def next (state : NonceState) : NonceState :=
  { state with chain := state.chained }.mix 0 []

/-- The first candidate that is a valid scalar, of as many as it takes.  Each one fails
with a probability of about two to the minus 128, and there is nothing if all of them do:
the search does not end then. -/
def draw (state : NonceState) : Option Scalar :=
  match Scalar.ofNat? state.chained.toNat with
  | some nonce => some nonce
  | none => state.next |>.draw
partial_fixpoint

end NonceState

/-- The two halves of a signature and its recovery number. -/
structure RawSignature where
  r : Nat
  s : Nat
  recovery : Nat
  deriving DecidableEq, Repr

/-- The signature of a digest modulo the group order under a given nonce,
unless one half would be zero. -/
def signWithNonce
    (scalar nonce : Scalar)
    (digest : Nat) :
    Option RawSignature :=
  match Point.multiply nonce.value Point.generator with
  | .infinity => none
  | .affine x y =>
      let r := x % groupOrder
      let s :=
        inverse groupOrder nonce.value * (digest + r * scalar.value) %
          groupOrder
      if r = 0 ∨ s = 0 then none
      else
        let reduced := if groupOrder ≤ x then 2 else 0
        if groupOrder / 2 < s then
          some { r, s := groupOrder - s, recovery := reduced + (y + 1) % 2 }
        else
          some { r, s, recovery := reduced + y % 2 }

/-- The signature of a digest with its derived nonce. -/
def sign (scalar : Scalar) (digest : Octets 32) : Option RawSignature :=
  (NonceState.seed scalar digest).draw.bind
    (signWithNonce scalar · (digest.toNat % groupOrder))

end OrderCustody.Secp256k1
