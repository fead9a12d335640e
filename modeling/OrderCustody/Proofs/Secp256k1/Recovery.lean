import Mathlib.FieldTheory.Finite.Basic
import OrderCustody.Proofs.Secp256k1.Multiple
import OrderCustody.Secp256k1.Signer

namespace OrderCustody.Secp256k1

/-!
# Signatures lead back to their key

Whoever has a digest and a signature of it can tell the public point of the key that
signed: the first half and the recovery number determine the nonce's point, and the
point of the key solves the equation that the second half was made to satisfy.  Taking
the lower of two second halves goes with the opposite of the nonce's point, so that
both cases are one: some multiple of the generator that the signature describes.
-/

namespace Point

/-- The point of a first coordinate whose second one is odd or even, if there is one.
The order of the field is three more than a multiple of four, so that a power is a
square root. -/
def ofAbscissa? (x parity : Nat) : Option Point :=
  let square := Field.add (Field.mul x (Field.mul x x)) 7
  let root := power fieldOrder square ((fieldOrder + 1) / 4)
  if fieldOrder ≤ x ∨ Field.mul root root ≠ square then none
  else some (.affine x (if root % 2 = parity then root else Field.sub 0 root))

end Point

namespace RawSignature

/-- The numbers in the sixty-five bytes of a signature. -/
def ofSignature (signature : Signature) : RawSignature where
  r := Bytes.toNat (signature.bytes.take 32)
  s := Bytes.toNat ((signature.bytes.drop 32).take 32)
  recovery := Bytes.toNat (signature.bytes.drop 64) - 27

/-- Both halves are scalars. -/
def InRange (raw : RawSignature) : Prop :=
  (1 ≤ raw.r ∧ raw.r < groupOrder) ∧ 1 ≤ raw.s ∧ raw.s < groupOrder

/-- The equation of verification: the halves are a signature of a hash under a public
point. -/
def Verifies (raw : RawSignature) (key : Point) (hash : Nat) : Prop :=
  let quotient := inverse groupOrder raw.s
  let point :=
    (Point.multiply (hash * quotient % groupOrder) .generator).add
      (Point.multiply (raw.r * quotient % groupOrder) key)
  raw.InRange ∧ point ≠ .infinity ∧ point.abscissa % groupOrder = raw.r

instance (raw : RawSignature) : Decidable raw.InRange :=
  inferInstanceAs (Decidable (_ ∧ _))

instance (raw : RawSignature) (key : Point) (hash : Nat) :
    Decidable (raw.Verifies key hash) :=
  inferInstanceAs (Decidable (_ ∧ _))

/-- The public point under which a signature of a hash was made, if there is one: the
nonce's point is found by its first coordinate, which is the first half or the order of
the group above it, and by the parity of its second one. -/
def recover? (raw : RawSignature) (hash : Nat) : Option Point :=
  if raw.InRange ∧ raw.recovery ≤ 3 then
    let abscissa := raw.r + raw.recovery / 2 * groupOrder
    match Point.ofAbscissa? abscissa (raw.recovery % 2) with
    | none => none
    | some noncePoint =>
        let quotient := inverse groupOrder raw.r
        let key :=
          (Point.multiply (quotient * raw.s % groupOrder) noncePoint).add
            (Point.multiply (groupOrder - quotient * hash % groupOrder) .generator)
        if key = .infinity then none else some key
  else none

end RawSignature

/-! ## Points by their first coordinate -/

namespace Point

theorem lt_of_ofCurve_eq
    {point : curve.Point}
    {x y : Nat}
    (written : ofCurve point = .affine x y) :
    x < fieldOrder ∧ y < fieldOrder := by
  cases point with
  | zero => exact absurd written nofun
  | some x' y' nonsingular =>
      rw [ofCurve_some, affine.injEq] at written
      obtain ⟨rfl, rfl⟩ := written
      exact ⟨x'.val_lt, y'.val_lt⟩

theorem square_of_ofCurve_eq
    {point : curve.Point}
    {x y : Nat}
    (written : ofCurve point = .affine x y) :
    (y : ZMod fieldOrder) ^ 2 = (x : ZMod fieldOrder) ^ 3 + 7 := by
  cases point with
  | zero => exact absurd written nofun
  | some x' y' nonsingular =>
      rw [ofCurve_some, affine.injEq] at written
      obtain ⟨rfl, rfl⟩ := written
      rw [ZMod.natCast_zmod_val, ZMod.natCast_zmod_val]
      exact (equation_iff x' y').mp nonsingular.left

/-- The power is a square root of every square. -/
theorem root_mul_root (y : ZMod fieldOrder) :
    (y ^ 2) ^ ((fieldOrder + 1) / 4) * (y ^ 2) ^ ((fieldOrder + 1) / 4) = y ^ 2 := by
  have whole : 2 * ((fieldOrder + 1) / 4 * 2) = fieldOrder + 1 := by decide
  rw [← pow_two, ← pow_mul, ← pow_mul, whole, pow_succ, ZMod.pow_card, pow_two]

theorem fieldOrder_odd : fieldOrder % 2 = 1 := by decide

/-- Opposite second coordinates add up to nothing or to the order of the field. -/
theorem eq_sub_of_cast_eq_neg
    {first second : Nat}
    (firstBounded : first < fieldOrder)
    (secondBounded : second < fieldOrder)
    (opposite : (first : ZMod fieldOrder) = -second) :
    first = 0 ∧ second = 0 ∨ 0 < second ∧ first = fieldOrder - second := by
  have divides : fieldOrder ∣ first + second := by
    rw [← ZMod.natCast_eq_zero_iff, Nat.cast_add, opposite, neg_add_cancel]
  obtain ⟨quotient, sum⟩ := divides
  have small : quotient < 2 := by
    by_contra large
    have : fieldOrder * 2 ≤ fieldOrder * quotient := Nat.mul_le_mul_left _ (by omega)
    omega
  obtain rfl | rfl : quotient = 0 ∨ quotient = 1 := by omega
  · exact .inl (by omega)
  · exact .inr (by omega)

/-- A point is found by its first coordinate and the parity of the second. -/
theorem ofAbscissa?_ofCurve
    {point : curve.Point}
    {x y : Nat}
    (written : ofCurve point = .affine x y) :
    ofAbscissa? x (y % 2) = some (.affine x y) := by
  obtain ⟨xBounded, yBounded⟩ := lt_of_ofCurve_eq written
  have square :
      (Field.add (Field.mul x (Field.mul x x)) 7 : ZMod fieldOrder) =
        (y : ZMod fieldOrder) ^ 2 := by
    rw [square_of_ofCurve_eq written]
    simp only [Field.add_eq_val, Field.mul_eq_val, ZMod.natCast_val, ZMod.cast_id', id_eq,
      Nat.cast_ofNat]
    ring
  obtain ⟨root, rootEq⟩ :
      ∃ root,
        root =
          power fieldOrder (Field.add (Field.mul x (Field.mul x x)) 7)
            ((fieldOrder + 1) / 4) := ⟨_, rfl⟩
  have rootBounded : root < fieldOrder := rootEq ▸ power_lt prime_fieldOrder.pos _ _
  have rootSquare :
      (root : ZMod fieldOrder) * root = (y : ZMod fieldOrder) ^ 2 := by
    rw [rootEq, cast_power, square, root_mul_root]
  have accepted :
      Field.mul root root = Field.add (Field.mul x (Field.mul x x)) 7 := by
    rw [Field.mul_eq_val, rootSquare, ← square, Field.add_eq_val, ZMod.natCast_zmod_val]
  have found : (if root % 2 = y % 2 then root else Field.sub 0 root) = y := by
    have oddOrder := fieldOrder_odd
    rw [← pow_two] at rootSquare
    rcases sq_eq_sq_iff_eq_or_eq_neg.mp rootSquare with same | opposite
    · have sameNumber : root = y := by
        have sameVal := congrArg ZMod.val same
        rwa [ZMod.val_natCast_of_lt rootBounded, ZMod.val_natCast_of_lt yBounded] at sameVal
      rw [if_pos (congrArg (· % 2) sameNumber), sameNumber]
    · rcases eq_sub_of_cast_eq_neg rootBounded yBounded opposite with zero | difference
      · rw [if_pos (by omega), zero.1, zero.2]
      · have reflected : Field.sub 0 root = y := by
          rw [Field.sub_eq_val, opposite, Nat.cast_zero, zero_sub, neg_neg,
            ZMod.val_natCast_of_lt yBounded]
        rw [if_neg (by omega), reflected]
  have listed :
      ¬ (fieldOrder ≤ x ∨
          Field.mul root root ≠ Field.add (Field.mul x (Field.mul x x)) 7) := by
    rw [not_or, Nat.not_le, not_not]
    exact ⟨xBounded, accepted⟩
  simp only [ofAbscissa?, ← rootEq]
  rw [if_neg listed, found]

end Point

/-! ## What a signature describes -/

/-- A number between zero and the order of the group is not zero among the residues. -/
theorem cast_groupOrder_ne_zero
    {value : Nat}
    (positive : 0 < value)
    (below : value < groupOrder) :
    (value : ZMod groupOrder) ≠ 0 := by
  intro isZero
  rw [ZMod.natCast_eq_zero_iff] at isZero
  exact absurd (Nat.le_of_dvd positive isZero) (Nat.not_le.mpr below)

/-- The second coordinate of a multiple of the generator is not zero: the point would be
its own opposite, and the order of the group is odd. -/
theorem ordinate_pos
    {factor : ZMod groupOrder}
    (nonzero : factor ≠ 0)
    {x y : Nat}
    (written : Point.ofCurve (multiples factor) = .affine x y) :
    0 < y := by
  rw [Nat.pos_iff_ne_zero]
  rintro rfl
  have same : Point.ofCurve (multiples (-factor)) = Point.ofCurve (multiples factor) := by
    rw [map_neg, ← Point.opposite_ofCurve, written]
    simp [Point.opposite]
  have twice : (2 : Nat) * factor = 0 := by
    have negated : -factor = factor :=
      multiples_injective (Point.ofCurve_injective same)
    rw [Nat.cast_ofNat, two_mul]
    exact neg_eq_iff_add_eq_zero.mp negated
  exact mul_ne_zero (cast_groupOrder_ne_zero (by decide) (by decide)) nonzero twice

/-- The opposite of a multiple has the same first coordinate, and a second one of the
other parity. -/
theorem ofCurve_multiples_neg
    {factor : ZMod groupOrder}
    (nonzero : factor ≠ 0)
    {x y : Nat}
    (written : Point.ofCurve (multiples factor) = .affine x y) :
    Point.ofCurve (multiples (-factor)) = .affine x (fieldOrder - y) ∧
      (fieldOrder - y) % 2 = (y + 1) % 2 := by
  have yPositive := ordinate_pos nonzero written
  have yBounded := (Point.lt_of_ofCurve_eq written).2
  have reflected : Field.sub 0 y = fieldOrder - y := by
    rw [Field.sub, Nat.zero_add, Nat.mod_eq_of_lt yBounded,
      Nat.mod_eq_of_lt (Nat.sub_lt prime_fieldOrder.pos yPositive)]
  have oddOrder := Point.fieldOrder_odd
  refine ⟨?_, ?_⟩
  · rw [map_neg, ← Point.opposite_ofCurve, written, Point.opposite, reflected]
  · omega

/-- What the second half of a signature is, multiplied with the nonce. -/
theorem cast_half_mul_nonce
    {nonce : Nat}
    (nonzero : (nonce : ZMod groupOrder) ≠ 0)
    (hash r key : Nat) :
    ((inverse groupOrder nonce * (hash + r * key) % groupOrder : Nat) : ZMod groupOrder) *
        nonce =
      hash + (r : ZMod groupOrder) * key := by
  rw [ZMod.natCast_mod, Nat.cast_mul, cast_inverse, mul_comm, ← mul_assoc,
    mul_inv_cancel₀ nonzero, one_mul, Nat.cast_add, Nat.cast_mul]

theorem Scalar.publicPoint_eq (scalar : Scalar) :
    scalar.publicPoint = .ofCurve (multiples scalar.value) :=
  multiply_generator_eq scalar.value

theorem Scalar.publicPoint_ne_infinity (scalar : Scalar) :
    scalar.publicPoint ≠ .infinity := by
  intro isNeutral
  rw [scalar.publicPoint_eq, ← Point.ofCurve_zero, ← map_zero multiples] at isNeutral
  exact cast_groupOrder_ne_zero scalar.positive scalar.below
    (multiples_injective (Point.ofCurve_injective isNeutral))

/-- The numbers of a signature of a hash, made with a scalar, describe a multiple of the
generator, which has the coordinates `x` and `y`. -/
structure RawSignature.Describes
    (raw : RawSignature)
    (scalar : Scalar)
    (hash : Nat)
    (factor : ZMod groupOrder)
    (x y : Nat) :
    Prop where
  written : Point.ofCurve (multiples factor) = .affine x y
  r_eq : raw.r = x % groupOrder
  r_pos : 0 < raw.r
  s_pos : 0 < raw.s
  s_le : raw.s ≤ groupOrder / 2
  recovery_eq : raw.recovery = (if groupOrder ≤ x then 2 else 0) + y % 2
  equation :
    (raw.s : ZMod groupOrder) * factor = hash + (raw.r : ZMod groupOrder) * scalar.value

/-- Signing describes the nonce's point or, if the second half was taken from the order
of the group, its opposite; the parity in the recovery number is that of its ordinate. -/
theorem describes_of_signWithNonce
    {scalar nonce : Scalar}
    {hash : Nat}
    {raw : RawSignature}
    (signing : signWithNonce scalar nonce hash = some raw) :
    ∃ factor x y, raw.Describes scalar hash factor x y := by
  have nonceNonzero : (nonce.value : ZMod groupOrder) ≠ 0 :=
    cast_groupOrder_ne_zero nonce.positive nonce.below
  unfold signWithNonce at signing
  cases multiplied : Point.multiply nonce.value Point.generator with
  | infinity =>
      simp only [multiplied] at signing
      cases signing
  | affine x y =>
      have written : Point.ofCurve (multiples nonce.value) = .affine x y := by
        rw [← multiply_generator_eq, multiplied]
      simp only [multiplied] at signing
      obtain ⟨s, sEq⟩ :
          ∃ s,
            s =
              inverse groupOrder nonce.value *
                (hash + x % groupOrder * scalar.value) % groupOrder := ⟨_, rfl⟩
      have sBounded : s < groupOrder := sEq ▸ Nat.mod_lt _ prime_groupOrder.pos
      have solved :
          (s : ZMod groupOrder) * nonce.value =
            hash + ((x % groupOrder : Nat) : ZMod groupOrder) * scalar.value :=
        sEq ▸ cast_half_mul_nonce nonceNonzero hash (x % groupOrder) scalar.value
      rw [← sEq] at signing
      by_cases degenerate : x % groupOrder = 0 ∨ s = 0
      · rw [if_pos degenerate] at signing
        cases signing
      rw [if_neg degenerate] at signing
      obtain ⟨rNonzero, sNonzero⟩ := not_or.mp degenerate
      by_cases upper : groupOrder / 2 < s
      · rw [if_pos upper] at signing
        cases signing
        obtain ⟨reflected, parity⟩ := ofCurve_multiples_neg nonceNonzero written
        have lower : groupOrder - s ≤ groupOrder / 2 := by
          have oddOrder : groupOrder % 2 = 1 := by decide
          omega
        exact ⟨-nonce.value, x, fieldOrder - y, {
          written := reflected
          r_eq := rfl
          r_pos := Nat.pos_of_ne_zero rNonzero
          s_pos := Nat.sub_pos_of_lt sBounded
          s_le := lower
          recovery_eq := by rw [parity]
          equation := by
            rw [Nat.cast_sub sBounded.le, ZMod.natCast_self, zero_sub, neg_mul_neg, solved]
        }⟩
      · rw [if_neg upper] at signing
        cases signing
        exact ⟨nonce.value, x, y, {
          written
          r_eq := rfl
          r_pos := Nat.pos_of_ne_zero rNonzero
          s_pos := Nat.pos_of_ne_zero sNonzero
          s_le := Nat.le_of_not_lt upper
          recovery_eq := rfl
          equation := solved
        }⟩

namespace RawSignature.Describes

variable
    {raw : RawSignature}
    {scalar : Scalar}
    {hash : Nat}
    {factor : ZMod groupOrder}
    {x y : Nat}

theorem inRange (describes : raw.Describes scalar hash factor x y) : raw.InRange := by
  have rBounded : raw.r < groupOrder :=
    describes.r_eq ▸ Nat.mod_lt x prime_groupOrder.pos
  have sBounded : raw.s < groupOrder :=
    Nat.lt_of_le_of_lt describes.s_le (by decide)
  exact ⟨⟨describes.r_pos, rBounded⟩, describes.s_pos, sBounded⟩

theorem recovery_le (describes : raw.Describes scalar hash factor x y) :
    raw.recovery ≤ 3 := by
  rw [describes.recovery_eq]
  split <;> omega

/-- The equation of verification holds for the public point of the scalar. -/
theorem verifies (describes : raw.Describes scalar hash factor x y) :
    raw.Verifies scalar.publicPoint hash := by
  obtain ⟨_, sPositive, sBounded⟩ := describes.inRange
  have sNonzero : (raw.s : ZMod groupOrder) ≠ 0 :=
    cast_groupOrder_ne_zero sPositive sBounded
  have combined :
      (hash * inverse groupOrder raw.s % groupOrder : Nat) +
          (raw.r * inverse groupOrder raw.s % groupOrder : Nat) *
            (scalar.value : ZMod groupOrder) =
        factor := by
    rw [ZMod.natCast_mod, ZMod.natCast_mod, Nat.cast_mul, Nat.cast_mul, cast_inverse]
    field_simp
    rw [describes.equation]
  have point :
      (Point.multiply (hash * inverse groupOrder raw.s % groupOrder) .generator).add
          (Point.multiply (raw.r * inverse groupOrder raw.s % groupOrder)
            scalar.publicPoint) =
        .affine x y := by
    rw [scalar.publicPoint_eq, multiply_generator_eq, Point.multiply_ofCurve,
      Point.add_ofCurve, nsmul_multiples, ← map_add, combined, describes.written]
  refine ⟨describes.inRange, ?_, ?_⟩
  · rw [point]
    exact nofun
  · rw [point, describes.r_eq, Point.abscissa]

/-- Recovery gives the public point of the scalar. -/
theorem recover?_eq (describes : raw.Describes scalar hash factor x y) :
    raw.recover? hash = some scalar.publicPoint := by
  obtain ⟨⟨rPositive, rBounded⟩, _⟩ := describes.inRange
  have rNonzero : (raw.r : ZMod groupOrder) ≠ 0 :=
    cast_groupOrder_ne_zero rPositive rBounded
  have xBounded := (Point.lt_of_ofCurve_eq describes.written).1
  have abscissa : raw.r + raw.recovery / 2 * groupOrder = x := by
    have orders : groupOrder < fieldOrder ∧ fieldOrder < 2 * groupOrder := by decide
    rw [describes.r_eq, describes.recovery_eq]
    by_cases beyond : groupOrder ≤ x
    · have once : (2 + y % 2) / 2 = 1 := by omega
      rw [if_pos beyond, once, Nat.mod_eq_sub_mod beyond, Nat.mod_eq_of_lt (by omega)]
      omega
    · have never : (0 + y % 2) / 2 = 0 := by omega
      rw [if_neg beyond, never, Nat.mod_eq_of_lt (by omega), Nat.zero_mul, Nat.add_zero]
  have parity : raw.recovery % 2 = y % 2 := by
    rw [describes.recovery_eq]
    split <;> omega
  have combined :
      (inverse groupOrder raw.r * raw.s % groupOrder : Nat) * factor +
          (groupOrder - inverse groupOrder raw.r * hash % groupOrder : Nat) =
        (scalar.value : ZMod groupOrder) := by
    have below : inverse groupOrder raw.r * hash % groupOrder ≤ groupOrder :=
      (Nat.mod_lt _ prime_groupOrder.pos).le
    rw [Nat.cast_sub below, ZMod.natCast_mod, ZMod.natCast_mod, ZMod.natCast_self,
      Nat.cast_mul, Nat.cast_mul, cast_inverse, mul_assoc, describes.equation]
    field_simp
    ring
  have found : Point.ofAbscissa? (raw.r + raw.recovery / 2 * groupOrder)
      (raw.recovery % 2) = some (Point.ofCurve (multiples factor)) := by
    rw [abscissa, parity, Point.ofAbscissa?_ofCurve describes.written, describes.written]
  have key :
      (Point.multiply (inverse groupOrder raw.r * raw.s % groupOrder)
          (Point.ofCurve (multiples factor))).add
        (Point.multiply (groupOrder - inverse groupOrder raw.r * hash % groupOrder)
          .generator) =
      scalar.publicPoint := by
    rw [scalar.publicPoint_eq, multiply_generator_eq, Point.multiply_ofCurve,
      Point.add_ofCurve, nsmul_multiples, ← map_add, combined]
  rw [recover?, if_pos ⟨describes.inRange, describes.recovery_le⟩]
  simp only [found, key]
  rw [if_neg scalar.publicPoint_ne_infinity]

end RawSignature.Describes

/-! ## Keys and bytes -/

/-- The bytes of a signature, one number after the other. -/
theorem RawSignature.bytes_toSignature (raw : RawSignature) :
    raw.toSignature.bytes =
      Bytes.ofNat 32 raw.r ++ Bytes.ofNat 32 raw.s ++ [UInt8.ofNat (27 + raw.recovery)] :=
  rfl

/-- The numbers of a signature stand where its bytes are cut. -/
theorem RawSignature.ofSignature_eq
    {signature : Signature}
    {r s rest : Bytes}
    (rSized : r.length = 32)
    (sSized : s.length = 32)
    (layout : signature.bytes = r ++ s ++ rest) :
    ofSignature signature =
      { r := r.toNat, s := s.toNat, recovery := rest.toNat - 27 } := by
  have bothSized : (r ++ s).length = 64 := by rw [List.length_append, rSized, sSized]
  rw [ofSignature, layout, List.drop_left' bothSized, List.append_assoc,
    List.take_left' rSized, List.drop_left' rSized, List.take_left' sSized]

/-- The numbers of a signature can be read from its bytes. -/
theorem RawSignature.ofSignature_toSignature
    {raw : RawSignature}
    (inRange : raw.InRange)
    (recoveryBounded : raw.recovery ≤ 3) :
    ofSignature raw.toSignature = raw := by
  obtain ⟨⟨_, rBounded⟩, _, sBounded⟩ := inRange
  have orderBounded : groupOrder < Bytes.count 32 := by decide
  have bounded : 27 + raw.recovery < 256 := by omega
  rw [ofSignature_eq (Bytes.length_ofNat 32 raw.r) (Bytes.length_ofNat 32 raw.s)
      raw.bytes_toSignature, Bytes.toNat_ofNat, Bytes.toNat_ofNat,
    Nat.mod_eq_of_lt (rBounded.trans orderBounded),
    Nat.mod_eq_of_lt (sBounded.trans orderBounded)]
  simp [Bytes.toNat, Nat.mod_eq_of_lt bounded]

theorem privateKey_eq_ok
    {key : Bytes}
    (sized : key.length = 32)
    (positive : 1 ≤ key.toNat)
    (below : key.toNat < groupOrder) :
    privateKey key = .ok ⟨key.toNat, positive, below⟩ := by
  rw [privateKey, if_neg (not_not.mpr sized), Scalar.ofNat?, dif_pos ⟨positive, below⟩]

theorem answer_eq_ok
    {made : Option RawSignature}
    {signature : Signature}
    (answered : answer made = .ok signature) :
    ∃ raw, made = some raw ∧ raw.toSignature = signature := by
  cases made with
  | none => cases answered
  | some raw => exact ⟨raw, rfl, Except.ok.inj answered⟩

theorem signer_sign_of_privateKey
    {key : Bytes}
    {scalar : Scalar}
    (keyed : privateKey key = .ok scalar)
    (digest : Digest) :
    signer.sign key digest = answer (sign scalar digest) := by
  simp only [signer, keyed]

theorem signer_address_of_privateKey
    {key : Bytes}
    {scalar : Scalar}
    (keyed : privateKey key = .ok scalar) :
    signer.address key =
      .ok (Address.ofPublicKey (Point.multiply scalar.value .generator).toOctets).toText := by
  simp only [signer, keyed, addressOf, Scalar.publicPoint]

/-- What is signed with a scalar describes a multiple of the generator. -/
theorem describes_of_sign
    {scalar : Scalar}
    {digest : Digest}
    {raw : RawSignature}
    (signing : sign scalar digest = some raw) :
    ∃ factor x y, raw.Describes scalar (digest.toNat % groupOrder) factor x y := by
  obtain ⟨nonce, -, signedWith⟩ := Option.bind_eq_some_iff.mp signing
  exact describes_of_signWithNonce signedWith

/-- Signing fails only for the sake of a half that is zero. -/
theorem exists_signWithNonce
    (scalar : Scalar)
    {nonce : Scalar}
    {hash x y : Nat}
    (multiplied : Point.multiply nonce.value .generator = .affine x y)
    (rNonzero : x % groupOrder ≠ 0)
    (sNonzero :
      inverse groupOrder nonce.value * (hash + x % groupOrder * scalar.value) %
          groupOrder ≠
        0) :
    ∃ raw, signWithNonce scalar nonce hash = some raw := by
  simp only [signWithNonce, multiplied]
  rw [if_neg (not_or.mpr ⟨rNonzero, sNonzero⟩)]
  split
  · exact ⟨_, rfl⟩
  · exact ⟨_, rfl⟩

/-- A candidate for the nonce that is a scalar is taken. -/
theorem NonceState.draw_of_scalar
    {state : NonceState}
    {nonce : Scalar}
    (valid : Scalar.ofNat? state.chained.toNat = some nonce) :
    state.draw = some nonce := by
  rw [draw, valid]

/--
Every signature leads back to the key that made it.

The bytes of a signature are two halves in range, the second one among the lower half of
the scalars, and 27 more than a recovery number below four.  The halves satisfy the
equation of verification for the public point of the key, recovery from them gives that
very point, and its address is the one that the signer derives from the key.
-/
theorem signature_recovers
    {key : Bytes}
    {digest : Digest}
    {signature : Signature}
    (sized : key.length = 32)
    (positive : 1 ≤ key.toNat)
    (below : key.toNat < groupOrder)
    (signed : signer.sign key digest = .ok signature) :
    let raw := RawSignature.ofSignature signature
    let hash := digest.toNat % groupOrder
    let point := Point.multiply key.toNat .generator
    signature.bytes =
        Bytes.ofNat 32 raw.r ++ Bytes.ofNat 32 raw.s ++ [UInt8.ofNat (27 + raw.recovery)] ∧
      (1 ≤ raw.r ∧ raw.r < groupOrder) ∧
      (1 ≤ raw.s ∧ raw.s ≤ groupOrder / 2) ∧
      raw.recovery ≤ 3 ∧
      raw.Verifies point hash ∧
      raw.recover? hash = some point ∧
      signer.address key = .ok (Address.ofPublicKey point.toOctets).toText := by
  have keyed := privateKey_eq_ok sized positive below
  rw [signer_sign_of_privateKey keyed digest] at signed
  obtain ⟨raw, signing, rfl⟩ := answer_eq_ok signed
  obtain ⟨factor, x, y, describes⟩ := describes_of_sign signing
  have read : RawSignature.ofSignature raw.toSignature = raw :=
    RawSignature.ofSignature_toSignature describes.inRange describes.recovery_le
  simp only [read]
  have addressed := signer_address_of_privateKey keyed
  exact ⟨raw.bytes_toSignature, describes.inRange.1, ⟨describes.s_pos, describes.s_le⟩,
    describes.recovery_le, describes.verifies, describes.recover?_eq, addressed⟩

/-- The greatest private key signs a digest that denotes a number beyond the order of the
group, with a second half that was taken from the order. -/
theorem signature_recovers_greatest_key :
    let key := Bytes.ofNat 32 (groupOrder - 1)
    let digest : Digest := Octets.ofNat 32 (Bytes.count 32 - 2)
    ∃ signature,
      signer.sign key digest = .ok signature ∧
        (RawSignature.ofSignature signature).recover? (digest.toNat % groupOrder) =
          some (Point.multiply key.toNat .generator) := by
  intro key digest
  have positive : 1 ≤ key.toNat := by decide +kernel
  have below : key.toNat < groupOrder := by decide +kernel
  have keyed := privateKey_eq_ok (Bytes.length_ofNat 32 _) positive below
  have candidate :
      (Scalar.ofNat? (NonceState.seed ⟨key.toNat, by decide +kernel, by decide +kernel⟩
          digest).chained.toNat).map Scalar.value =
        some 0x20c1f0d3c60c8247a3e52bca412658f1fe531eb004494f770c0d2a9122804624 := by
    decide +kernel
  obtain ⟨nonce, valid, nonceEq⟩ := Option.map_eq_some_iff.mp candidate
  have multiplied :
      Point.multiply nonce.value .generator =
        .affine 0x6e59f48818fe85f7bdef0a1d1842344a13df84556f46fc1ec168f0f0d06812c8
          0x92b1838e40785a6a6dc5391f23a6791c06b208e48f6b55554e34bc1aa83307e8 := by
    rw [nonceEq, Point.multiply_generator (by decide +kernel)]
    decide +kernel
  have sNonzero :
      inverse groupOrder nonce.value *
          (digest.toNat % groupOrder +
            0x6e59f48818fe85f7bdef0a1d1842344a13df84556f46fc1ec168f0f0d06812c8 % groupOrder *
              key.toNat) %
          groupOrder ≠
        0 := by
    rw [nonceEq]
    decide +kernel
  obtain ⟨raw, made⟩ :=
    exists_signWithNonce ⟨key.toNat, positive, below⟩ multiplied (by decide +kernel) sNonzero
  have signed : signer.sign key digest = .ok raw.toSignature := by
    rw [signer_sign_of_privateKey keyed, sign, NonceState.draw_of_scalar valid,
      Option.bind_some, made, answer]
  obtain ⟨-, -, -, -, -, recovered, -⟩ :=
    signature_recovers (Bytes.length_ofNat 32 _) positive below signed
  exact ⟨raw.toSignature, signed, recovered⟩

end OrderCustody.Secp256k1
