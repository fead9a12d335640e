import Mathlib.AlgebraicGeometry.EllipticCurve.Affine.Point
import OrderCustody.Proofs.Secp256k1.Residue

namespace OrderCustody.Secp256k1

/-!
# The points form a group

The points of the curve over the residues modulo the coordinate field's order are a
commutative group.  A point of that group is written down with the smallest numbers
that stand for its coordinates, and adding and multiplying what is written down is
adding and multiplying in the group.
-/

/-- The curve `y² = x³ + 7` over the coordinate field. -/
def curve : WeierstrassCurve.Affine (ZMod fieldOrder) where
  a₁ := 0
  a₂ := 0
  a₃ := 0
  a₄ := 0
  a₆ := 7

/-- A number that the order of the coordinate field does not divide is not zero there. -/
theorem cast_ne_zero
    {value : Nat}
    (positive : 0 < value)
    (below : value < fieldOrder) :
    (value : ZMod fieldOrder) ≠ 0 := by
  intro isZero
  rw [ZMod.natCast_eq_zero_iff] at isZero
  exact absurd (Nat.le_of_dvd positive isZero) (Nat.not_le.mpr below)

instance : curve.IsElliptic where
  isUnit := by
    have discriminant : curve.Δ = -((21168 : Nat) : ZMod fieldOrder) := by
      simp only [WeierstrassCurve.Δ, WeierstrassCurve.b₂, WeierstrassCurve.b₄,
        WeierstrassCurve.b₆, WeierstrassCurve.b₈, curve]
      norm_num
    rw [discriminant]
    exact (neg_ne_zero.mpr (cast_ne_zero (by decide) (by decide))).isUnit

theorem equation_iff (x y : ZMod fieldOrder) :
    curve.Equation x y ↔ y ^ 2 = x ^ 3 + 7 := by
  rw [WeierstrassCurve.Affine.equation_iff]
  simp [curve]

theorem negY_curve (x y : ZMod fieldOrder) : curve.negY x y = -y := by
  simp [WeierstrassCurve.Affine.negY, curve]

theorem addX_curve (x₁ x₂ slope : ZMod fieldOrder) :
    curve.addX x₁ x₂ slope = slope ^ 2 - x₁ - x₂ := by
  simp [WeierstrassCurve.Affine.addX, curve]

theorem addY_curve (x₁ x₂ y₁ slope : ZMod fieldOrder) :
    curve.addY x₁ x₂ y₁ slope = slope * (x₁ - curve.addX x₁ x₂ slope) - y₁ := by
  rw [WeierstrassCurve.Affine.addY, WeierstrassCurve.Affine.negAddY, negY_curve]
  ring

/-- The slope of the tangent at a point that is not its own opposite. -/
theorem slope_of_not_opposite
    {x y₁ y₂ : ZMod fieldOrder}
    (notOpposite : y₁ ≠ -y₂) :
    curve.slope x x y₁ y₂ = 3 * x * x / (2 * y₁) := by
  rw [WeierstrassCurve.Affine.slope_of_Y_ne rfl (by rwa [negY_curve]), negY_curve]
  simp only [curve]
  ring_nf

namespace Point

/-- The first coordinate of a point; zero for the neutral element, which has none. -/
def abscissa : Point → Nat
  | infinity => 0
  | affine x _ => x

/-- The second coordinate of a point; zero for the neutral element, which has none. -/
def ordinate : Point → Nat
  | infinity => 0
  | affine _ y => y

/-- A point of the group, written down. -/
def ofCurve : curve.Point → Point
  | .zero => .infinity
  | .some x y _ => .affine x.val y.val

@[simp] theorem ofCurve_zero : ofCurve 0 = .infinity := rfl

@[simp] theorem ofCurve_some
    {x y : ZMod fieldOrder}
    (nonsingular : curve.Nonsingular x y) :
    ofCurve (.some x y nonsingular) = .affine x.val y.val := rfl

/-- No two points are written down alike. -/
theorem ofCurve_injective : Function.Injective ofCurve := by
  intro first second same
  cases first with
  | zero =>
      cases second with
      | zero => rfl
      | some x y nonsingular => exact absurd same nofun
  | some x y nonsingular =>
      cases second with
      | zero => exact absurd same nofun
      | some x' y' nonsingular' =>
          simp only [ofCurve_some, affine.injEq] at same
          obtain rfl := ZMod.val_injective fieldOrder same.1
          obtain rfl := ZMod.val_injective fieldOrder same.2
          rfl

/-- The third point on a line is the one that the group's formulas give. -/
theorem onLine_val (slope x₁ y₁ x₂ : ZMod fieldOrder) :
    onLine slope.val x₁.val y₁.val x₂.val =
      .affine (curve.addX x₁ x₂ slope).val (curve.addY x₁ x₂ y₁ slope).val := by
  simp only [onLine, Field.mul_eq_val, Field.sub_eq_val, ZMod.natCast_val, ZMod.cast_id',
    id_eq, addX_curve, addY_curve, pow_two]

/-- Adding what is written down is adding in the group. -/
theorem add_ofCurve (first second : curve.Point) :
    (ofCurve first).add (ofCurve second) = ofCurve (first + second) := by
  cases first with
  | zero => exact congrArg ofCurve (zero_add second).symm
  | some x₁ y₁ nonsingular₁ =>
      cases second with
      | zero => exact congrArg ofCurve (add_zero (.some x₁ y₁ nonsingular₁)).symm
      | some x₂ y₂ nonsingular₂ =>
          by_cases apart : x₁ ≠ x₂
          · have apartWritten : x₁.val ≠ x₂.val :=
              fun same => apart (ZMod.val_injective fieldOrder same)
            have chord :
                Field.div (Field.sub y₂.val y₁.val) (Field.sub x₂.val x₁.val) =
                  (curve.slope x₁ x₂ y₁ y₂).val := by
              rw [WeierstrassCurve.Affine.slope_of_X_ne apart, ← neg_div_neg_eq, neg_sub,
                neg_sub]
              simp
            rw [WeierstrassCurve.Affine.Point.add_of_X_ne apart, ofCurve_some, ofCurve_some,
              add, if_neg apartWritten, chord, onLine_val, ofCurve_some]
          obtain rfl : x₁ = x₂ := not_not.mp apart
          by_cases opposite : y₁ = -y₂
          · have sumZero : Field.add y₁.val y₂.val = 0 := by simp [opposite]
            rw [WeierstrassCurve.Affine.Point.add_of_Y_eq rfl (by rwa [negY_curve]),
              ofCurve_some, ofCurve_some, add, if_pos rfl, if_pos sumZero, ofCurve_zero]
          · have sumNotZero : Field.add y₁.val y₂.val ≠ 0 := by
              simpa [add_eq_zero_iff_eq_neg] using opposite
            have tangent :
                Field.div (3 * x₁.val * x₁.val) (2 * y₁.val) =
                  (curve.slope x₁ x₁ y₁ y₂).val := by
              rw [slope_of_not_opposite opposite]
              simp
            rw [WeierstrassCurve.Affine.Point.add_of_Y_ne (by rwa [negY_curve]),
              ofCurve_some, ofCurve_some, add, if_pos rfl, if_neg sumNotZero, tangent,
              onLine_val, ofCurve_some]

/-- Multiplying what is written down is multiplying in the group. -/
theorem multiply_ofCurve (factor : Nat) (point : curve.Point) :
    multiply factor (ofCurve point) = ofCurve (factor • point) := by
  induction factor using Nat.strongRecOn generalizing point with
  | ind factor inductionHypothesis =>
      rw [multiply]
      by_cases isZero : factor = 0
      · rw [if_pos isZero, isZero, zero_nsmul, ofCurve_zero]
      · have halves :
            multiply (factor / 2) ((ofCurve point).add (ofCurve point)) =
              ofCurve ((2 * (factor / 2)) • point) := by
          rw [add_ofCurve, inductionHypothesis (factor / 2) (by omega), ← two_nsmul,
            ← mul_nsmul]
        rw [if_neg isZero, halves]
        rcases Nat.mod_two_eq_zero_or_one factor with even | odd
        · have whole : 2 * (factor / 2) = factor := by omega
          rw [if_neg (by omega), whole]
        · have whole : factor = 2 * (factor / 2) + 1 := by omega
          rw [if_pos odd, add_ofCurve, ← succ_nsmul', ← whole]

/-- The opposite of a point. -/
def opposite : Point → Point
  | infinity => infinity
  | affine x y => affine x (Field.sub 0 y)

/-- The opposite of what is written down is the opposite in the group. -/
theorem opposite_ofCurve (point : curve.Point) :
    (ofCurve point).opposite = ofCurve (-point) := by
  cases point with
  | zero => rfl
  | some x y nonsingular =>
      simp only [WeierstrassCurve.Affine.Point.neg_some, ofCurve_some, negY_curve, opposite,
        Field.sub_eq_val, Nat.cast_zero, ZMod.natCast_val, ZMod.cast_id', id_eq, zero_sub]

/-- The coordinates of the generator solve the equation of the curve. -/
theorem equation_generator : curve.Equation generator.abscissa generator.ordinate := by
  rw [equation_iff]
  exact_mod_cast (ZMod.natCast_eq_natCast_iff' _ _ fieldOrder).mpr (by decide +kernel)

/-- The generator as an element of the group. -/
def base : curve.Point := .mk equation_generator

theorem ofCurve_base : ofCurve base = generator := by
  have abscissaBounded : generator.abscissa < fieldOrder := by decide
  have ordinateBounded : generator.ordinate < fieldOrder := by decide
  rw [base, WeierstrassCurve.Affine.Point.mk, ofCurve_some,
    ZMod.val_natCast_of_lt abscissaBounded, ZMod.val_natCast_of_lt ordinateBounded]
  rfl

end Point

end OrderCustody.Secp256k1
