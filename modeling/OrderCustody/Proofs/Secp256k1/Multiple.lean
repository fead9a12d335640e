import OrderCustody.Proofs.Secp256k1.Curve

namespace OrderCustody.Secp256k1

/-!
# Multiples of the generator

The multiples of the generator repeat with the order of the group, so that they are a
copy of the residues modulo that order.  That the period is right is a computation, and
it is done with coordinates that are held as fractions, without any division.
-/

open WeierstrassCurve.Affine
  (Point.some_ne_zero Point.add_of_X_ne Point.add_self_of_Y_ne)

/-- A point held as three numbers: its coordinates are `x / z ^ 2` and `y / z ^ 3`. -/
structure Scaled where
  x : Nat
  y : Nat
  z : Nat

namespace Scaled

/-- The double of a point. -/
def double (scaled : Scaled) : Scaled :=
  let slope := Field.mul 3 (Field.mul scaled.x scaled.x)
  let square := Field.mul scaled.y scaled.y
  let middle := Field.mul 4 (Field.mul scaled.x square)
  let x := Field.sub (Field.mul slope slope) (Field.mul 2 middle)
  { x
    y :=
      Field.sub (Field.mul slope (Field.sub middle x))
        (Field.mul 8 (Field.mul square square))
    z := Field.mul 2 (Field.mul scaled.y scaled.z) }

/-- The sum of a point and the generator. -/
def addGenerator (scaled : Scaled) : Scaled :=
  let square := Field.mul scaled.z scaled.z
  let run := Field.sub (Field.mul Point.generator.abscissa square) scaled.x
  let rise :=
    Field.sub (Field.mul Point.generator.ordinate (Field.mul scaled.z square)) scaled.y
  let runSquare := Field.mul run run
  let middle := Field.mul scaled.x runSquare
  let x :=
    Field.sub (Field.sub (Field.mul rise rise) (Field.mul run runSquare))
      (Field.mul 2 middle)
  { x
    y :=
      Field.sub (Field.mul rise (Field.sub middle x))
        (Field.mul scaled.y (Field.mul run runSquare))
    z := Field.mul scaled.z run }

/-- A multiple of the generator, one binary digit of the factor at a time. -/
def multiple (factor : Nat) : Scaled :=
  if factor ≤ 1 then
    { x := Point.generator.abscissa, y := Point.generator.ordinate, z := factor }
  else
    let doubled := (multiple (factor / 2)).double
    if factor % 2 = 1 then doubled.addGenerator else doubled
termination_by factor
decreasing_by omega

/-- What three numbers stand for, unless the last one is zero.  Once it is zero it stays
zero, so that only the result of a computation has to be looked at. -/
def Denotes (scaled : Scaled) (point : curve.Point) : Prop :=
  (scaled.z : ZMod fieldOrder) ≠ 0 →
    ∃ nonsingular,
      point =
        .some (scaled.x / scaled.z ^ 2 : ZMod fieldOrder)
          (scaled.y / scaled.z ^ 3 : ZMod fieldOrder) nonsingular

theorem Denotes.double
    {scaled : Scaled}
    {point : curve.Point}
    (denotes : scaled.Denotes point) :
    scaled.double.Denotes (point + point) := by
  intro nonzero
  have twiceX :
      (scaled.double.x : ZMod fieldOrder) =
        (3 * scaled.x ^ 2) ^ 2 - 8 * scaled.x * scaled.y ^ 2 := by
    simp only [Scaled.double, Field.cast_sub, Field.cast_mul, Nat.cast_ofNat]
    ring
  have twiceY :
      (scaled.double.y : ZMod fieldOrder) =
        3 * scaled.x ^ 2 * (4 * scaled.x * scaled.y ^ 2 - scaled.double.x) -
          8 * scaled.y ^ 4 := by
    simp only [Scaled.double, Field.cast_sub, Field.cast_mul, Nat.cast_ofNat]
    ring
  have twiceZ : (scaled.double.z : ZMod fieldOrder) = 2 * (scaled.y * scaled.z) := by
    simp only [Scaled.double, Field.cast_mul, Nat.cast_ofNat]
  rw [twiceZ] at nonzero
  have twoNonzero : (2 : ZMod fieldOrder) ≠ 0 := left_ne_zero_of_mul nonzero
  have yNonzero : (scaled.y : ZMod fieldOrder) ≠ 0 :=
    left_ne_zero_of_mul (right_ne_zero_of_mul nonzero)
  have zNonzero : (scaled.z : ZMod fieldOrder) ≠ 0 :=
    right_ne_zero_of_mul (right_ne_zero_of_mul nonzero)
  obtain ⟨nonsingular, rfl⟩ := denotes zNonzero
  have notOpposite :
      (scaled.y / scaled.z ^ 3 : ZMod fieldOrder) ≠ -(scaled.y / scaled.z ^ 3) := by
    intro opposite
    have twice : (2 : ZMod fieldOrder) * (scaled.y / scaled.z ^ 3) = 0 := by
      rw [two_mul]
      exact eq_neg_iff_add_eq_zero.mp opposite
    exact mul_ne_zero twoNonzero (div_ne_zero yNonzero (pow_ne_zero 3 zNonzero)) twice
  have tangent := slope_of_not_opposite (x := scaled.x / scaled.z ^ 2) notOpposite
  have thirdX :
      curve.addX (scaled.x / scaled.z ^ 2) (scaled.x / scaled.z ^ 2)
          (curve.slope (scaled.x / scaled.z ^ 2) (scaled.x / scaled.z ^ 2)
            (scaled.y / scaled.z ^ 3) (scaled.y / scaled.z ^ 3)) =
        (scaled.double.x / scaled.double.z ^ 2 : ZMod fieldOrder) := by
    rw [addX_curve, tangent, twiceX, twiceZ]
    field_simp
    ring
  have thirdY :
      curve.addY (scaled.x / scaled.z ^ 2) (scaled.x / scaled.z ^ 2)
          (scaled.y / scaled.z ^ 3)
          (curve.slope (scaled.x / scaled.z ^ 2) (scaled.x / scaled.z ^ 2)
            (scaled.y / scaled.z ^ 3) (scaled.y / scaled.z ^ 3)) =
        (scaled.double.y / scaled.double.z ^ 3 : ZMod fieldOrder) := by
    rw [addY_curve, thirdX, tangent, twiceY, twiceX, twiceZ]
    field_simp
    ring
  rw [← thirdX, ← thirdY]
  exact ⟨_, Point.add_self_of_Y_ne (by rwa [negY_curve])⟩

theorem Denotes.addGenerator
    {scaled : Scaled}
    {point : curve.Point}
    (denotes : scaled.Denotes point) :
    scaled.addGenerator.Denotes (point + Point.base) := by
  intro nonzero
  obtain ⟨run, runEq⟩ :
      ∃ run : ZMod fieldOrder,
        run = Point.generator.abscissa * scaled.z ^ 2 - scaled.x := ⟨_, rfl⟩
  obtain ⟨rise, riseEq⟩ :
      ∃ rise : ZMod fieldOrder,
        rise = Point.generator.ordinate * scaled.z ^ 3 - scaled.y := ⟨_, rfl⟩
  have sumX :
      (scaled.addGenerator.x : ZMod fieldOrder) =
        rise ^ 2 - run ^ 3 - 2 * scaled.x * run ^ 2 := by
    simp only [Scaled.addGenerator, Field.cast_sub, Field.cast_mul, Nat.cast_ofNat, runEq,
      riseEq]
    ring
  have sumY :
      (scaled.addGenerator.y : ZMod fieldOrder) =
        rise * (scaled.x * run ^ 2 - scaled.addGenerator.x) - scaled.y * run ^ 3 := by
    simp only [Scaled.addGenerator, Field.cast_sub, Field.cast_mul, Nat.cast_ofNat, runEq,
      riseEq]
    ring
  have sumZ : (scaled.addGenerator.z : ZMod fieldOrder) = scaled.z * run := by
    simp only [Scaled.addGenerator, Field.cast_sub, Field.cast_mul, runEq]
    ring
  rw [sumZ] at nonzero
  have zNonzero : (scaled.z : ZMod fieldOrder) ≠ 0 := left_ne_zero_of_mul nonzero
  have runNonzero : run ≠ 0 := right_ne_zero_of_mul nonzero
  obtain ⟨nonsingular, rfl⟩ := denotes zNonzero
  have baseX :
      (Point.generator.abscissa : ZMod fieldOrder) = (run + scaled.x) / scaled.z ^ 2 := by
    rw [runEq, sub_add_cancel, mul_div_cancel_right₀ _ (pow_ne_zero 2 zNonzero)]
  have baseY :
      (Point.generator.ordinate : ZMod fieldOrder) = (rise + scaled.y) / scaled.z ^ 3 := by
    rw [riseEq, sub_add_cancel, mul_div_cancel_right₀ _ (pow_ne_zero 3 zNonzero)]
  have apart : (scaled.x / scaled.z ^ 2 : ZMod fieldOrder) ≠ Point.generator.abscissa := by
    intro same
    apply runNonzero
    rw [runEq, ← same, div_mul_cancel₀ _ (pow_ne_zero 2 zNonzero), sub_self]
  have chord :
      curve.slope (scaled.x / scaled.z ^ 2) Point.generator.abscissa
          (scaled.y / scaled.z ^ 3) Point.generator.ordinate =
        rise / (scaled.z * run) := by
    rw [WeierstrassCurve.Affine.slope_of_X_ne apart, baseX, baseY, ← sub_div, ← sub_div,
      sub_add_cancel_right, sub_add_cancel_right]
    field_simp
  have thirdX :
      curve.addX (scaled.x / scaled.z ^ 2) Point.generator.abscissa
          (curve.slope (scaled.x / scaled.z ^ 2) Point.generator.abscissa
            (scaled.y / scaled.z ^ 3) Point.generator.ordinate) =
        (scaled.addGenerator.x / scaled.addGenerator.z ^ 2 : ZMod fieldOrder) := by
    rw [addX_curve, chord, baseX, sumX, sumZ]
    field_simp
    ring
  have thirdY :
      curve.addY (scaled.x / scaled.z ^ 2) Point.generator.abscissa
          (scaled.y / scaled.z ^ 3)
          (curve.slope (scaled.x / scaled.z ^ 2) Point.generator.abscissa
            (scaled.y / scaled.z ^ 3) Point.generator.ordinate) =
        (scaled.addGenerator.y / scaled.addGenerator.z ^ 3 : ZMod fieldOrder) := by
    rw [addY_curve, thirdX, chord, sumY, sumX, sumZ]
    field_simp
  rw [← thirdX, ← thirdY]
  exact ⟨_, Point.add_of_X_ne apart⟩

theorem denotes_multiple (factor : Nat) :
    (multiple factor).Denotes (factor • Point.base) := by
  induction factor using multiple.induct with
  | case1 factor small =>
      intro nonzero
      rw [multiple, if_pos small] at nonzero ⊢
      obtain rfl : factor = 1 := by
        by_contra notOne
        obtain rfl : factor = 0 := by omega
        exact nonzero Nat.cast_zero
      simp only [Nat.cast_one, one_pow, div_one, one_nsmul]
      exact ⟨curve.equation_iff_nonsingular.mp Point.equation_generator, rfl⟩
  | case2 factor large odd inductionHypothesis =>
      have whole : factor = 2 * (factor / 2) + 1 := by omega
      have sum : factor • Point.base =
          (factor / 2) • Point.base + (factor / 2) • Point.base + Point.base := by
        rw [← two_nsmul, ← mul_nsmul', ← succ_nsmul, ← whole]
      rw [multiple, if_neg large, if_pos odd, sum]
      exact inductionHypothesis.double.addGenerator
  | case3 factor large notOdd inductionHypothesis =>
      have whole : factor = 2 * (factor / 2) := by omega
      have sum : factor • Point.base =
          (factor / 2) • Point.base + (factor / 2) • Point.base := by
        rw [← two_nsmul, ← mul_nsmul', ← whole]
      rw [multiple, if_neg large, if_neg notOdd, sum]
      exact inductionHypothesis.double

/-- The coordinates of a point, with their denominators cleared. -/
def toPoint (scaled : Scaled) : Point :=
  let square := Field.mul scaled.z scaled.z
  .affine (Field.div scaled.x square) (Field.div scaled.y (Field.mul scaled.z square))

theorem Denotes.ofCurve_eq
    {scaled : Scaled}
    {point : curve.Point}
    (denotes : scaled.Denotes point)
    (nonzero : (scaled.z : ZMod fieldOrder) ≠ 0) :
    Point.ofCurve point = scaled.toPoint := by
  obtain ⟨nonsingular, rfl⟩ := denotes nonzero
  simp only [Point.ofCurve_some, toPoint, Field.div_eq_val, Field.cast_mul, pow_succ,
    pow_zero, one_mul, mul_assoc]

end Scaled

namespace Point

/-- A multiple of the generator, without division but at the end. -/
theorem multiply_generator
    {factor : Nat}
    (nonzero : (Scaled.multiple factor).z % fieldOrder ≠ 0) :
    multiply factor generator = (Scaled.multiple factor).toPoint := by
  rw [← ofCurve_base, multiply_ofCurve]
  apply (Scaled.denotes_multiple factor).ofCurve_eq
  intro isZero
  rw [ZMod.natCast_eq_zero_iff] at isZero
  exact nonzero (Nat.mod_eq_zero_of_dvd isZero)

/-- The order of the group takes the generator to the neutral element, as one multiple less
is the opposite of the generator. -/
theorem groupOrder_nsmul_base : groupOrder • base = 0 := by
  have nonzero : (Scaled.multiple (groupOrder - 1)).z % fieldOrder ≠ 0 := by
    decide +kernel
  have computed : multiply (groupOrder - 1) generator = generator.opposite := by
    rw [multiply_generator nonzero]
    decide +kernel
  rw [← ofCurve_base, multiply_ofCurve, opposite_ofCurve] at computed
  have previous : (groupOrder - 1) • base = -base := ofCurve_injective computed
  have whole : groupOrder = groupOrder - 1 + 1 := by decide
  rw [whole, succ_nsmul, previous, neg_add_cancel]

end Point

/-- The multiples of the generator, for residues modulo the order of the group. -/
def multiples : ZMod groupOrder →+ curve.Point :=
  ZMod.lift groupOrder ⟨zmultiplesHom curve.Point Point.base, by
    simpa using Point.groupOrder_nsmul_base⟩

theorem multiples_one : multiples 1 = Point.base := by
  have lifted : multiples ((1 : Int) : ZMod groupOrder) = (1 : Int) • Point.base :=
    ZMod.lift_coe groupOrder _ 1
  rwa [Int.cast_one, one_zsmul] at lifted

theorem multiples_natCast (factor : Nat) :
    multiples (factor : ZMod groupOrder) = factor • Point.base := by
  rw [← multiples_one, ← map_nsmul, nsmul_one]

/-- Multiplying the generator gives the multiple, written down. -/
theorem multiply_generator_eq (factor : Nat) :
    Point.multiply factor .generator = .ofCurve (multiples factor) := by
  rw [← Point.ofCurve_base, Point.multiply_ofCurve, multiples_natCast]

/-- A multiple of a multiple is the multiple of the product. -/
theorem nsmul_multiples (factor : Nat) (residue : ZMod groupOrder) :
    factor • multiples residue = multiples (factor * residue) := by
  rw [← map_nsmul, nsmul_eq_mul]

/-- Only the zero multiple is the neutral element. -/
theorem multiples_injective : Function.Injective multiples := by
  rw [injective_iff_map_eq_zero]
  intro residue isZero
  by_contra nonzero
  have one : multiples 1 = 0 := by
    rw [← inv_mul_cancel₀ nonzero, ← ZMod.natCast_zmod_val residue⁻¹, ← nsmul_multiples,
      isZero, nsmul_zero]
  exact Point.some_ne_zero _ (multiples_one.symm.trans one)

end OrderCustody.Secp256k1
