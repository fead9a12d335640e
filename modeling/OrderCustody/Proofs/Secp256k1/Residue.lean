import OrderCustody.Proofs.Secp256k1.Primality

namespace OrderCustody.Secp256k1

/-!
# Residues

Numbers stand for residues modulo a prime.  Euclid's algorithm gives the inverse of a
residue, and the operations of the coordinate field are those of the residues modulo
its order, each with its result below that order.
-/

/-- Euclid's algorithm keeps a combination of both numbers that equals the remainder at
hand, so that it ends with one that equals their greatest common divisor. -/
theorem bezout_mul
    {modulus value : Nat}
    {first second : Nat}
    {older newer : Int}
    (firstCombined : (older : ZMod modulus) * value = first)
    (secondCombined : (newer : ZMod modulus) * value = second) :
    (bezout first second older newer : ZMod modulus) * value = Nat.gcd first second := by
  induction first, second, older, newer using bezout.induct with
  | case1 first older newer =>
      rw [bezout, if_pos rfl, firstCombined, Nat.gcd_zero_right]
  | case2 first second older newer nonzero inductionHypothesis =>
      have remainder :
          ((first % second : Nat) : ZMod modulus) =
            first - (first / second : Nat) * second := by
        rw [eq_sub_iff_add_eq, ← Nat.cast_mul, ← Nat.cast_add, Nat.mod_add_div']
      have nextCombined :
          ((older - ((first / second : Nat) : Int) * newer : Int) : ZMod modulus) * value =
            (first % second : Nat) := by
        rw [Int.cast_sub, Int.cast_mul, Int.cast_natCast, sub_mul, mul_assoc, firstCombined,
          secondCombined, remainder]
      rw [bezout, if_neg nonzero, inductionHypothesis secondCombined nextCombined,
        Nat.gcd_comm second, ← Nat.gcd_rec, Nat.gcd_comm]

/-- The inverse of a number is the inverse of its residue; zero goes to zero. -/
theorem cast_inverse (modulus value : Nat) [prime : Fact modulus.Prime] :
    (inverse modulus value : ZMod modulus) = (value : ZMod modulus)⁻¹ := by
  have positive : (0 : Int) < modulus := by exact_mod_cast prime.out.pos
  have reduced :
      (inverse modulus value : ZMod modulus) =
        (bezout modulus (value % modulus) 0 1 : ZMod modulus) := by
    have nonnegative : 0 ≤ bezout modulus (value % modulus) 0 1 % (modulus : Int) :=
      Int.emod_nonneg _ positive.ne'
    rw [inverse, ← Int.cast_natCast, Int.toNat_of_nonneg nonnegative, ZMod.intCast_mod]
  have combined :
      (bezout modulus (value % modulus) 0 1 : ZMod modulus) * value =
        Nat.gcd modulus (value % modulus) :=
    bezout_mul (by simp) (by simp)
  rw [reduced]
  by_cases divides : modulus ∣ value
  · have isZero : value % modulus = 0 := Nat.mod_eq_zero_of_dvd divides
    have castZero : (value : ZMod modulus) = 0 :=
      (ZMod.natCast_eq_zero_iff value modulus).mpr divides
    rw [isZero, bezout, if_pos rfl, castZero, inv_zero, Int.cast_zero]
  · have coprime : Nat.gcd modulus (value % modulus) = 1 := by
      rw [Nat.gcd_comm, ← Nat.gcd_rec]
      exact (Nat.Prime.coprime_iff_not_dvd prime.out).mpr divides
    rw [coprime, Nat.cast_one] at combined
    exact eq_inv_of_mul_eq_one_left combined

namespace Field

@[simp] theorem add_eq_val (left right : Nat) :
    add left right = (left + right : ZMod fieldOrder).val := by
  rw [← Nat.cast_add, ZMod.val_natCast, add]

@[simp] theorem sub_eq_val (left right : Nat) :
    sub left right = (left - right : ZMod fieldOrder).val := by
  have bounded : right % fieldOrder ≤ fieldOrder :=
    (Nat.mod_lt right prime_fieldOrder.pos).le
  have difference :
      ((left + (fieldOrder - right % fieldOrder) : Nat) : ZMod fieldOrder) =
        left - right := by
    rw [Nat.cast_add, Nat.cast_sub bounded, ZMod.natCast_mod, ZMod.natCast_self, zero_sub,
      sub_eq_add_neg]
  rw [← difference, ZMod.val_natCast, sub]

@[simp] theorem mul_eq_val (left right : Nat) :
    mul left right = (left * right : ZMod fieldOrder).val := by
  rw [← Nat.cast_mul, ZMod.val_natCast, mul]

@[simp] theorem div_eq_val (left right : Nat) :
    div left right = (left / right : ZMod fieldOrder).val := by
  rw [div, mul_eq_val, cast_inverse, div_eq_mul_inv]

theorem cast_sub (left right : Nat) :
    (sub left right : ZMod fieldOrder) = left - right := by
  simp

theorem cast_mul (left right : Nat) :
    (mul left right : ZMod fieldOrder) = left * right := by
  simp

end Field

end OrderCustody.Secp256k1
