import Mathlib.NumberTheory.LucasPrimality
import OrderCustody.Secp256k1.Group

namespace OrderCustody.Secp256k1

/-!
# Both orders are prime

The order of the coordinate field and the order of the group are primes.  A number
is prime when some residue has an order one below it, and that is checked on the
prime factors of the predecessor.  The certificates below name for each number such
a residue and such factors; a factor is either small enough to be tried directly or
certified by an earlier entry of the list.
-/

/-- A power modulo a number, by squaring. -/
def power (modulus base exponent : Nat) : Nat :=
  if exponent = 0 then 1 % modulus
  else
    let squared := power modulus (base * base % modulus) (exponent / 2)
    if exponent % 2 = 1 then base * squared % modulus else squared
termination_by exponent
decreasing_by omega

/-- Squaring gives the power. -/
theorem cast_power (modulus base exponent : Nat) :
    (power modulus base exponent : ZMod modulus) = (base : ZMod modulus) ^ exponent := by
  induction base, exponent using power.induct modulus with
  | case1 base =>
      rw [power, if_pos rfl, ZMod.natCast_mod, Nat.cast_one, pow_zero]
  | case2 base exponent nonzero odd inductionHypothesis =>
      have whole : exponent = 2 * (exponent / 2) + 1 := by omega
      rw [power, if_neg nonzero, if_pos odd, ZMod.natCast_mod, Nat.cast_mul,
        inductionHypothesis, ZMod.natCast_mod, Nat.cast_mul, ← pow_two, ← pow_mul,
        ← pow_succ', ← whole]
  | case3 base exponent nonzero notOdd inductionHypothesis =>
      have whole : exponent = 2 * (exponent / 2) := by omega
      rw [power, if_neg nonzero, if_neg notOdd, inductionHypothesis, ZMod.natCast_mod,
        Nat.cast_mul, ← pow_two, ← pow_mul, ← whole]

theorem power_lt
    {modulus : Nat}
    (positive : 0 < modulus)
    (base exponent : Nat) :
    power modulus base exponent < modulus := by
  induction base, exponent using power.induct modulus with
  | case1 base =>
      rw [power, if_pos rfl]
      exact Nat.mod_lt _ positive
  | case2 base exponent nonzero odd inductionHypothesis =>
      rw [power, if_neg nonzero, if_pos odd]
      exact Nat.mod_lt _ positive
  | case3 base exponent nonzero notOdd inductionHypothesis =>
      rw [power, if_neg nonzero, if_neg notOdd]
      exact inductionHypothesis

/-- Whether a power is one can be told from the residue that squaring gives. -/
theorem power_eq_one_iff
    {modulus : Nat}
    (large : 1 < modulus)
    (base exponent : Nat) :
    power modulus base exponent = 1 ↔ (base : ZMod modulus) ^ exponent = 1 := by
  have bounded : power modulus base exponent < modulus := power_lt (by omega) base exponent
  have reduced :=
    ZMod.natCast_eq_natCast_iff' (power modulus base exponent) 1 modulus
  rw [Nat.mod_eq_of_lt bounded, Nat.mod_eq_of_lt large, cast_power, Nat.cast_one] at reduced
  exact reduced.symm

/-- What shows that a number is prime: a residue, and the prime factors of the
predecessor, each as often as it divides it. -/
structure Certificate where
  candidate : Nat
  base : Nat
  factors : List Nat

namespace Certificate

/-- Whether a certificate shows its candidate to be prime, given numbers that are known
to be. -/
def shows (known : List Nat) (certificate : Certificate) : Bool :=
  let predecessor := certificate.candidate - 1
  let cycle (length : Nat) : Nat := power certificate.candidate certificate.base length
  decide (1 < certificate.candidate) &&
    certificate.factors.prod == predecessor &&
    cycle predecessor == 1 &&
    certificate.factors.all fun factor =>
      (known.contains factor || decide (2 ≤ factor ∧ factor.minFac = factor)) &&
        cycle (predecessor / factor) != 1

theorem prime_of_shows
    {known : List Nat}
    {certificate : Certificate}
    (primes : ∀ number ∈ known, number.Prime)
    (shown : certificate.shows known = true) :
    certificate.candidate.Prime := by
  simp only [shows, Bool.and_eq_true, Bool.or_eq_true, decide_eq_true_eq, beq_iff_eq,
    bne_iff_ne, List.all_eq_true, List.contains_iff_mem] at shown
  obtain ⟨⟨⟨large, product⟩, whole⟩, parts⟩ := shown
  apply lucas_primality certificate.candidate (certificate.base : ZMod certificate.candidate)
  · exact (power_eq_one_iff large _ _).mp whole
  · intro divisor divisorPrime divides
    rw [← product] at divides
    obtain ⟨factor, member, divisorDivides⟩ :=
      (Prime.dvd_prod_iff divisorPrime.prime).mp divides
    obtain ⟨listed, different⟩ := parts factor member
    have factorPrime : factor.Prime := by
      rcases listed with mem | small
      · exact primes factor mem
      · exact Nat.prime_def_minFac.mpr small
    have same : divisor = factor :=
      (Nat.prime_dvd_prime_iff_eq divisorPrime factorPrime).mp divisorDivides
    subst same
    exact fun isOne => different ((power_eq_one_iff large _ _).mpr isOne)

/-- Whether every certificate of a list shows its candidate to be prime, given the
candidates before it. -/
def allShow (known : List Nat) : List Certificate → Bool
  | [] => true
  | certificate :: certificates =>
      certificate.shows known && allShow (certificate.candidate :: known) certificates

theorem prime_of_allShow
    {known : List Nat}
    {certificates : List Certificate}
    (primes : ∀ number ∈ known, number.Prime)
    (shown : allShow known certificates = true) :
    ∀ certificate ∈ certificates, certificate.candidate.Prime := by
  induction certificates generalizing known with
  | nil => exact nofun
  | cons first rest inductionHypothesis =>
      simp only [allShow, Bool.and_eq_true] at shown
      have firstPrime : first.candidate.Prime := prime_of_shows primes shown.1
      have knownPrime : ∀ number ∈ first.candidate :: known, number.Prime := by
        intro number member
        rcases List.mem_cons.mp member with rfl | earlier
        · exact firstPrime
        · exact primes number earlier
      intro certificate member
      rcases List.mem_cons.mp member with rfl | later
      · exact firstPrime
      · exact inductionHypothesis knownPrime shown.2 certificate later

/-- The certificate of the order of the coordinate field. -/
def ofField : Certificate where
  candidate := fieldOrder
  base := 3
  factors := [2, 3, 7, 13441,
    205115282021455665897114700593932402728804164701536103180137503955397371]

/-- The certificate of the order of the group. -/
def ofGroup : Certificate where
  candidate := groupOrder
  base := 7
  factors := [2, 2, 2, 2, 2, 2, 3, 149, 631, 107361793816595537, 174723607534414371449,
    341948486974166000522343609283189]

/-- The certificates of both orders, behind those of the factors they rest on. -/
def chain : List Certificate := [
  ⟨13331831, 13, [2, 5, 971, 1373]⟩,
  ⟨173378833005251801, 6, [2, 2, 2, 5, 5, 2621, 24809, 13331831]⟩,
  ⟨22149492674086928081353, 5, [2, 2, 2, 3, 5323, 173378833005251801]⟩,
  ⟨132896956044521568488119, 6, [2, 3, 22149492674086928081353]⟩,
  ⟨7240687, 3, [2, 3, 1206781]⟩,
  ⟨107590001, 3, [2, 2, 2, 2, 5, 5, 5, 5, 7, 29, 53]⟩,
  ⟨255515944373312847190720520512484175977, 3,
    [2, 2, 2, 7, 7, 11, 1627, 2657, 4423, 41201, 96557, 7240687, 107590001]⟩,
  ⟨205115282021455665897114700593932402728804164701536103180137503955397371, 10,
    [2, 3, 5, 29, 29, 31, 7723, 132896956044521568488119,
      255515944373312847190720520512484175977]⟩,
  ofField,
  ⟨4681609, 23, [2, 2, 2, 3, 97, 2011]⟩,
  ⟨107361793816595537, 3, [2, 2, 2, 2, 16699, 85831, 4681609]⟩,
  ⟨44706919, 6, [2, 3, 797, 9349]⟩,
  ⟨174723607534414371449, 3, [2, 2, 2, 17, 59, 4051, 120233, 44706919]⟩,
  ⟨545358713, 5, [2, 2, 2, 41, 59, 28181]⟩,
  ⟨297159362677, 2, [2, 2, 3, 3, 11, 461, 1627771]⟩,
  ⟨29047611873442575647497758179, 2, [2, 293, 305873, 545358713, 297159362677]⟩,
  ⟨341948486974166000522343609283189, 2,
    [2, 2, 3, 3, 3, 109, 29047611873442575647497758179]⟩,
  ofGroup
]

theorem allShow_chain : allShow [] chain = true := by
  decide +kernel

end Certificate

open Certificate in
/-- The order of the coordinate field is prime. -/
theorem prime_fieldOrder : fieldOrder.Prime :=
  prime_of_allShow (by simp) allShow_chain ofField (by simp [chain])

open Certificate in
/-- The order of the group is prime. -/
theorem prime_groupOrder : groupOrder.Prime :=
  prime_of_allShow (by simp) allShow_chain ofGroup (by simp [chain])

instance : Fact fieldOrder.Prime := ⟨prime_fieldOrder⟩

instance : Fact groupOrder.Prime := ⟨prime_groupOrder⟩

end OrderCustody.Secp256k1
