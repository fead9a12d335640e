namespace OrderCustody

/-!
# Double-precision magnitudes

Finite magnitudes with fifty-three binary digits, computed exactly on natural
numbers: a quotient of integers is rounded to the nearest magnitude, to the
even one of two equally near.  Products and quotients of magnitudes are rounded
the same way.
-/

/-- The magnitude `mantissa * 2 ^ exponent`, with a mantissa below `2 ^ 53` and
as large as the least exponent `-1074` lets it be. -/
structure Binary64 where
  mantissa : Nat
  exponent : Int
  deriving DecidableEq, Repr

namespace Binary64

/-- Zero, with the exponent of the smallest numbers. -/
def zero : Binary64 where
  mantissa := 0
  exponent := -1074

/-- The least exponent. -/
def leastExponent : Int := -1074

/-- The exponent of the largest numbers. -/
def greatestExponent : Int := 971

/-- Numerator and denominator of `value / 2 ^ exponent` for a fraction. -/
def scaled (numerator denominator : Nat) (exponent : Int) : Nat × Nat :=
  if 0 ≤ exponent then
    (numerator, denominator * Nat.pow 2 exponent.toNat)
  else
    (numerator * Nat.pow 2 (-exponent).toNat, denominator)

/-- The nearest natural number to a fraction, even if two are equally near. -/
def nearest (numerator denominator : Nat) : Nat :=
  let quotient := numerator / denominator
  let doubled := 2 * (numerator % denominator)
  if doubled < denominator then quotient
  else if denominator < doubled then quotient + 1
  else quotient + quotient % 2

/-- The magnitude nearest to a fraction, unless it is too large. -/
def round? (numerator denominator : Nat) : Option Binary64 :=
  if numerator = 0 then some zero
  else
    let digits : Int := (Nat.log2 numerator : Int) - Nat.log2 denominator
    let candidate := max leastExponent (digits - 53)
    let (top, bottom) := scaled numerator denominator candidate
    let exponent :=
      if Nat.pow 2 53 ≤ top / bottom then candidate + 1 else candidate
    let (top, bottom) := scaled numerator denominator exponent
    let mantissa := nearest top bottom
    let rounded : Binary64 :=
      if mantissa = Nat.pow 2 53 then ⟨Nat.pow 2 52, exponent + 1⟩ else ⟨mantissa, exponent⟩
    if greatestExponent < rounded.exponent then none else some rounded

/-- A magnitude as a fraction. -/
def fraction (magnitude : Binary64) : Nat × Nat :=
  if 0 ≤ magnitude.exponent then
    (magnitude.mantissa * Nat.pow 2 magnitude.exponent.toNat, 1)
  else
    (magnitude.mantissa, Nat.pow 2 (-magnitude.exponent).toNat)

/-- The rounded product, unless it is too large. -/
def mul? (left right : Binary64) : Option Binary64 :=
  let (leftTop, leftBottom) := left.fraction
  let (rightTop, rightBottom) := right.fraction
  round? (leftTop * rightTop) (leftBottom * rightBottom)

/-- The rounded quotient by a magnitude that is not zero, unless it is too
large. -/
def div? (left right : Binary64) : Option Binary64 :=
  let (leftTop, leftBottom) := left.fraction
  let (rightTop, rightBottom) := right.fraction
  round? (leftTop * rightBottom) (leftBottom * rightTop)

/-- A decimal significand and exponent as a magnitude: the significand and the
power of ten are rounded first, then their product or quotient.  A positive
exponent beyond the largest power of ten is out of range unless the significand
is zero; a negative one is taken in steps of that power. -/
def ofDecimal? (significand : Nat) (exponent : Int) : Option Binary64 := do
  let start ← round? significand 1
  if 0 ≤ exponent then
    if exponent ≤ 308 then
      mul? start (← round? (Nat.pow 10 exponent.toNat) 1)
    else if start.mantissa = 0 then
      some start
    else
      none
  else
    let rec lower : Nat → Nat → Binary64 → Option Binary64
      | 0, _, current => some current
      | steps + 1, power, current => do
          if power ≤ 308 then
            div? current (← round? (Nat.pow 10 power) 1)
          else if current.mantissa = 0 then
            some current
          else
            lower steps (power - 308) (← div? current (← round? (Nat.pow 10 308) 1))
    let power := exponent.natAbs
    lower (power / 308 + 1) power start

end Binary64

end OrderCustody
