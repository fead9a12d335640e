namespace OrderCustody.Secp256k1

/-!
# The group of secp256k1

Points of `y² = x³ + 7` over the prime field of order `2²⁵⁶ - 2³² - 977`, in
affine coordinates below that order, with chord-and-tangent addition and
double-and-add multiplication.
-/

/-- The order of the coordinate field. -/
def fieldOrder : Nat :=
  0xfffffffffffffffffffffffffffffffffffffffffffffffffffffffefffffc2f

/-- The order of the group of points. -/
def groupOrder : Nat :=
  0xfffffffffffffffffffffffffffffffebaaedce6af48a03bbfd25e8cd0364141

/--
The coefficient of the second number in a combination of both that equals
their greatest common divisor, by Euclid's algorithm; `older` and `newer` are
the coefficients of the two remainders at hand.
-/
def bezout (first second : Nat) (older newer : Int) : Int :=
  if second = 0 then older
  else
    bezout second (first % second) newer
      (older - ((first / second : Nat) : Int) * newer)
termination_by second
decreasing_by exact Nat.mod_lt _ (by omega)

/-- The inverse of a number prime to the modulus. -/
def inverse (modulus value : Nat) : Nat :=
  (bezout modulus (value % modulus) 0 1 % (modulus : Int)).toNat

namespace Field

/-- Sum in the coordinate field. -/
def add (left right : Nat) : Nat :=
  (left + right) % fieldOrder

/-- Difference in the coordinate field. -/
def sub (left right : Nat) : Nat :=
  (left + (fieldOrder - right % fieldOrder)) % fieldOrder

/-- Product in the coordinate field. -/
def mul (left right : Nat) : Nat :=
  left * right % fieldOrder

/-- Quotient in the coordinate field. -/
def div (left right : Nat) : Nat :=
  mul left (inverse fieldOrder right)

end Field

/-- A point of the curve in affine coordinates, or the neutral element. -/
inductive Point where
  | infinity
  | affine (x y : Nat)
  deriving DecidableEq, Repr

namespace Point

/-- The third point on the line of the given slope through a point of abscissa
`x₁` and ordinate `y₁` and one of abscissa `x₂`, reflected. -/
def onLine (slope x₁ y₁ x₂ : Nat) : Point :=
  let x₃ := Field.sub (Field.sub (Field.mul slope slope) x₁) x₂
  affine x₃ (Field.sub (Field.mul slope (Field.sub x₁ x₃)) y₁)

/-- The group operation. -/
def add : Point → Point → Point
  | infinity, right => right
  | left, infinity => left
  | affine x₁ y₁, affine x₂ y₂ =>
      if x₁ = x₂ then
        if Field.add y₁ y₂ = 0 then infinity
        else
          onLine (Field.div (3 * x₁ * x₁) (2 * y₁)) x₁ y₁ x₂
      else
        onLine (Field.div (Field.sub y₂ y₁) (Field.sub x₂ x₁)) x₁ y₁ x₂

/-- The multiple of a point, one binary digit of the factor at a time. -/
def multiply (factor : Nat) (point : Point) : Point :=
  if factor = 0 then infinity
  else
    let doubled := multiply (factor / 2) (add point point)
    if factor % 2 = 1 then add point doubled else doubled
termination_by factor
decreasing_by omega

/-- The generator of the group. -/
def generator : Point :=
  affine
    0x79be667ef9dcbbac55a06295ce870b07029bfcdb2dce28d959f2815b16f81798
    0x483ada7726a3c4655da4fbfc0e1108a8fd17b448a68554199c47d08ffb10d4b8

end Point

end OrderCustody.Secp256k1
