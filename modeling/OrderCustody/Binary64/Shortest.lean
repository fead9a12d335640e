import OrderCustody.Binary64.Basic

namespace OrderCustody.Binary64

/-!
# Shortest decimal text of a magnitude

The fewest decimal digits that read back as the magnitude, and of those the
nearest to it.  The text is positional for exponents near zero and scientific
beyond, and always has a point or an exponent.
-/

/-- Decimal digits and an exponent: `digits * 10 ^ exponent`. -/
structure Digits where
  digits : Nat
  exponent : Int
  deriving DecidableEq, Repr

/-- A fraction compared with `digits * 10 ^ exponent`. -/
def compareDecimal (top bottom digits : Nat) (exponent : Int) : Ordering :=
  if 0 ≤ exponent then
    compare top (digits * Nat.pow 10 exponent.toNat * bottom)
  else
    compare (top * Nat.pow 10 (-exponent).toNat) (digits * bottom)

/-- Whether a decimal lies among the reals that round to a magnitude: within
half a step on either side, the ends included for an even mantissa. -/
def readsBack (magnitude : Binary64) (decimal : Digits) : Bool :=
  let (top, bottom) := magnitude.fraction
  let m := magnitude.mantissa
  let (upperTop, lowerTop, scale) :=
    if m = Nat.pow 2 52 ∧ leastExponent < magnitude.exponent then
      (4 * m + 2, 4 * m - 1, 4 * m)
    else
      (2 * m + 1, 2 * m - 1, 2 * m)
  let upper :=
    compareDecimal (top * upperTop) (bottom * scale)
      decimal.digits decimal.exponent
  let lower :=
    compareDecimal (top * lowerTop) (bottom * scale)
      decimal.digits decimal.exponent
  if m % 2 = 0 then upper != .lt && lower != .gt
  else upper == .gt && lower == .lt

/-- The least exponent at which a power of ten exceeds a fraction that is not
zero, found from an estimate by its binary length. -/
def decimalPoint (top bottom : Nat) : Int :=
  let binary : Int := (Nat.log2 top : Int) - Nat.log2 bottom
  let estimate : Int := binary * 30103 / 100000 - 1
  let rec climb : Nat → Int → Int
    | 0, exponent => exponent
    | steps + 1, exponent =>
        if compareDecimal top bottom 1 exponent == .lt then exponent
        else climb steps (exponent + 1)
  climb 5 estimate

/-- The nearer of the two neighbours of a magnitude on a decimal grid that
reads back, the even one if both are equally near. -/
def onGrid? (magnitude : Binary64) (exponent : Int) : Option Digits :=
  let (top, bottom) := magnitude.fraction
  let (gridTop, gridBottom) :=
    if 0 ≤ exponent then (top, bottom * Nat.pow 10 exponent.toNat)
    else (top * Nat.pow 10 (-exponent).toNat, bottom)
  let below : Digits := ⟨gridTop / gridBottom, exponent⟩
  let above : Digits := ⟨gridTop / gridBottom + 1, exponent⟩
  let doubled := 2 * (gridTop % gridBottom)
  let belowFirst :=
    decide (doubled < gridBottom) ||
      (decide (doubled = gridBottom) && below.digits % 2 == 0)
  let ordered := if belowFirst then [below, above] else [above, below]
  ordered.find? (readsBack magnitude)

/-- The same decimal without trailing zeros, of which at most `count` are
removed. -/
def Digits.trim : (count : Nat) → Digits → Digits
  | 0, decimal => decimal
  | count + 1, decimal =>
      if decimal.digits % 10 = 0 ∧ decimal.digits ≠ 0 then
        trim count ⟨decimal.digits / 10, decimal.exponent + 1⟩
      else decimal

/-- The fewest digits that lead back to a magnitude; seventeen are always enough. -/
def shortest (magnitude : Binary64) : Digits :=
  let (top, bottom) := magnitude.fraction
  let point := decimalPoint top bottom
  let found := (List.range 17).findSome? fun count =>
    onGrid? magnitude (point - (count + 1 : Nat))
  (found.getD ⟨0, 0⟩).trim 17

/-- The decimal text: positional with a point when the leading digit stands
between ten thousandths and ten to the fifteenth, scientific otherwise. -/
def text (magnitude : Binary64) : String :=
  if magnitude.mantissa = 0 then "0.0"
  else
    let decimal := magnitude.shortest
    let digits := toString decimal.digits
    let length := digits.length
    let point : Int := length + decimal.exponent
    if 0 ≤ decimal.exponent ∧ point ≤ 16 then
      digits ++ String.ofList (List.replicate decimal.exponent.toNat '0') ++ ".0"
    else if 0 < point ∧ point ≤ 16 then
      String.ofList (digits.toList.take point.toNat) ++ "." ++
        String.ofList (digits.toList.drop point.toNat)
    else if -5 < point ∧ point ≤ 0 then
      "0." ++ String.ofList (List.replicate (-point).toNat '0') ++ digits
    else
      let tail := String.ofList (digits.toList.drop 1)
      String.ofList (digits.toList.take 1) ++
        (if length = 1 then "" else "." ++ tail) ++ "e" ++ toString (point - 1)

end OrderCustody.Binary64
