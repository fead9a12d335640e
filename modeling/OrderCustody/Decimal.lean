namespace OrderCustody.Decimal

/-!
# Decimal text

Amounts travel as decimal text of any length: ASCII digits only, with no sign,
point, space or separator.  Leading zeros are allowed when reading and never
written.
-/

/-- Whether a character is an ASCII digit. -/
def isDigit (c : Char) : Bool :=
  '0' ≤ c && c ≤ '9'

/-- The number that decimal digits spell. -/
def value (digits : List Char) : Nat :=
  digits.foldl (fun accumulated c => 10 * accumulated + (c.toNat - 48)) 0

/-- The number a text of at least one digit and nothing else denotes. -/
def parse? (text : String) : Option Nat :=
  let characters := text.toList
  if characters.isEmpty || !characters.all isDigit then none
  else some (value characters)

/-- The number of binary digits; zero has none. -/
def bitLength (number : Nat) : Nat :=
  if number = 0 then 0 else Nat.log2 number + 1

/-- A number in decimal digits, without zeros in front. -/
def text (number : Nat) : String :=
  toString number

end OrderCustody.Decimal
