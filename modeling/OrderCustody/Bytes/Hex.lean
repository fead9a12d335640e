import OrderCustody.Bytes.Basic

namespace OrderCustody.Hex

/-!
# Hexadecimal text

Bytes are written with two lowercase digits each and read with digits of
either case.  Reading what was written gives the bytes back.
-/

/-- The lowercase digit of a number below sixteen. -/
def digit (value : Nat) : Char :=
  if value < 10 then Char.ofNat (48 + value) else Char.ofNat (87 + value)

/-- The value of a hexadecimal digit of either case. -/
def value? (c : Char) : Option Nat :=
  if '0' ≤ c ∧ c ≤ '9' then some (c.toNat - 48)
  else if 'a' ≤ c ∧ c ≤ 'f' then some (c.toNat - 87)
  else if 'A' ≤ c ∧ c ≤ 'F' then some (c.toNat - 55)
  else none

/-- The two digits of each byte, high digit first. -/
def digits : Bytes → List Char
  | [] => []
  | byte :: rest =>
      digit (byte.toNat / 16) :: digit (byte.toNat % 16) :: digits rest

/-- Lowercase text without a mark in front. -/
def encode (bytes : Bytes) : String :=
  String.ofList (digits bytes)

/-- Lowercase text behind `0x`. -/
def marked (bytes : Bytes) : String :=
  "0x" ++ encode bytes

/-- Bytes of an even run of digits; nothing for any other text. -/
def bytes? : List Char → Option Bytes
  | [] => some []
  | high :: low :: rest => do
      let highValue ← value? high
      let lowValue ← value? low
      let others ← bytes? rest
      return UInt8.ofNat (16 * highValue + lowValue) :: others
  | [_] => none

/-- A digit reads as the number it stands for. -/
theorem value?_digit {value : Nat} (small : value < 16) :
    value? (digit value) = some value := by
  have every : ∀ n : Fin 16, value? (digit n) = some n.val := by decide
  exact every ⟨value, small⟩

@[simp] theorem length_digits (bytes : Bytes) :
    (digits bytes).length = 2 * bytes.length := by
  induction bytes with
  | nil => rfl
  | cons byte rest inductionHypothesis =>
      simp only [digits, List.length_cons, inductionHypothesis]
      omega

theorem bytes?_digits (bytes : Bytes) :
    bytes? (digits bytes) = some bytes := by
  induction bytes with
  | nil => rfl
  | cons byte rest inductionHypothesis =>
      have bound := byte.toNat_lt
      have high : value? (digit (byte.toNat / 16)) = some (byte.toNat / 16) :=
        value?_digit (by omega)
      have low : value? (digit (byte.toNat % 16)) = some (byte.toNat % 16) :=
        value?_digit (by omega)
      have whole : 16 * (byte.toNat / 16) + byte.toNat % 16 = byte.toNat := by
        omega
      simp only [digits, bytes?, high, low, inductionHypothesis,
        Option.bind_eq_bind, Option.bind_some, whole, UInt8.ofNat_toNat,
        Option.pure_def]

end OrderCustody.Hex
