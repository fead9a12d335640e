import OrderCustody.Address
import OrderCustody.Decimal
import OrderCustody.Text.Quoted

namespace OrderCustody

/-!
# Fields of a request

Strict reading of the texts a request carries.  Whatever is wrong is blamed on
the field it was found in.
-/

/-- Why a field is refused. -/
inductive FieldFault where
  /-- The text is no decimal number. -/
  | notDecimal (field value : String)
  /-- The number needs more than 256 bits. -/
  | tooWide (field : String)
  /-- The text of an address does not start with `0x`. -/
  | unmarked (field : String)
  /-- What follows the mark is no hexadecimal text. -/
  | notAddress (field value : String)
  /-- The bytes are not twenty. -/
  | wrongSize (field : String)
  /-- The signature type is none of the known ones. -/
  | signatureType (value : UInt8)
  deriving DecidableEq, Repr

namespace FieldFault

/-- The field that a fault is about. -/
def field : FieldFault → String
  | notDecimal field _ => field
  | tooWide field => field
  | unmarked field => field
  | notAddress field _ => field
  | wrongSize field => field
  | signatureType _ => "signatureType"

/-- The text of a fault. -/
def message : FieldFault → String
  | notDecimal field value => "invalid " ++ field ++ ": " ++ Text.quoted value
  | tooWide field => field ++ " does not fit in uint256"
  | unmarked field => "invalid " ++ field ++ ": missing 0x prefix"
  | notAddress field value => "invalid " ++ field ++ ": " ++ Text.quoted value
  | wrongSize field => "invalid " ++ field ++ ": expected 20 bytes"
  | signatureType value => "invalid signatureType: " ++ toString value.toNat

end FieldFault

namespace Field

/-- The number of a field, without any bound. -/
def decimal (field value : String) : Except FieldFault Nat :=
  match Decimal.parse? value with
  | some number => .ok number
  | none => .error (.notDecimal field value)

/-- The number of a field that has at most 256 bits. -/
def uint256 (field value : String) : Except FieldFault Nat := do
  let number ← decimal field value
  if 256 < Decimal.bitLength number then throw (.tooWide field)
  return number

/-- A decimal number of at most 256 bits, or zero when absent. -/
def optionalUint256 (field : String) : Option String → Except FieldFault Nat
  | some value => uint256 field value
  | none => .ok 0

/-- The address of a field: a mark and forty hexadecimal digits of either case. -/
def address (field value : String) : Except FieldFault Address :=
  match Address.unmarked? value.toList with
  | none => .error (.unmarked field)
  | some digits =>
      match Hex.bytes? digits with
      | none => .error (.notAddress field value)
      | some bytes =>
          match Octets.ofBytes? 20 bytes with
          | none => .error (.wrongSize field)
          | some parsed => .ok parsed

/-- An address, or the zero address when absent. -/
def optionalAddress (field : String) : Option String → Except FieldFault Address
  | some value => address field value
  | none => .ok (Octets.zero 20)

end Field

end OrderCustody
