import OrderCustody.Address
import OrderCustody.Text.Blank

namespace OrderCustody.KeySource

/-!
# Key text

Key files and environment variables hold a key as hexadecimal text, with blanks
around it and one `0x` in front tolerated.
-/

/-- Why a text holds no key. -/
inductive TextFault where
  | notHex
  | empty
  deriving DecidableEq, Repr

/-- The key that a text spells, with blanks around it and a mark in front or without. -/
def readKey (text : String) : Except TextFault Bytes :=
  let trimmed := Text.trim text.toList
  let digits := (Address.unmarked? trimmed).getD trimmed
  if digits.isEmpty then .error .empty
  else
    match Hex.bytes? digits with
    | some key => .ok key
    | none => .error .notHex

end OrderCustody.KeySource
