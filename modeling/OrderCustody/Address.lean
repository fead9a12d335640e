import OrderCustody.Bytes.Hex
import OrderCustody.Hash.Keccak

namespace OrderCustody

/-!
# Account addresses

Twenty bytes, written in hexadecimal with a checksum hidden in the case of the
letters: a letter is upper case when the hexadecimal digit of the same place in
the Keccak-256 digest of the lowercase text is eight or more.
-/

/-- An account address. -/
abbrev Address := Octets 20

namespace Address

/-- The hexadecimal digits of a digest as numbers, high digit first. -/
def nibbles : Bytes → List Nat
  | [] => []
  | byte :: rest => byte.toNat / 16 :: byte.toNat % 16 :: nibbles rest

/-- A digit in the case that the digest's digit of the same place asks for. -/
def checksumDigit (c : Char) (nibble : Nat) : Char :=
  if c.isAlpha ∧ 8 ≤ nibble then c.toUpper else c

/-- The checksummed text of a byte string of at most thirty-two bytes. -/
def checksumText (bytes : Bytes) : String :=
  let lower := Hex.digits bytes
  let digest := Keccak.hash (Bytes.ofText (String.ofList lower))
  "0x" ++ String.ofList
    (List.zipWith checksumDigit lower (nibbles digest.bytes))

/-- The checksummed text of an address. -/
def toText (address : Address) : String :=
  checksumText address.bytes

/-- The address of a public point's sixty-four bytes. -/
def ofPublicKey (point : Octets 64) : Address :=
  ⟨(Keccak.hash point.bytes).bytes.drop 12, by
    simp [(Keccak.hash point.bytes).length_eq]⟩

/-- The characters behind a `0x` or `0X`. -/
def unmarked? : List Char → Option (List Char)
  | '0' :: 'x' :: rest => some rest
  | '0' :: 'X' :: rest => some rest
  | _ => none

end Address

end OrderCustody
