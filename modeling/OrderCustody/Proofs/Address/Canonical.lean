import OrderCustody.Proofs.Order.Grammar

namespace OrderCustody

/-!
# Addresses up to letter case

An account can be written in as many ways as its letters can be put in upper or lower
case, and in no other.  One of these ways has a checksum in it: which letters are upper
case is read off the digest of the lowercase text, digit by digit.
-/

namespace Hex

/-- In lower case a digit is the one that is written for its number. -/
theorem IsDigit.toLower_eq
    {c : Char}
    {value : Nat}
    (digit : IsDigit c value) :
    value < 16 ∧ c.toLower = Hex.digit value := by
  have every :
      ∀ number : Fin 16,
        "0123456789abcdef".toList[number.val]?.map Char.toLower = some (Hex.digit number) ∧
          "0123456789ABCDEF".toList[number.val]?.map Char.toLower =
            some (Hex.digit number) := by
    decide
  rcases digit with lower | upper
  · have small : value < 16 := (List.getElem?_eq_some_iff.mp lower).1
    have lowered := (every ⟨value, small⟩).1
    rw [lower] at lowered
    exact ⟨small, Option.some.inj lowered⟩
  · have small : value < 16 := (List.getElem?_eq_some_iff.mp upper).1
    have lowered := (every ⟨value, small⟩).2
    rw [upper] at lowered
    exact ⟨small, Option.some.inj lowered⟩

/-- In lower case digits are those that are written for their bytes. -/
theorem Spells.map_toLower_eq
    {characters : List Char}
    {bytes : Bytes}
    (spells : Spells characters bytes) :
    characters.map Char.toLower = digits bytes := by
  induction spells with
  | nil => rfl
  | @cons high low highValue lowValue _ _ highDigit lowDigit _ inductionHypothesis =>
      obtain ⟨highSmall, highLower⟩ := highDigit.toLower_eq
      obtain ⟨lowSmall, lowLower⟩ := lowDigit.toLower_eq
      have inByte : 16 * highValue + lowValue < 256 := by omega
      have byte : (UInt8.ofNat (16 * highValue + lowValue)).toNat = 16 * highValue + lowValue :=
        UInt8.toNat_ofNat_of_lt' inByte
      have highHalf : (16 * highValue + lowValue) / 16 = highValue := by omega
      have lowHalf : (16 * highValue + lowValue) % 16 = lowValue := by omega
      simp only [List.map_cons, digits, byte, highHalf, lowHalf, highLower, lowLower,
        inductionHypothesis]

end Hex

namespace Address

/-! ## Texts of an account -/

/-- In lower case a text of an account is the digits of the account behind the mark. -/
theorem toLower_of_account
    {text : String}
    {address : Address}
    (account : Field.Account text address) :
    text.toLower = Hex.marked address.bytes := by
  obtain ⟨eitherCase, spelled, -, spells⟩ := account
  have mark : '0'.toLower = '0' ∧ 'x'.toLower = 'x' ∧ 'X'.toLower = 'x' := by decide
  rw [← String.toList_inj, toList_toLower, Hex.toList_marked, spelled, List.map_cons,
    List.map_cons, spells.map_toLower_eq, mark.1]
  rcases eitherCase with rfl | rfl
  · rw [mark.2.1]
  · rw [mark.2.2]

/-! ## The checksum -/

/-- The half of a byte at a place of a digest, two for each byte and the high one first; there
is none behind its end. -/
def nibble? (digest : Bytes) (place : Nat) : Option UInt8 :=
  digest[place / 2]?.map fun byte : UInt8 =>
    (byte >>> (if place % 2 = 0 then 4 else 0)) &&& 15

theorem toNat_highNibble (byte : UInt8) : (byte >>> 4 &&& 15).toNat = byte.toNat / 16 := by
  have bound := byte.toNat_lt
  have cut : (byte.toNat >>> 4) &&& 15 = (byte.toNat >>> 4) % 16 :=
    Nat.and_two_pow_sub_one_eq_mod _ 4
  have shift : byte.toNat >>> 4 = byte.toNat / 16 := Nat.shiftRight_eq_div_pow _ 4
  calc
    (byte >>> 4 &&& 15).toNat = (byte.toNat >>> 4) &&& 15 := by simp
    _ = byte.toNat / 16 := by omega

theorem toNat_lowNibble (byte : UInt8) : (byte >>> 0 &&& 15).toNat = byte.toNat % 16 := by
  have cut : byte.toNat &&& 15 = byte.toNat % 16 := Nat.and_two_pow_sub_one_eq_mod _ 4
  simpa using cut

/-- The nibbles of a digest are its half bytes, place by place. -/
theorem getElem?_nibbles (digest : Bytes) (place : Nat) :
    (nibbles digest)[place]? = (nibble? digest place).map UInt8.toNat := by
  induction digest generalizing place with
  | nil => simp [nibbles, nibble?]
  | cons byte rest inductionHypothesis =>
      rcases place with _ | _ | place
      · exact congrArg some (toNat_highNibble byte).symm
      · exact congrArg some (toNat_lowNibble byte).symm
      · have next : (place + 2) / 2 = place / 2 + 1 := by omega
        have parity : (place + 2) % 2 = place % 2 := by omega
        have shifted : nibble? (byte :: rest) (place + 2) = nibble? rest place := by
          rw [nibble?, nibble?, next, parity, List.getElem?_cons_succ]
        rw [shifted, ← inductionHypothesis]
        rfl

theorem isSome_nibble?_iff (digest : Bytes) (place : Nat) :
    (nibble? digest place).isSome ↔ place < 2 * digest.length := by
  rw [nibble?, Option.isSome_map, isSome_getElem?]
  omega

/-- A digit of the checksum is upper case if it is a letter and its nibble is high. -/
theorem isUpper_checksumDigit_iff (value : Fin 16) (nibble : Nat) :
    (checksumDigit (Hex.digit value) nibble).isUpper = true ↔
      (checksumDigit (Hex.digit value) nibble).isAlpha = true ∧ 8 ≤ nibble := by
  have every :
      ∀ value : Fin 16,
        (Hex.digit value).isUpper = false ∧
          ((Hex.digit value).isAlpha = true →
            (Hex.digit value).toUpper.isUpper = true ∧
              (Hex.digit value).toUpper.isAlpha = true) := by
    decide
  obtain ⟨notUpper, raised⟩ := every value
  unfold checksumDigit
  split
  · next asked =>
      obtain ⟨upper, letter⟩ := raised asked.1
      exact ⟨fun _ => ⟨letter, asked.2⟩, fun _ => upper⟩
  · next unasked =>
      rw [notUpper]
      exact ⟨nofun, fun asked => absurd asked unasked⟩

/-- The digits of a checksummed text, each in its case. -/
theorem exists_shown
    {bytes : Bytes}
    (short : bytes.length ≤ 32) :
    let digest := Keccak.hash (Bytes.ofText (Hex.encode bytes))
    ∃ shown : List Char,
      (checksumText bytes).toList = '0' :: 'x' :: shown ∧
        shown.length = 2 * bytes.length ∧
        ∀ place c,
          shown[place]? = some c →
          ∃ nibble,
            nibble? digest.bytes place = some nibble ∧
              (c.isUpper = true ↔ c.isAlpha = true ∧ 8 ≤ nibble) := by
  intro digest
  refine ⟨List.zipWith checksumDigit (Hex.digits bytes) (nibbles digest.bytes), ?_, ?_, ?_⟩
  · have mark : "0x".toList = ['0', 'x'] := rfl
    rw [checksumText, String.toList_append, mark, String.toList_ofList]
    rfl
  · rw [List.length_zipWith, Hex.length_digits, length_nibbles, digest.length_eq]
    omega
  · intro place c there
    obtain ⟨lower, number, lowerThere, numberThere, rfl⟩ :=
      List.getElem?_zipWith_eq_some.mp there
    obtain ⟨value, rfl⟩ := Hex.exists_digit_of_mem_digits (List.mem_of_getElem? lowerThere)
    rw [getElem?_nibbles] at numberThere
    obtain ⟨nibble, found, rfl⟩ := Option.map_eq_some_iff.mp numberThere
    exact ⟨nibble, found, isUpper_checksumDigit_iff value nibble.toNat⟩

/--
The text of an account is its own up to letter case.

An account is read back from the text that is written for it.  Whatever text is read as an
account differs from the one that is written for it in letter case only, and two texts are
read as one account exactly if they differ in letter case only.

The digest of the lowercase digits has a nibble for every digit exactly if there are at most
thirty-two bytes.  Then the text that is written is in lower case the digits behind the mark,
as many as the bytes need, and a digit is upper case exactly if it is a letter and the nibble
at its place, the high one of each byte first, is at least eight.
-/
theorem canonical_up_to_letter_case :
    (∀ field (address : Address), Field.address field address.toText = .ok address) ∧
    (∀ field text address,
      Field.address field text = .ok address →
      address.toText.toLower = text.toLower) ∧
    (∀ field text other address otherAddress,
      Field.address field text = .ok address →
      Field.address field other = .ok otherAddress →
      (address = otherAddress ↔ text.toLower = other.toLower)) ∧
    ∀ bytes : Bytes,
      let digest := Keccak.hash (Bytes.ofText (Hex.encode bytes))
      ((∀ place < 2 * bytes.length, (nibble? digest.bytes place).isSome) ↔
        bytes.length ≤ 32) ∧
      (bytes.length ≤ 32 →
        (checksumText bytes).toLower = Hex.marked bytes ∧
          ∃ shown : List Char,
            (checksumText bytes).toList = '0' :: 'x' :: shown ∧
              shown.length = 2 * bytes.length ∧
              ∀ place c,
                shown[place]? = some c →
                ∃ nibble,
                  nibble? digest.bytes place = some nibble ∧
                    (c.isUpper = true ↔ c.isAlpha = true ∧ 8 ≤ nibble)) := by
  have lower {field text : String} {address : Address}
      (read : Field.address field text = .ok address) :
      text.toLower = Hex.marked address.bytes :=
    toLower_of_account (((Field.reads_address field text).ok_iff address).mp read)
  refine ⟨Field.address_toText, ?_, ?_, ?_⟩
  · intro field text address read
    rw [lower read, lower (Field.address_toText field address)]
  · intro field text other address otherAddress read readOther
    constructor
    · rintro rfl
      rw [lower read, lower readOther]
    · intro same
      have sameReading := Field.toOption_address_of_toLower_eq same field
      rw [read, readOther] at sameReading
      exact Option.some.inj sameReading
  · intro bytes digest
    refine ⟨?_, fun short => ⟨toLower_checksumText short, exists_shown short⟩⟩
    simp only [isSome_nibble?_iff, digest.length_eq]
    constructor
    · intro inside
      by_contra long
      have behind := inside 64 (by omega)
      omega
    · intro short place inside
      omega

end Address

end OrderCustody
