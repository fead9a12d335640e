import OrderCustody.Bytes.Hex
import OrderCustody.Json.Cause

namespace OrderCustody.Json

/-!
# Tokens

A reader takes the bytes at hand and gives a value and the bytes that follow
it.  Blanks are space, tab, line feed and carriage return.  Texts are checked
to be Unicode once they have been read to their end; numbers keep their value
exactly up to sixty-four bits and are rounded beyond.
-/

/-- A way of reading a value at the front of a byte string: the value with the
bytes behind it, or why there is none. -/
abbrev Reader (α : Type) := Bytes → Except Cause (α × Bytes)

/-- The byte of an ASCII character. -/
def ascii (c : Char) : UInt8 :=
  UInt8.ofNat c.toNat

/-- Whether a byte is a blank between the parts of a text. -/
def isBlank (byte : UInt8) : Bool :=
  byte == 0x20 || byte == 0x09 || byte == 0x0a || byte == 0x0d

/-- The bytes without the blanks in front. -/
def skipBlanks (bytes : Bytes) : Bytes :=
  bytes.dropWhile isBlank

/-- Whether a byte is an ASCII digit. -/
def isDigit (byte : UInt8) : Bool :=
  ascii '0' ≤ byte && byte ≤ ascii '9'

/-- The rest of a literal such as `null`, whose first letter has been read. -/
def literal : (expected : List Char) → Bytes → Except Cause Bytes
  | [], bytes => .ok bytes
  | _ :: _, [] => .error (.unfinished .value)
  | c :: expected, byte :: bytes =>
      if byte = ascii c then literal expected bytes
      else .error .expectedLiteral

/-! ## Texts -/

/-- The number that four hexadecimal digits spell. -/
def fourDigits (a b c d : UInt8) : Except Cause Nat :=
  let digit (byte : UInt8) : Option Nat := Hex.value? (Char.ofNat byte.toNat)
  match digit a, digit b, digit c, digit d with
  | some a, some b, some c, some d =>
      .ok (4096 * a + 256 * b + 16 * c + d)
  | _, _, _, _ => .error .invalidEscape

/-- The number behind `\u`. -/
def hexEscape : Reader Nat
  | a :: b :: c :: d :: rest => do
      let value ← fourDigits a b c d
      return (value, rest)
  | _ => .error (.unfinished .text)

/-- The byte that one letter behind a backslash stands for. -/
def simpleEscape? (byte : UInt8) : Option UInt8 :=
  if byte = ascii '"' then some 0x22
  else if byte = ascii '\\' then some 0x5c
  else if byte = ascii '/' then some 0x2f
  else if byte = ascii 'b' then some 0x08
  else if byte = ascii 'f' then some 0x0c
  else if byte = ascii 'n' then some 0x0a
  else if byte = ascii 'r' then some 0x0d
  else if byte = ascii 't' then some 0x09
  else none

/-- The UTF-8 bytes of a code point. -/
def codePointBytes (value : Nat) : Bytes :=
  Bytes.ofText (String.singleton (Char.ofNat value))

/-- The second half of a surrogate pair, of which the first has been read. -/
def lowSurrogate (high : Nat) : Reader Bytes
  | [] => .error (.unfinished .text)
  | backslash :: rest =>
      if backslash ≠ ascii '\\' then .error .endOfHexEscape
      else
        match rest with
        | [] => .error (.unfinished .text)
        | letter :: rest =>
            if letter ≠ ascii 'u' then .error .endOfHexEscape
            else do
              let (low, rest) ← hexEscape rest
              if low < 0xdc00 ∨ 0xdfff < low then throw .loneSurrogate
              let value :=
                0x10000 + 1024 * (high - 0xd800) + (low - 0xdc00)
              return (codePointBytes value, rest)

/-- What an escape stands for, read from behind the backslash. -/
def escape : Reader Bytes
  | [] => .error (.unfinished .text)
  | letter :: rest =>
      match simpleEscape? letter with
      | some byte => .ok ([byte], rest)
      | none =>
          if letter ≠ ascii 'u' then .error .invalidEscape
          else
            match hexEscape rest with
            | .error cause => .error cause
            | .ok (value, rest) =>
                if 0xdc00 ≤ value ∧ value ≤ 0xdfff then .error .loneSurrogate
                else if 0xd800 ≤ value ∧ value ≤ 0xdbff then
                  lowSurrogate value rest
                else .ok (codePointBytes value, rest)

theorem length_hexEscape_lt
    {bytes rest : Bytes}
    {value : Nat}
    (read : hexEscape bytes = .ok (value, rest)) :
    rest.length < bytes.length := by
  unfold hexEscape at read
  split at read
  · next a b c d tail =>
      cases digits : fourDigits a b c d with
      | error cause => simp [digits, bind, Except.bind] at read
      | ok number =>
          simp only [digits, bind, Except.bind, pure, Except.pure,
            Except.ok.injEq, Prod.mk.injEq] at read
          obtain ⟨_, rfl⟩ := read
          simp only [List.length_cons]
          omega
  · cases read

theorem length_lowSurrogate_lt
    {high : Nat}
    {bytes rest decoded : Bytes}
    (read : lowSurrogate high bytes = .ok (decoded, rest)) :
    rest.length < bytes.length := by
  unfold lowSurrogate at read
  split at read
  · cases read
  · split at read
    · cases read
    · split at read
      · cases read
      · next letter tail =>
          split at read
          · cases read
          · cases low : hexEscape tail with
            | error cause => simp [low, bind, Except.bind] at read
            | ok result =>
                have shorter := length_hexEscape_lt low
                simp only [low, bind, Except.bind] at read
                split at read
                · cases read
                · simp only [pure, Except.pure, Except.ok.injEq,
                    Prod.mk.injEq] at read
                  obtain ⟨_, rfl⟩ := read
                  simp only [List.length_cons]
                  omega

theorem length_escape_lt
    {bytes rest decoded : Bytes}
    (read : escape bytes = .ok (decoded, rest)) :
    rest.length < bytes.length := by
  unfold escape at read
  split at read
  · cases read
  · split at read
    · simp only [Except.ok.injEq, Prod.mk.injEq] at read
      obtain ⟨_, rfl⟩ := read
      simp
    · split at read
      · cases read
      · split at read
        · cases read
        · next number tail hex =>
            have shorter := length_hexEscape_lt hex
            split at read
            · cases read
            · split at read
              · have further := length_lowSurrogate_lt read
                simp only [List.length_cons]
                omega
              · simp only [Except.ok.injEq, Prod.mk.injEq] at read
                obtain ⟨_, rfl⟩ := read
                simp only [List.length_cons]
                omega

/-- The bytes of a text up to its closing quote; `collected` holds those read
before, latest first. -/
def textBytes (collected : Bytes) : Reader Bytes
  | [] => .error (.unfinished .text)
  | byte :: rest =>
      if byte = ascii '"' then .ok (collected.reverse, rest)
      else if byte = ascii '\\' then
        match _read : escape rest with
        | .error cause => .error cause
        | .ok (decoded, after) =>
            textBytes (decoded.reverse ++ collected) after
      else if byte < 0x20 then .error .controlCharacter
      else textBytes (byte :: collected) rest
termination_by bytes => bytes.length
decreasing_by
  · have shorter := length_escape_lt _read
    simp only [List.length_cons]
    omega
  · simp

/-- A text, read from behind its opening quote. -/
def textBody (bytes : Bytes) : Except Cause (String × Bytes) := do
  let (collected, rest) ← textBytes [] bytes
  match Bytes.toText? collected with
  | some text => return (text, rest)
  | none => throw .notUnicode

/-! ## Numbers -/

/-- The value of ASCII digits. -/
def digitsValue (digits : Bytes) : Nat :=
  digits.foldl (fun value byte => 10 * value + (byte.toNat - 48)) 0

/-- The longest beginning of a run of digits that keeps a significand below
`2 ^ 64`, with the significand and the digits left over. -/
def significand (value : Nat) : Bytes → Nat × Bytes
  | [] => (value, [])
  | byte :: rest =>
      let next := 10 * value + (byte.toNat - 48)
      if next < UInt64.size then significand next rest else (value, byte :: rest)

/-- A decimal significand and exponent as a number. -/
def roundedNumber (negative : Bool) (value : Nat) (exponent : Int) :
    Except Cause Number :=
  match Binary64.ofDecimal? value exponent with
  | some magnitude => .ok (.rounded negative magnitude)
  | none => .error .numberOutOfRange

/-- An exponent, read from behind its `e`. -/
def exponentPart (negative : Bool) (value : Nat) (start : Int) : Reader Number :=
  fun bytes =>
    let (lowers, bytes) :=
      match bytes with
      | sign :: rest =>
          if sign = ascii '+' then (false, rest)
          else if sign = ascii '-' then (true, rest)
          else (false, bytes)
      | [] => (false, bytes)
    match bytes with
    | [] => .error (.unfinished .value)
    | first :: _ =>
        if !isDigit first then .error .invalidNumber
        else
          let digits := bytes.takeWhile isDigit
          let rest := bytes.dropWhile isDigit
          let exponent := digitsValue digits
          if Nat.pow 2 31 ≤ exponent then
            if value ≠ 0 ∧ !lowers then .error .numberOutOfRange
            else .ok (.rounded negative Binary64.zero, rest)
          else do
            let number ← roundedNumber negative value
              (if lowers then start - exponent else start + exponent)
            return (number, rest)

/-- The end of a number that is not whole, with its exponent if there is one. -/
def numberEnd (negative : Bool) (value : Nat) (exponent : Int) : Reader Number
  | byte :: rest =>
      if byte = ascii 'e' ∨ byte = ascii 'E' then
        exponentPart negative value exponent rest
      else do
        let number ← roundedNumber negative value exponent
        return (number, byte :: rest)
  | [] => do
      let number ← roundedNumber negative value exponent
      return (number, [])

/-- A fraction, read from behind its point. -/
def fractionPart (negative : Bool) (value : Nat) (start : Int) : Reader Number :=
  fun bytes =>
    let digits := bytes.takeWhile isDigit
    let rest := bytes.dropWhile isDigit
    if digits.isEmpty then
      match rest with
      | [] => .error (.unfinished .value)
      | _ :: _ => .error .invalidNumber
    else
      let (extended, left) := significand value digits
      numberEnd negative extended
        (start - ((digits.length - left.length : Nat) : Int)) rest

/-- A number without a fraction and an exponent; below zero it is rounded where 64 bits
do not hold it, and so is a negative zero. -/
def wholeNumber (negative : Bool) (value : Nat) : Number :=
  if !negative then .natural value
  else if value = 0 then .rounded true Binary64.zero
  else if value ≤ Nat.pow 2 63 then .negative (-(value : Int))
  else .rounded true ((Binary64.round? value 1).getD Binary64.zero)

/-- A number, read from behind its sign. -/
def numberBody (negative : Bool) : Reader Number
  | [] => .error (.unfinished .value)
  | first :: rest =>
      if !isDigit first then .error .invalidNumber
      else
        let digits :=
          if first = ascii '0' then [first]
          else first :: rest.takeWhile isDigit
        let after :=
          if first = ascii '0' then rest else rest.dropWhile isDigit
        let (value, left) := significand 0 digits
        match after with
        | [] =>
            if left.isEmpty then .ok (wholeNumber negative value, [])
            else numberEnd negative value left.length []
        | byte :: behind =>
            if first = ascii '0' ∧ isDigit byte then .error .invalidNumber
            else if byte = ascii '.' then
              fractionPart negative value left.length behind
            else if left.isEmpty ∧ ¬ (byte = ascii 'e' ∨ byte = ascii 'E') then
              .ok (wholeNumber negative value, after)
            else numberEnd negative value left.length after

end OrderCustody.Json
