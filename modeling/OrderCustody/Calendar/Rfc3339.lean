import OrderCustody.Calendar.Timestamp
import OrderCustody.Text.Blank

namespace OrderCustody.Calendar

/-!
# Timestamps as text

Timestamps are written in the format of RFC 3339: universal time marked by `Z`,
with as many groups of three decimals as the fraction needs, a leap second as
second sixty, and a sign before a year of more than four digits or below zero.
They are read with any offset, with blanks between the parts, and with fewer
digits than are written.
-/

namespace Timestamp

/-! ## Writing -/

/-- A number in decimal, with zeros in front of it up to a width. -/
def padded (width value : Nat) : List Char :=
  let digits := Nat.toDigits 10 value
  List.replicate (width - digits.length) '0' ++ digits

/-- A year, with a sign unless it has four digits. -/
def yearText (year : Int) : List Char :=
  if 0 ≤ year ∧ year ≤ 9999 then padded 4 year.toNat
  else (if year < 0 then '-' else '+') :: padded 4 year.natAbs

/-- A fraction of a second in three, six or nine decimals, and nothing if there is none.
-/
def fractionText (nano : Nat) : List Char :=
  if nano = 0 then []
  else if nano % 1000000 = 0 then '.' :: padded 3 (nano / 1000000)
  else if nano % 1000 = 0 then '.' :: padded 6 (nano / 1000)
  else '.' :: padded 9 nano

/-- The characters of a timestamp in front of its zone. -/
def zoneless (timestamp : Timestamp) : List Char :=
  let isLeapSecond := nanosPerSecond ≤ timestamp.nano
  let second := timestamp.second % 60 + if isLeapSecond then 1 else 0
  let nano :=
    if isLeapSecond then timestamp.nano - nanosPerSecond else timestamp.nano
  yearText timestamp.date.year ++ '-' :: padded 2 timestamp.date.month ++
    '-' :: padded 2 timestamp.date.day ++
    'T' :: padded 2 (timestamp.second / 3600) ++
    ':' :: padded 2 (timestamp.second / 60 % 60) ++
    ':' :: padded 2 second ++ fractionText nano

/-- The text of a timestamp. -/
def text (timestamp : Timestamp) : String :=
  String.ofList (zoneless timestamp ++ ['Z'])

/-- The text of a timestamp with its zone as an offset. -/
def offsetText (timestamp : Timestamp) : String :=
  String.ofList (zoneless timestamp) ++ "+00:00"

/-! ## Reading -/

/-- Why a text is no timestamp. -/
inductive Fault where
  /-- A part has no such value, or the day does not exist. -/
  | outOfRange
  /-- The instant lies beyond the first or last day. -/
  | impossible
  /-- Another character is expected. -/
  | invalid
  /-- The text ends too early. -/
  | tooShort
  /-- Something follows the timestamp. -/
  | tooLong
  deriving DecidableEq, Repr

/-- The text of a fault. -/
def Fault.message : Fault → String
  | outOfRange => "input is out of range"
  | impossible => "no possible date and time matching input"
  | invalid => "input contains invalid characters"
  | tooShort => "premature end of input"
  | tooLong => "trailing input"

/-- Whether a character is an ASCII digit. -/
def isDigit (c : Char) : Bool :=
  '0' ≤ c && c ≤ '9'

/-- The value of ASCII digits. -/
def digitsValue (digits : List Char) : Nat :=
  digits.foldl (fun value c => 10 * value + (c.toNat - 48)) 0

/-- A number of one to `width` digits. -/
def number (width : Nat) (characters : List Char) :
    Except Fault (Nat × List Char) :=
  match characters with
  | [] => .error .tooShort
  | first :: _ =>
      if isDigit first then
        let digits := (characters.take width).takeWhile isDigit
        .ok (digitsValue digits, characters.drop digits.length)
      else .error .invalid

/-- A number of at most two digits within bounds, with blanks in front. -/
def part (least greatest : Nat) (characters : List Char) :
    Except Fault (Nat × List Char) := do
  let (value, rest) ← number 2 (Text.trimStart characters)
  if least ≤ value ∧ value ≤ greatest then return (value, rest)
  throw .outOfRange

/-- A given character, with blanks in front. -/
def mark (expected : Char) (characters : List Char) :
    Except Fault (List Char) :=
  match Text.trimStart characters with
  | [] => .error .tooShort
  | c :: rest => if c = expected then .ok rest else .error .invalid

/-- A year: four digits at most, or any number of them behind a sign. -/
def yearPart (characters : List Char) : Except Fault (Int × List Char) :=
  let bounded (year : Int) (rest : List Char) : Except Fault (Int × List Char) :=
    if -2147483648 ≤ year ∧ year ≤ 2147483647 then .ok (year, rest)
    else .error .outOfRange
  match Text.trimStart characters with
  | '-' :: digits => do
      let (value, rest) ← number digits.length digits
      bounded (-(value : Int)) rest
  | '+' :: digits => do
      let (value, rest) ← number digits.length digits
      bounded value rest
  | digits => do
      let (value, rest) ← number 4 digits
      bounded value rest

/-- A fraction of a second: nine digits count and further ones are passed
over. -/
def fractionPart (characters : List Char) : Except Fault (Nat × List Char) :=
  match characters with
  | '.' :: digits => do
      let (value, rest) ← number 9 digits
      let read := digits.length - rest.length
      return (value * Nat.pow 10 (9 - read), rest.dropWhile isDigit)
  | _ => .ok (0, characters)

/-- Two characters, as far as two bytes are left. -/
def pair (characters : List Char) : Except Fault (Char × Char × List Char) :=
  match characters with
  | [] => .error .tooShort
  | [only] => if only.toNat < 128 then .error .tooShort else .error .invalid
  | first :: second :: rest => .ok (first, second, rest)

/-- Hours and minutes of an offset, behind its sign. -/
def offsetPart (characters : List Char) : Except Fault (Nat × List Char) := do
  let (tens, ones, rest) ← pair characters
  if !(isDigit tens && isDigit ones) then throw .invalid
  let hours := digitsValue [tens, ones]
  let rest := rest.dropWhile fun c => c == ':' || Text.isBlank c
  let (tens, ones, rest) ← pair rest
  if !(isDigit tens && isDigit ones) then throw .invalid
  if '6' ≤ tens then throw .outOfRange
  return (hours * 3600 + digitsValue [tens, ones] * 60, rest)

/-- The seconds by which a clock is ahead of universal time. -/
def zone (characters : List Char) : Except Fault (Int × List Char) :=
  match characters with
  | [] => .error .tooShort
  | first :: rest =>
      let isUtc :=
        (characters.take 3).map Char.toUpper == ['U', 'T', 'C']
      if isUtc then .ok (0, characters.drop 3)
      else if first = 'Z' ∨ first = 'z' then .ok (0, rest)
      else if first = '+' then do
        let (seconds, rest) ← offsetPart rest
        return (seconds, rest)
      else if first = '-' ∨ first = '\u2212' then do
        let (seconds, rest) ← offsetPart rest
        return (-seconds, rest)
      else .error .invalid

/-- The timestamp in universal time of the parts that were read. -/
def ofParts
    (year : Int) (month day hour minute second nano : Nat) (offset : Int) :
    Except Fault Timestamp :=
  let isLeapSecond := second = 60
  let whole := if isLeapSecond then 59 else second
  let fraction := if isLeapSecond then nano + nanosPerSecond else nano
  match Date.ofCivil? year month day with
  | none => .error .outOfRange
  | some date =>
      match ofTime? date (hour * 3600 + minute * 60 + whole) fraction with
      | none => .error .outOfRange
      | some timestamp =>
          if offset.natAbs < secondsPerDay then
            match timestamp.ofOffset? offset with
            | some shifted => .ok shifted
            | none => .error .impossible
          else .error .outOfRange

/-- The timestamp that a text stands for, in universal time. -/
def parse (input : String) : Except Fault Timestamp := do
  let (year, rest) ← yearPart input.toList
  let rest ← mark '-' rest
  let (month, rest) ← part 1 12 rest
  let rest ← mark '-' rest
  let (day, rest) ← part 1 31 rest
  let rest ←
    match rest with
    | [] => throw .tooShort
    | separator :: rest =>
        if separator = 't' ∨ separator = 'T' ∨ separator = ' ' then pure rest
        else throw .invalid
  let (hour, rest) ← part 0 23 rest
  let rest ← mark ':' rest
  let (minute, rest) ← part 0 59 rest
  let rest ← mark ':' rest
  let (second, rest) ← part 0 60 rest
  let (nano, rest) ← fractionPart rest
  let (offset, rest) ← zone (Text.trimStart rest)
  if !(Text.trimStart rest).isEmpty then throw .tooLong
  ofParts year month day hour minute second nano offset

end Timestamp

end OrderCustody.Calendar
