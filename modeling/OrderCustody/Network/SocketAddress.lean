import OrderCustody.Bytes.Hex
import OrderCustody.Decimal

namespace OrderCustody

/-!
# Socket addresses

Where to listen: a host of four or sixteen bytes and a port.  A host of sixteen
bytes stands in brackets, may leave out one run of zeros, may end in the dotted
form of four bytes, and may carry a scope.
-/

/-- A host and a port. -/
inductive SocketAddress where
  | four (host : Octets 4) (port : UInt16)
  | six (host : Octets 16) (scope : UInt32) (port : UInt16)
  deriving DecidableEq

namespace SocketAddress

/-! ## Reading -/

/-- The value of a digit to a base of at most sixteen. -/
def digit? (base : Nat) (c : Char) : Option Nat :=
  (Hex.value? c).bind fun digit => if digit < base then some digit else none

/-- How numbers of one kind are written. -/
structure NumberForm where
  base : Nat
  /-- The most digits there may be, if there is a limit. -/
  widest : Option Nat
  /-- Whether more digits may follow a zero in front. -/
  zeroLed : Bool
  /-- Numbers are below this. -/
  bound : Nat

/-- One byte of a host of four, without zeros in front. -/
def byteForm : NumberForm := ⟨10, some 3, false, UInt8.size⟩

/-- Two bytes of a host of sixteen. -/
def groupForm : NumberForm := ⟨16, some 4, true, UInt16.size⟩

/-- A port, of as many digits as one likes. -/
def portForm : NumberForm := ⟨10, none, true, UInt16.size⟩

/-- A scope, of as many digits as one likes. -/
def scopeForm : NumberForm := ⟨10, none, true, UInt32.size⟩

/-- A number, from all the digits in front. -/
def number? (form : NumberForm) (characters : List Char) :
    Option (Nat × List Char) :=
  let isDigit (c : Char) : Bool := (digit? form.base c).isSome
  let digits := characters.takeWhile isDigit
  let value := (digits.filterMap (digit? form.base)).foldl
    (fun accumulated digit => accumulated * form.base + digit) 0
  let fits := match form.widest with
    | some widest => digits.length ≤ widest
    | none => true
  let led := digits.head? == some '0' && 1 < digits.length
  if digits.isEmpty || !fits || (led && !form.zeroLed) || form.bound ≤ value then none
  else some (value, characters.dropWhile isDigit)

/-- What follows a character in front, if it stands there. -/
def behind? (c : Char) : List Char → Option (List Char)
  | first :: rest => if first = c then some rest else none
  | [] => none

/-- What follows a separator, which the first of several parts does not have. -/
def separated? (c : Char) (first : Bool) (characters : List Char) :
    Option (List Char) :=
  if first then some characters else behind? c characters

/-- Four bytes with dots between them. -/
def dotted? (characters : List Char) : Option (List Nat × List Char) := do
  let (first, rest) ← number? byteForm characters
  let (second, rest) ← behind? '.' rest >>= number? byteForm
  let (third, rest) ← behind? '.' rest >>= number? byteForm
  let (fourth, rest) ← behind? '.' rest >>= number? byteForm
  return ([first, second, third, fourth], rest)

/-- As many groups of two bytes as there are, at most `room`; the flag tells
whether they end in a dotted form, which takes the room of two. -/
def groups : (room : Nat) → (first : Bool) → List Char →
    (List Nat × Bool) × List Char
  | 0, _, characters => (([], false), characters)
  | room + 1, first, characters =>
      let dotted :=
        if room = 0 then none
        else separated? ':' first characters >>= dotted?
      match dotted with
      | some (bytes, rest) => ((bytes, true), rest)
      | none =>
          match separated? ':' first characters >>= number? groupForm with
          | some (group, rest) =>
              let ((others, dotted), last) := groups room false rest
              ((group / 256 :: group % 256 :: others, dotted), last)
          | none => (([], false), characters)

/-- The bytes of a host of sixteen; two colons stand for one group of zeros or
more, and a dotted form may not stand in front of them. -/
def hostBytes? (characters : List Char) : Option (List Nat × List Char) := do
  let ((head, dotted), rest) := groups 8 true characters
  if head.length = 16 then return (head, rest)
  if dotted then failure
  let rest ← behind? ':' rest >>= behind? ':'
  let room := 7 - head.length / 2
  let ((tail, _), rest) := groups room true rest
  let zeros := List.replicate (16 - head.length - tail.length) 0
  return (head ++ zeros ++ tail, rest)

/-- A host of some numbers below 256. -/
def host (size : Nat) (bytes : List Nat) : Octets size :=
  Octets.resize size (bytes.map UInt8.ofNat)

/-- A host of four bytes and a port. -/
def four? (characters : List Char) : Option (SocketAddress × List Char) := do
  let (bytes, rest) ← dotted? characters
  let (port, rest) ← behind? ':' rest >>= number? portForm
  return (.four (host 4 bytes) (UInt16.ofNat port), rest)

/-- A host of sixteen bytes in brackets and a port. -/
def six? (characters : List Char) : Option (SocketAddress × List Char) := do
  let rest ← behind? '[' characters
  let (bytes, rest) ← hostBytes? rest
  let (scope, rest) := (behind? '%' rest >>= number? scopeForm).getD (0, rest)
  let rest ← behind? ']' rest
  let (port, rest) ← behind? ':' rest >>= number? portForm
  return (.six (host 16 bytes) (UInt32.ofNat scope) (UInt16.ofNat port), rest)

/-- The address that a text stands for, as a whole. -/
def parse? (text : String) : Option SocketAddress :=
  match four? text.toList <|> six? text.toList with
  | some (address, []) => some address
  | _ => none

/-! ## Writing -/

/-- Bytes with dots between them. -/
def dottedText (bytes : Bytes) : String :=
  ".".intercalate (bytes.map fun byte => Decimal.text byte.toNat)

/-- The groups of two bytes of a host. -/
def groupsOf : Bytes → List Nat
  | high :: low :: rest => (high.toNat * 256 + low.toNat) :: groupsOf rest
  | _ => []

/-- Groups in hexadecimal digits with colons between them. -/
def groupsText (groups : List Nat) : String :=
  ":".intercalate
    (groups.map fun group => String.ofList (Nat.toDigits 16 group))

/-- The number of zero groups from a place on. -/
def zerosFrom (groups : List Nat) (start : Nat) : Nat :=
  ((groups.drop start).takeWhile (· == 0)).length

/-- Where the longest run of zero groups starts, the first of several. -/
def longestZeros (groups : List Nat) : Nat :=
  (List.range groups.length).foldl
    (fun best start =>
      if zerosFrom groups best < zerosFrom groups start then start else best)
    0

/-- The text of a host of sixteen bytes: four bytes mapped into it keep their
dotted form, and the longest run of two zero groups or more is left out. -/
def hostText (bytes : Bytes) : String :=
  let all := groupsOf bytes
  if all.take 6 = [0, 0, 0, 0, 0, 0xffff] then
    "::ffff:" ++ dottedText (bytes.drop 12)
  else
    let start := longestZeros all
    let length := zerosFrom all start
    if 1 < length then
      groupsText (all.take start) ++ "::" ++ groupsText (all.drop (start + length))
    else groupsText all

/-- The text of an address; a scope of zero is left out. -/
def text : SocketAddress → String
  | four host port => dottedText host.bytes ++ ":" ++ Decimal.text port.toNat
  | six host scope port =>
      let scopeText := if scope = 0 then "" else "%" ++ Decimal.text scope.toNat
      "[" ++ hostText host.bytes ++ scopeText ++ "]:" ++ Decimal.text port.toNat

end SocketAddress

end OrderCustody
