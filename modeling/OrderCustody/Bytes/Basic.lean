namespace OrderCustody

/-!
# Byte strings

Byte strings are lists, so that keys, digests and request bodies share one
algebra: numbers read most or least significant byte first, exclusive or, and
splitting into blocks.  `Octets` is the same with the length in the type.
-/

/-- A byte string of any length. -/
abbrev Bytes := List UInt8

namespace Bytes

/-- The number a byte string denotes, most significant byte first. -/
def toNat (bytes : Bytes) : Nat :=
  bytes.foldl (fun accumulated byte => accumulated * 256 + byte.toNat) 0

/-- The low `width` bytes of a number, most significant byte first. -/
def ofNat : (width value : Nat) → Bytes
  | 0, _ => []
  | width + 1, value => ofNat width (value / 256) ++ [UInt8.ofNat value]

/-- A number in as many bytes as it takes, most significant byte first; zero takes
one. -/
def ofNatMinimal (value : Nat) : Bytes :=
  ofNat (value.log2 / 8 + 1) value

/-- The number a byte string denotes, least significant byte first. -/
def toNatLittle : Bytes → Nat
  | [] => 0
  | byte :: rest => byte.toNat + 256 * toNatLittle rest

/-- The low `width` bytes of a number, least significant byte first. -/
def ofNatLittle : (width value : Nat) → Bytes
  | 0, _ => []
  | width + 1, value => UInt8.ofNat value :: ofNatLittle width (value / 256)

/-- Byte-wise exclusive or, as long as the shorter operand. -/
def xor (left right : Bytes) : Bytes :=
  List.zipWith (· ^^^ ·) left right

/-- The number of byte strings of a given length. -/
def count (width : Nat) : Nat :=
  Nat.pow 256 width

/-- Consecutive blocks of `size` bytes; the last one may be shorter. -/
def blocks (size : Nat) (bytes : Bytes) : List Bytes :=
  (List.range ((bytes.length + size - 1) / size)).map fun index =>
    (bytes.drop (index * size)).take size

/-- The bytes of a text in UTF-8. -/
def ofText (text : String) : Bytes :=
  text.toUTF8.toList

/-- The text whose UTF-8 form a byte string is, if it is one. -/
def toText? (bytes : Bytes) : Option String :=
  String.fromUTF8? ⟨bytes.toArray⟩

theorem count_succ (width : Nat) : count (width + 1) = 256 * count width :=
  Nat.mul_comm _ _

@[simp] theorem length_ofNat (width value : Nat) :
    (ofNat width value).length = width := by
  induction width generalizing value with
  | zero => rfl
  | succ width inductionHypothesis => simp [ofNat, inductionHypothesis]

@[simp] theorem length_ofNatLittle (width value : Nat) :
    (ofNatLittle width value).length = width := by
  induction width generalizing value with
  | zero => rfl
  | succ width inductionHypothesis => simp [ofNatLittle, inductionHypothesis]

@[simp] theorem length_xor (left right : Bytes) :
    (xor left right).length = min left.length right.length := by
  simp [xor]

/-- One more byte at the end shifts the number by one byte. -/
@[simp] theorem toNat_append_singleton (bytes : Bytes) (byte : UInt8) :
    toNat (bytes ++ [byte]) = toNat bytes * 256 + byte.toNat := by
  simp [toNat]

/-- Writing a number into `width` bytes keeps it modulo their count. -/
theorem toNat_ofNat (width value : Nat) :
    toNat (ofNat width value) = value % count width := by
  induction width generalizing value with
  | zero => simp [ofNat, toNat, count, Nat.mod_one]
  | succ width inductionHypothesis =>
      rw [ofNat, toNat_append_singleton, inductionHypothesis, count_succ, Nat.mod_mul]
      simp only [UInt8.toNat_ofNat']
      omega

/-- Exclusive or with the same long enough byte string twice changes nothing. -/
theorem xor_xor_cancel
    {left right : Bytes}
    (long : left.length ≤ right.length) :
    xor (xor left right) right = left := by
  induction left generalizing right with
  | nil => simp [xor]
  | cons first rest inductionHypothesis =>
      cases right with
      | nil => simp at long
      | cons other others =>
          have short : rest.length ≤ others.length := by
            simpa using long
          have recovered := inductionHypothesis short
          simp only [xor, List.zipWith_cons_cons] at recovered ⊢
          rw [recovered, UInt8.xor_assoc, UInt8.xor_self, UInt8.xor_zero]

end Bytes

/-- A byte string of one fixed size. -/
structure Octets (size : Nat) where
  bytes : Bytes
  length_eq : bytes.length = size
  deriving DecidableEq

namespace Octets

@[ext] theorem ext
    {size : Nat}
    {left right : Octets size}
    (same : left.bytes = right.bytes) :
    left = right := by
  cases left
  cases right
  cases same
  rfl

/-- A byte string as octets, when it has the right size. -/
def ofBytes? (size : Nat) (bytes : Bytes) : Option (Octets size) :=
  if sized : bytes.length = size then some ⟨bytes, sized⟩ else none

/-- A byte string cut, or padded with zeros at its end, to the given size. -/
def resize (size : Nat) (bytes : Bytes) : Octets size :=
  ⟨(bytes ++ List.replicate size 0).take size, by simp⟩

/-- A byte string with zeros in front of it up to the given size, unless it is
longer. -/
def padded? (size : Nat) (bytes : Bytes) : Option (Octets size) :=
  if fits : bytes.length ≤ size then
    some ⟨List.replicate (size - bytes.length) 0 ++ bytes, by simp [fits]⟩
  else none

/-- Nothing but zeros. -/
def zero (size : Nat) : Octets size :=
  ⟨List.replicate size 0, by simp⟩

/-- A number in big-endian form, modulo their count. -/
def ofNat (size value : Nat) : Octets size :=
  ⟨Bytes.ofNat size value, Bytes.length_ofNat size value⟩

/-- The number in big-endian form. -/
def toNat {size : Nat} (octets : Octets size) : Nat :=
  octets.bytes.toNat

/-- The exclusive or of two byte strings of one length. -/
def xor {size : Nat} (left right : Octets size) : Octets size :=
  ⟨Bytes.xor left.bytes right.bytes, by
    simp [left.length_eq, right.length_eq]⟩

/-- Two byte strings, one behind the other. -/
def append {first second : Nat} (left : Octets first) (right : Octets second) :
    Octets (first + second) :=
  ⟨left.bytes ++ right.bytes, by
    simp [left.length_eq, right.length_eq]⟩

/-- Reading octets back succeeds exactly on byte strings of that size. -/
theorem ofBytes?_bytes {size : Nat} (octets : Octets size) :
    ofBytes? size octets.bytes = some octets := by
  simp [ofBytes?, octets.length_eq]

/-- Exclusive or with the same octets twice changes nothing. -/
theorem xor_xor_cancel {size : Nat} (left right : Octets size) :
    (left.xor right).xor right = left := by
  apply ext
  exact Bytes.xor_xor_cancel (by simp [left.length_eq, right.length_eq])

end Octets

end OrderCustody
