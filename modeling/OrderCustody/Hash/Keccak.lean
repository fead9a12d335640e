import OrderCustody.Bytes.Basic

namespace OrderCustody.Keccak

/-!
# Keccak-256

The sponge over the 1600-bit permutation with a 136-byte rate.  A message is
padded by one set bit, zeros and another set bit, and carries no suffix that
names the kind of hash.  Lane `(x, y)` stands at position `5 y + x`; each step
of a round is the step of that name in the definition of the permutation.
-/

/-- The twenty-five lanes of the permutation. -/
abbrev State := Vector UInt64 25

namespace State

/-- The lane at column `x` and row `y`, both modulo five. -/
def lane (state : State) (x y : Nat) : UInt64 :=
  have : 5 * (y % 5) + x % 5 < 25 := by omega
  state[5 * (y % 5) + x % 5]

/-- The state with the given lane at each column and row. -/
def ofLanes (lanes : (x y : Nat) → UInt64) : State :=
  Vector.ofFn fun position => lanes (position.val % 5) (position.val / 5)

end State

/-- A word turned to the left by some bits. -/
def rotate (word : UInt64) (amount : UInt64) : UInt64 :=
  (word <<< amount) ||| (word >>> (64 - amount))

/-- Rotation amounts, row by row. -/
def rotations : Vector UInt64 25 :=
  #v[0, 1, 62, 28, 27,
    36, 44, 6, 55, 20,
    3, 10, 43, 25, 39,
    41, 45, 15, 21, 8,
    18, 2, 61, 56, 14]

/-- Round constants, one per round. -/
def roundConstants : List UInt64 :=
  [0x0000000000000001, 0x0000000000008082, 0x800000000000808a,
    0x8000000080008000, 0x000000000000808b, 0x0000000080000001,
    0x8000000080008081, 0x8000000000008009, 0x000000000000008a,
    0x0000000000000088, 0x0000000080008009, 0x000000008000000a,
    0x000000008000808b, 0x800000000000008b, 0x8000000000008089,
    0x8000000000008003, 0x8000000000008002, 0x8000000000000080,
    0x000000000000800a, 0x800000008000000a, 0x8000000080008081,
    0x8000000000008080, 0x0000000080000001, 0x8000000080008008]

/-- Add to each lane the parities of two neighbouring columns. -/
def theta (state : State) : State :=
  let parity : Vector UInt64 5 := Vector.ofFn fun x =>
    state.lane x 0 ^^^ state.lane x 1 ^^^ state.lane x 2 ^^^
      state.lane x 3 ^^^ state.lane x 4
  let parityOf (x : Nat) : UInt64 :=
    have : x % 5 < 5 := by omega
    parity[x % 5]
  State.ofLanes fun x y =>
    state.lane x y ^^^ parityOf (x + 4) ^^^ rotate (parityOf (x + 1)) 1

/-- Rotate every lane by its own amount and move it to its new place. -/
def rhoPi (state : State) : State :=
  State.ofLanes fun x y =>
    rotate (state.lane (x + 3 * y) x) (State.lane rotations (x + 3 * y) x)

/-- Combine each lane with the next two of its row. -/
def chi (state : State) : State :=
  State.ofLanes fun x y =>
    state.lane x y ^^^ (~~~ state.lane (x + 1) y &&& state.lane (x + 2) y)

/-- A constant taken into the first lane. -/
def iota (constant : UInt64) (state : State) : State :=
  state.set 0 (state.lane 0 0 ^^^ constant)

/-- One round of the permutation. -/
def round (state : State) (constant : UInt64) : State :=
  iota constant (chi (rhoPi (theta state)))

/-- The permutation of a state: all of its rounds. -/
def permute (state : State) : State :=
  roundConstants.foldl round state

/-- The bytes that are taken in between two permutations. -/
def rate : Nat := 136

/-- The message with a one bit, zeros and a closing one bit, a whole number of
blocks long. -/
def pad (message : Bytes) : Bytes :=
  let missing := rate - message.length % rate
  if missing = 1 then message ++ [0x81]
  else message ++ 0x01 :: List.replicate (missing - 2) 0 ++ [0x80]

/-- The state after one more block of the padded message. -/
def absorb (state : State) (block : Bytes) : State :=
  let words := (Bytes.blocks 8 block).map fun word =>
    UInt64.ofNat word.toNatLittle
  permute (State.ofLanes fun x y =>
    state.lane x y ^^^ words.getD (5 * y + x) 0)

/-- The bytes of a lane, least significant byte first. -/
def laneBytes (word : UInt64) : Bytes :=
  Bytes.ofNatLittle 8 word.toNat

/-- The Keccak-256 digest of a message. -/
def hash (message : Bytes) : Octets 32 :=
  let state :=
    (Bytes.blocks rate (pad message)).foldl absorb (Vector.replicate 25 0)
  ⟨laneBytes (state.lane 0 0) ++ laneBytes (state.lane 1 0) ++
      laneBytes (state.lane 2 0) ++ laneBytes (state.lane 3 0),
    by simp [laneBytes]⟩

end OrderCustody.Keccak
