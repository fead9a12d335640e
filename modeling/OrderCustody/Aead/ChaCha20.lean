import OrderCustody.Bytes.Basic

namespace OrderCustody.ChaCha20

/-!
# The ChaCha20 key stream

Each block of sixty-four bytes depends on a 256-bit key, a 96-bit nonce and a
block counter.  Encryption adds the key stream by exclusive or, so it is its
own inverse.
-/

/-- A word turned to the left by some bits. -/
def rotate (word amount : UInt32) : UInt32 :=
  (word <<< amount) ||| (word >>> (32 - amount))

/-- The sixteen words of a block. -/
abbrev State := Vector UInt32 16

/-- Four words of a state mixed with each other by additions, exclusive ors and turns. -/
def quarterRound (a b c d : Fin 16) (state : State) : State :=
  let a₁ := state[a] + state[b]
  let d₁ := rotate (state[d] ^^^ a₁) 16
  let c₁ := state[c] + d₁
  let b₁ := rotate (state[b] ^^^ c₁) 12
  let a₂ := a₁ + b₁
  let d₂ := rotate (d₁ ^^^ a₂) 8
  let c₂ := c₁ + d₂
  let b₂ := rotate (b₁ ^^^ c₂) 7
  (((state.set a a₂).set b b₂).set c c₂).set d d₂

/-- Mix the four columns, then the four diagonals. -/
def doubleRound (state : State) : State :=
  state
    |> quarterRound 0 4 8 12
    |> quarterRound 1 5 9 13
    |> quarterRound 2 6 10 14
    |> quarterRound 3 7 11 15
    |> quarterRound 0 5 10 15
    |> quarterRound 1 6 11 12
    |> quarterRound 2 7 8 13
    |> quarterRound 3 4 9 14

/-- Little-endian words of a byte string. -/
def words (bytes : Bytes) : List UInt32 :=
  (Bytes.blocks 4 bytes).map fun word => UInt32.ofNat word.toNatLittle

/-- The state before mixing: constants, key, counter and nonce. -/
def initial (key : Octets 32) (nonce : Octets 12) (counter : UInt32) : State :=
  let listed : List UInt32 :=
    [0x61707865, 0x3320646e, 0x79622d32, 0x6b206574] ++
      words key.bytes ++ counter :: words nonce.bytes
  Vector.ofFn fun position => listed.getD position.val 0

/-- A block of the key stream: the initial state, mixed by ten double rounds and added
to itself. -/
def block (key : Octets 32) (nonce : Octets 12) (counter : UInt32) : Bytes :=
  let start := initial key nonce counter
  let mixed := (List.range 10).foldl (fun state _ => doubleRound state) start
  (Vector.zipWith (· + ·) start mixed).toList.flatMap fun word =>
    Bytes.ofNatLittle 4 word.toNat

/-- At least `length` bytes of key stream, from block one on; block zero is
kept for the tag. -/
def stream (key : Octets 32) (nonce : Octets 12) (length : Nat) : Bytes :=
  (List.range (length / 64 + 1)).flatMap fun index =>
    block key nonce (UInt32.ofNat (index + 1))

/-- Bytes under the key stream, which undoes itself. -/
def apply (key : Octets 32) (nonce : Octets 12) (bytes : Bytes) : Bytes :=
  Bytes.xor bytes (stream key nonce bytes.length)

/-- Blocks of one size that stand behind each other. -/
theorem length_flatMap_of_length
    {α : Type}
    {size : Nat}
    (items : List α)
    (piece : α → Bytes)
    (sized : ∀ item, (piece item).length = size) :
    (items.flatMap piece).length = size * items.length := by
  induction items with
  | nil => simp
  | cons first rest inductionHypothesis =>
      rw [List.flatMap_cons, List.length_append, inductionHypothesis, sized,
        List.length_cons, Nat.mul_succ, Nat.add_comm]

@[simp] theorem length_block
    (key : Octets 32) (nonce : Octets 12) (counter : UInt32) :
    (block key nonce counter).length = 64 := by
  rw [block, length_flatMap_of_length _ _ fun _ =>
    Bytes.length_ofNatLittle 4 _, Vector.length_toList]

theorem length_stream
    (key : Octets 32) (nonce : Octets 12) (length : Nat) :
    (stream key nonce length).length = 64 * (length / 64 + 1) := by
  rw [stream, length_flatMap_of_length _ _ fun _ => length_block _ _ _,
    List.length_range]

@[simp] theorem length_apply
    (key : Octets 32) (nonce : Octets 12) (bytes : Bytes) :
    (apply key nonce bytes).length = bytes.length := by
  simp [apply, length_stream]
  omega

/-- Adding the key stream twice changes nothing. -/
theorem apply_apply
    (key : Octets 32) (nonce : Octets 12) (bytes : Bytes) :
    apply key nonce (apply key nonce bytes) = bytes := by
  rw [apply, length_apply, apply]
  exact Bytes.xor_xor_cancel (by rw [length_stream]; omega)

end OrderCustody.ChaCha20
