import OrderCustody.Bytes.Basic

namespace OrderCustody.Sha256

/-!
# SHA-256 and its keyed form

The compression function over eight words, Merkle-Damgård padding, and HMAC,
which supplies the deterministic signature nonces.
-/

/-- The chaining state: eight words. -/
structure State where
  a : UInt32
  b : UInt32
  c : UInt32
  d : UInt32
  e : UInt32
  f : UInt32
  g : UInt32
  h : UInt32

namespace State

/-- The chaining state before the first block. -/
def initial : State where
  a := 0x6a09e667
  b := 0xbb67ae85
  c := 0x3c6ef372
  d := 0xa54ff53a
  e := 0x510e527f
  f := 0x9b05688c
  g := 0x1f83d9ab
  h := 0x5be0cd19

/-- Two states, added word by word. -/
def add (left right : State) : State where
  a := left.a + right.a
  b := left.b + right.b
  c := left.c + right.c
  d := left.d + right.d
  e := left.e + right.e
  f := left.f + right.f
  g := left.g + right.g
  h := left.h + right.h

end State

/-- Round constants, one per round. -/
def roundConstants : List UInt32 :=
  [0x428a2f98, 0x71374491, 0xb5c0fbcf, 0xe9b5dba5,
    0x3956c25b, 0x59f111f1, 0x923f82a4, 0xab1c5ed5,
    0xd807aa98, 0x12835b01, 0x243185be, 0x550c7dc3,
    0x72be5d74, 0x80deb1fe, 0x9bdc06a7, 0xc19bf174,
    0xe49b69c1, 0xefbe4786, 0x0fc19dc6, 0x240ca1cc,
    0x2de92c6f, 0x4a7484aa, 0x5cb0a9dc, 0x76f988da,
    0x983e5152, 0xa831c66d, 0xb00327c8, 0xbf597fc7,
    0xc6e00bf3, 0xd5a79147, 0x06ca6351, 0x14292967,
    0x27b70a85, 0x2e1b2138, 0x4d2c6dfc, 0x53380d13,
    0x650a7354, 0x766a0abb, 0x81c2c92e, 0x92722c85,
    0xa2bfe8a1, 0xa81a664b, 0xc24b8b70, 0xc76c51a3,
    0xd192e819, 0xd6990624, 0xf40e3585, 0x106aa070,
    0x19a4c116, 0x1e376c08, 0x2748774c, 0x34b0bcb5,
    0x391c0cb3, 0x4ed8aa4a, 0x5b9cca4f, 0x682e6ff3,
    0x748f82ee, 0x78a5636f, 0x84c87814, 0x8cc70208,
    0x90befffa, 0xa4506ceb, 0xbef9a3f7, 0xc67178f2]

/-- A word turned to the right by some bits. -/
def rotate (word amount : UInt32) : UInt32 :=
  (word >>> amount) ||| (word <<< (32 - amount))

/-- The message schedule, latest word first: `count` words are appended to the
sixteen words of the block. -/
def schedule : (count : Nat) → List UInt32 → List UInt32
  | 0, words => words
  | count + 1, words =>
      let word (back : Nat) : UInt32 := words.getD (back - 1) 0
      let small0 :=
        rotate (word 15) 7 ^^^ rotate (word 15) 18 ^^^ (word 15 >>> 3)
      let small1 :=
        rotate (word 2) 17 ^^^ rotate (word 2) 19 ^^^ (word 2 >>> 10)
      schedule count ((word 16 + small0 + word 7 + small1) :: words)

/-- One round, with its constant and its word of the schedule. -/
def round (state : State) (constant word : UInt32) : State :=
  let big1 := rotate state.e 6 ^^^ rotate state.e 11 ^^^ rotate state.e 25
  let choice := (state.e &&& state.f) ^^^ (~~~ state.e &&& state.g)
  let first := state.h + big1 + choice + constant + word
  let big0 := rotate state.a 2 ^^^ rotate state.a 13 ^^^ rotate state.a 22
  let majority :=
    (state.a &&& state.b) ^^^ (state.a &&& state.c) ^^^ (state.b &&& state.c)
  { a := first + (big0 + majority)
    b := state.a
    c := state.b
    d := state.c
    e := state.d + first
    f := state.e
    g := state.f
    h := state.g }

/-- A state with a block of sixty-four bytes taken in. -/
def compress (state : State) (block : Bytes) : State :=
  let words := (Bytes.blocks 4 block).map fun word => UInt32.ofNat word.toNat
  let scheduled := (schedule 48 words.reverse).reverse
  let worked := (roundConstants.zip scheduled).foldl
    (fun current (constant, word) => round current constant word) state
  state.add worked

/-- The message, a one bit, zeros and the bit length in eight bytes, a whole
number of blocks long. -/
def pad (message : Bytes) : Bytes :=
  let zeros := (119 - message.length % 64) % 64
  message ++ 0x80 :: List.replicate zeros 0 ++
    Bytes.ofNat 8 (8 * message.length)

/-- The bytes of a word, most significant byte first. -/
def wordBytes (word : UInt32) : Bytes :=
  Bytes.ofNat 4 word.toNat

/-- The SHA-256 digest of a message. -/
def hash (message : Bytes) : Octets 32 :=
  let state := (Bytes.blocks 64 (pad message)).foldl compress State.initial
  ⟨wordBytes state.a ++ wordBytes state.b ++ wordBytes state.c ++
      wordBytes state.d ++ wordBytes state.e ++ wordBytes state.f ++
      wordBytes state.g ++ wordBytes state.h,
    by simp [wordBytes]⟩

/-- The keyed digest HMAC-SHA256. -/
def hmac (key message : Bytes) : Octets 32 :=
  let short := if key.length ≤ 64 then key else (hash key).bytes
  let block := short ++ List.replicate (64 - short.length) 0
  let inner := hash (block.map (· ^^^ 0x36) ++ message)
  hash (block.map (· ^^^ 0x5c) ++ inner.bytes)

end OrderCustody.Sha256
