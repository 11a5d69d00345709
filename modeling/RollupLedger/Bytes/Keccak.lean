import RollupLedger.Bytes.Basic

/-!
The Keccak-256 digest: the sponge of rate 136 over the permutation of 25 lanes of 64 bits, with the
padding that begins with the byte 1.
-/

set_option autoImplicit false
set_option relaxedAutoImplicit false

namespace RollupLedger.Keccak

/-- The lane at column `x` and row `y` is entry `x + 5 * y`. -/
abbrev State := Vector UInt64 25

def lane (a : State) (i : Nat) : UInt64 := a.get ⟨i % 25, Nat.mod_lt _ (by decide)⟩

def rotateLeft (w : UInt64) (n : Nat) : UInt64 :=
  if n = 0 then w else (w <<< UInt64.ofNat n) ||| (w >>> UInt64.ofNat (64 - n))

/-- How far each lane is turned. -/
def turns : List Nat :=
  [0, 1, 62, 28, 27, 36, 44, 6, 55, 20, 3, 10, 43, 25, 39, 41, 45, 15, 21, 8, 18, 2, 61, 56, 14]

def roundConstants : List UInt64 :=
  [0x0000000000000001, 0x0000000000008082, 0x800000000000808a, 0x8000000080008000,
   0x000000000000808b, 0x0000000080000001, 0x8000000080008081, 0x8000000000008009,
   0x000000000000008a, 0x0000000000000088, 0x0000000080008009, 0x000000008000000a,
   0x000000008000808b, 0x800000000000008b, 0x8000000000008089, 0x8000000000008003,
   0x8000000000008002, 0x8000000000000080, 0x000000000000800a, 0x800000008000000a,
   0x8000000080008081, 0x8000000000008080, 0x0000000080000001, 0x8000000080008008]

/-- Adds to each lane the parities of two columns beside it. -/
def mixColumns (a : State) : State :=
  let parity : Vector UInt64 5 := Vector.ofFn fun x =>
    lane a x ^^^ lane a (x + 5) ^^^ lane a (x + 10) ^^^ lane a (x + 15) ^^^ lane a (x + 20)
  let column (x : Nat) : UInt64 := parity.get ⟨x % 5, Nat.mod_lt _ (by decide)⟩
  Vector.ofFn fun i => lane a i ^^^ column (i + 4) ^^^ rotateLeft (column (i + 1)) 1

/-- Turns every lane and moves it to its new place. -/
def turnAndMove (a : State) : State :=
  Vector.ofFn fun i =>
    let source := (i.val % 5 + 3 * (i.val / 5)) % 5 + 5 * (i.val % 5)
    rotateLeft (lane a source) (turns.getD source 0)

/-- Combines each lane with the two that follow it in its row. -/
def mixRows (a : State) : State :=
  Vector.ofFn fun i =>
    let row := 5 * (i.val / 5)
    lane a i ^^^ (~~~ lane a (row + (i.val + 1) % 5) &&& lane a (row + (i.val + 2) % 5))

def round (a : State) (constant : UInt64) : State :=
  let b := mixRows (turnAndMove (mixColumns a))
  b.set 0 (lane b 0 ^^^ constant)

def permute (a : State) : State := roundConstants.foldl round a

def rate : Nat := 136

/-- The message with its padding up to a multiple of the rate. -/
def pad (message : Bytes) : Bytes :=
  let missing := rate - message.length % rate
  if missing = 1 then message ++ [0x81]
  else message ++ 0x01 :: List.replicate (missing - 2) 0 ++ [0x80]

/-- The word whose little-endian bytes are given. -/
def wordOf (bytes : Bytes) : UInt64 :=
  bytes.foldr (fun b w => w <<< 8 ||| b.toUInt64) 0

/-- Adds a block of bytes to the first lanes and permutes. -/
def absorb (a : State) (block : Bytes) : State :=
  permute (Vector.ofFn fun i => lane a i ^^^ wordOf ((block.drop (8 * i.val)).take 8))

/-- The first `count` blocks of the rate's size. -/
def blocks : (count : Nat) → Bytes → List Bytes
  | 0, _ => []
  | count + 1, bytes => bytes.take rate :: blocks count (bytes.drop rate)

def squeeze (a : State) : FixedBytes 32 :=
  ⟨List.ofFn fun i : Fin 32 => (lane a (i.val / 8) >>> UInt64.ofNat (8 * (i.val % 8))).toUInt8,
    List.length_ofFn⟩

def digest (message : Bytes) : FixedBytes 32 :=
  let padded := pad message
  squeeze ((blocks (padded.length / rate) padded).foldl absorb (Vector.replicate 25 0))

end RollupLedger.Keccak
