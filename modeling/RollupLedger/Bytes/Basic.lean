import RollupLedger.Word

/-!
Byte strings as lists of bytes, byte strings of a fixed length, and the big-endian bytes of a
natural number.
-/

set_option autoImplicit false
set_option relaxedAutoImplicit false

namespace RollupLedger

abbrev Bytes := List UInt8

/-- A byte string of exactly `size` bytes. -/
structure FixedBytes (size : Nat) where
  bytes : Bytes
  length_eq : bytes.length = size
deriving DecidableEq

/-- A transaction, block or state root hash. -/
abbrev Hash := FixedBytes 32

abbrev Address := FixedBytes 20

namespace FixedBytes

variable {size : Nat}

@[ext] theorem ext {a b : FixedBytes size} (h : a.bytes = b.bytes) : a = b := by
  cases a; cases b; cases h; rfl

/-- The bytes, if there are exactly `size` of them. -/
def ofBytes? (size : Nat) (bytes : Bytes) : Option (FixedBytes size) :=
  if h : bytes.length = size then some ⟨bytes, h⟩ else none

def zero (size : Nat) : FixedBytes size := ⟨List.replicate size 0, List.length_replicate⟩

instance : Inhabited (FixedBytes size) := ⟨zero size⟩

theorem ofBytes?_bytes (a : FixedBytes size) : ofBytes? size a.bytes = some a := by
  simp [ofBytes?, a.length_eq]

end FixedBytes

namespace Bytes

/-- The big-endian bytes of a number without leading zeros; zero has none. -/
def ofNat (n : Nat) : Bytes :=
  if n = 0 then [] else ofNat (n / 256) ++ [UInt8.ofNat (n % 256)]
termination_by n
decreasing_by omega

/-- The number that big-endian bytes denote. -/
def toNat (bytes : Bytes) : Nat := bytes.foldl (fun n b => n * 256 + b.toNat) 0

end Bytes

end RollupLedger
