import RollupLedger.Bytes.Basic

/-!
Recursive length prefixes: byte strings and lists of items, each written after its length. A single
byte below 128 stands for itself.
-/

set_option autoImplicit false
set_option relaxedAutoImplicit false

namespace RollupLedger.Envelope

inductive Rlp where
  | bytes (content : Bytes)
  | list (items : List Rlp)

namespace Rlp

/-- A length after a base that tells strings from lists: short lengths are added to the base, longer
ones are counted in bytes. -/
def header (base length : Nat) : Bytes :=
  if length < 56 then [UInt8.ofNat (base + length)]
  else
    let size := Bytes.ofNat length
    UInt8.ofNat (base + 55 + size.length) :: size

def encodeBytes (content : Bytes) : Bytes :=
  match content with
  | [b] => if b.toNat < 128 then [b] else header 128 1 ++ [b]
  | content => header 128 content.length ++ content

mutual

def encode : Rlp → Bytes
  | bytes content => encodeBytes content
  | list items => header 192 (encodeAll items).length ++ encodeAll items

/-- The items one after the other. -/
def encodeAll : List Rlp → Bytes
  | [] => []
  | item :: rest => encode item ++ encodeAll rest

end

/-- A number as its big-endian bytes; zero is the empty string. -/
def nat (n : Nat) : Rlp := bytes (Bytes.ofNat n)

def word {bits : Nat} (w : Word bits) : Rlp := nat w.toNat

def fixed {size : Nat} (f : FixedBytes size) : Rlp := bytes f.bytes

end Rlp

end RollupLedger.Envelope
