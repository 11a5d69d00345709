import RollupLedger.Bytes.Basic

/-!
An estimate of how small a compressor with a window of 8192 bytes makes a byte string. It scans for
runs of at least three bytes that occurred before, found through a table of where each hash of three
bytes was last seen, and counts what literal bytes and repeated runs cost to write.
-/

set_option autoImplicit false
set_option relaxedAutoImplicit false

namespace RollupLedger.CompressedSize

abbrev Table := Vector Nat 8192

def byteAt (raw : Array UInt8) (i : Nat) : Nat := (raw.getD i 0).toNat

/-- Three bytes as a little-endian number. -/
def three (raw : Array UInt8) (i : Nat) : Nat :=
  byteAt raw i + byteAt raw (i + 1) * 256 + byteAt raw (i + 2) * 65536

/-- Thirteen bits of a product that spreads three bytes over the table. -/
def slot (x : Nat) : Nat := x * 2654435769 % UInt64.size / 524288 % 8192

def seen (table : Table) (x : Nat) : Nat :=
  table.get ⟨slot x, Nat.mod_lt _ (by decide)⟩

def remember (table : Table) (x i : Nat) : Table :=
  table.set (slot x) i (Nat.mod_lt _ (by decide))

/-- The cost of literal bytes: one more for every 32 of them or part. -/
def literals (count : Nat) : Nat :=
  33 * (count / 32) + if count % 32 = 0 then 0 else count % 32 + 1

/-- The cost of a repeated run of `length` bytes more than three: three for every 262, and two or
three for the rest. -/
def repeated (length : Nat) : Nat :=
  3 * (length / 262) + if 6 ≤ length % 262 then 3 else 2

/-- How many of at most `left` bytes at `p` and at `q` are compared up to and including the first
that differ. -/
def matched (raw : Array UInt8) : (left p q : Nat) → Nat
  | 0, _, _ => 0
  | left + 1, p, q =>
    if byteAt raw p = byteAt raw q then matched raw left (p + 1) (q + 1) + 1 else 1

/-- The next place from `i` on, before the last one below `limit`, whose three bytes were seen
within the window, with the place where; the table then holds every place passed. -/
def nextRun (raw : Array UInt8) (limit : Nat) : (left i : Nat) → Table → Option (Nat × Nat × Table)
  | 0, _, _ => none
  | left + 1, i, table =>
    let x := three raw i
    let before := seen table x
    let table := remember table x i
    if limit ≤ i then none
    else if i - before < 8192 ∧ x = three raw before then
      if limit ≤ i + 1 then none else some (i, before, table)
    else nextRun raw limit left (i + 1) table

/-- The cost of the bytes from `anchor` on, scanning from `i`. -/
def costFrom (raw : Array UInt8) (limit : Nat) : (left i anchor : Nat) → Table → Nat
  | 0, _, anchor, _ => literals (raw.size - anchor)
  | left + 1, i, anchor, table =>
    match if i < limit then nextRun raw limit (limit + 1 - i) i table else none with
    | none => literals (raw.size - anchor)
    | some (i, before, table) =>
      let length := matched raw (limit + 9 - (i + 3)) (before + 3) (i + 3)
      let next := i + length
      let table := remember table (three raw next) next
      let table := remember table (three raw (next + 1)) (next + 1)
      literals (i - anchor) + repeated (length - 1) +
        costFrom raw limit left (next + 2) (next + 2) table

/-- The estimated size in bytes. -/
def estimate (bytes : Bytes) : Nat :=
  let raw := bytes.toArray
  costFrom raw (raw.size - 13) raw.size 2 0 (Vector.replicate 8192 0)

end RollupLedger.CompressedSize
