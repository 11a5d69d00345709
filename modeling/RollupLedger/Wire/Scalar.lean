import RollupLedger.Json.Decode
import RollupLedger.Bytes.Hex

/-!
The scalars in a node's JSON: quantities, hashes, addresses and byte strings. A quantity is read
from an integer or a text and written as the minimal hexadecimal text; byte strings are read from
hexadecimal text or an array of integers and written as lower-case hexadecimal text.
-/

set_option autoImplicit false
set_option relaxedAutoImplicit false

namespace RollupLedger.Wire

open Json

def encodeQuantity {bits : Nat} (word : Word bits) : Json := .str (Numeral.hex word.toNat)

/-- The number that an integer or a text denotes, whatever its size. -/
def quantity? (bits : Nat) : Json → Option (Word bits)
  | .int n => if n < 0 then none else Word.ofNat? bits n.toNat
  | .str s => Numeral.quantity? bits s
  | _ => none

def decodeQuantity (bits : Nat) : Decoder (Word bits) := fun value =>
  match quantity? bits value with
  | some word => pure word
  | none => mismatch (.wrongType value s!"a quantity of {bits} bits")

def encodeFixed {size : Nat} (fixed : FixedBytes size) : Json := .str fixed.hex

def decodeByte : Decoder UInt8 := fun value =>
  (fun word => UInt8.ofNat word.toNat) <$> decodeWord 8 value

/-- The bytes of an array that has exactly `size` of them. One more item that is no byte is passed
over. -/
def decodeFixedItems (size : Nat) (items : List Json) : Decoding (FixedBytes size) := do
  let bytes ← decodeItems decodeByte 0 (items.take size)
  match FixedBytes.ofBytes? size bytes, items.drop size with
  | none, _ => mismatch (.wrongLength bytes.length s!"exactly {size} bytes")
  | some fixed, [] => return fixed
  | some fixed, next :: rest =>
    match decodeByte next with
    | .decoded _ _ => mismatch (.wrongLength (size + 1) s!"exactly {size} bytes")
    | .failed failure =>
      Decoding.passOver (failure.under (.item size))
      if rest.isEmpty then return fixed
      else mismatch (.wrongLength items.length "fewer elements in array")

def decodeFixed (size : Nat) : Decoder (FixedBytes size)
  | .str s =>
    match Hex.readFixed size s with
    | .ok fixed => pure fixed
    | .error fault => mismatch (.unreadable fault.message)
  | .arr items => decodeFixedItems size items
  | got =>
    mismatch (.wrongType got
      (s!"{size} bytes, represented as a hex string of length {2 * size}, " ++
        "an array of u8, or raw bytes"))

def decodeAddress : Decoder Address := decodeFixed 20

def decodeHash : Decoder Hash := decodeFixed 32

def encodeBytes (bytes : Bytes) : Json := .str (Hex.write bytes)

def decodeBytes : Decoder Bytes
  | .str s =>
    match Hex.read s with
    | .ok bytes => pure bytes
    | .error _ => mismatch (.wrongValue (.str s) "a valid hex string")
  | .arr items => decodeItems decodeByte 0 items
  | got =>
    mismatch (.wrongType got
      "a variable number of bytes represented as a hex string, an array of u8, or raw bytes")

def encodeList {α : Type} (encode : α → Json) (items : List α) : Json := .arr (items.map encode)

def encodeWord {bits : Nat} (word : Word bits) : Json := .int word.toNat

end RollupLedger.Wire
