import RollupLedger.Bytes.Basic
import RollupLedger.Numeral
import RollupLedger.Text.Quoted

/-!
Byte strings as hexadecimal text. Writing gives two lower-case digits a byte after `0x`. Reading
takes digits of either case after an optional `0x` or `0X`; a refusal names the first fault in this
order: an odd number of bytes in the whole text, a wrong number of digits, a character that is no
digit.
-/

set_option autoImplicit false
set_option relaxedAutoImplicit false

namespace RollupLedger

inductive HexFault where
  | oddLength
  | wrongLength
  | badDigit (byte : UInt8) (position : Nat)
deriving DecidableEq, Repr

namespace HexFault

/-- A byte that is no digit is shown as the character of the same number. -/
def message : HexFault → String
  | oddLength => "odd number of digits"
  | wrongLength => "invalid string length"
  | badDigit byte position =>
    s!"invalid character {Text.quotedOne (Char.ofNat byte.toNat)} at position {position}"

end HexFault

namespace Hex

def digitOf (n : Nat) : Char := Nat.digitChar n

/-- The two lower-case digits of a byte. -/
def pair (b : UInt8) : List Char := [digitOf (b.toNat / 16), digitOf (b.toNat % 16)]

def digits (bytes : Bytes) : List Char := bytes.flatMap pair

def write (bytes : Bytes) : String := String.ofList ('0' :: 'x' :: digits bytes)

/-- The text's bytes after an optional `0x` or `0X`. -/
def strip : Bytes → Bytes
  | 0x30 :: 0x78 :: rest => rest
  | 0x30 :: 0x58 :: rest => rest
  | text => text

def digit? (b : UInt8) : Option Nat := Numeral.digit? 16 (Char.ofNat b.toNat)

/-- Reads pairs of digits, the first of which stands at `position`. -/
def readPairs (position : Nat) : Bytes → Except HexFault Bytes
  | [] => .ok []
  | [_] => .error .oddLength
  | a :: b :: rest =>
    match digit? a with
    | none => .error (.badDigit a position)
    | some high =>
      match digit? b with
      | none => .error (.badDigit b (position + 1))
      | some low => (readPairs (position + 2) rest).map (UInt8.ofNat (high * 16 + low) :: ·)

/-- Any number of bytes. -/
def read (text : String) : Except HexFault Bytes :=
  let whole := text.toUTF8.toList
  if whole.length % 2 = 1 then .error .oddLength else readPairs 0 (strip whole)

/-- Exactly `size` bytes. -/
def readFixed (size : Nat) (text : String) : Except HexFault (FixedBytes size) :=
  let whole := text.toUTF8.toList
  if whole.length % 2 = 1 then .error .oddLength
  else if (strip whole).length = 2 * size then
    match readPairs 0 (strip whole) with
    | .error fault => .error fault
    | .ok bytes =>
      match FixedBytes.ofBytes? size bytes with
      | some fixed => .ok fixed
      | none => .error .wrongLength
  else .error .wrongLength

end Hex

namespace FixedBytes

def hex {size : Nat} (a : FixedBytes size) : String := Hex.write a.bytes

end FixedBytes

end RollupLedger
