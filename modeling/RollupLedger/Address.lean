import RollupLedger.Bytes.Hex
import RollupLedger.Bytes.Keccak

/-!
Account addresses. Readers are shown the checksummed form, in which a letter is upper-case where the
digest of the lower-case digits has a half-byte of at least eight.
-/

set_option autoImplicit false
set_option relaxedAutoImplicit false

namespace RollupLedger.Address

/-- The half-bytes of a byte string, the higher half of each byte first. -/
def halves (bytes : Bytes) : List Nat := bytes.flatMap fun b => [b.toNat / 16, b.toNat % 16]

def checksummed (address : Address) : String :=
  let digits := Hex.digits address.bytes
  let marks := halves (Keccak.digest (String.ofList digits).toUTF8.toList).bytes
  String.ofList <| '0' :: 'x' ::
    List.zipWith (fun c mark => if 8 ≤ mark then c.toUpper else c) digits marks

def read (text : String) : Except HexFault Address := Hex.readFixed 20 text

end RollupLedger.Address
