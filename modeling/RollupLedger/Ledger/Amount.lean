import RollupLedger.Ledger.Basic
import RollupLedger.Numeral

/-!
Amounts as signed decimal numerals: a debit is written with a minus sign unless it is zero. Reading
splits a numeral into its sign and its magnitude.
-/

set_option autoImplicit false
set_option relaxedAutoImplicit false

namespace RollupLedger.Ledger

/-- A sign and a magnitude. -/
structure Signed where
  negative : Bool
  magnitude : Word 256
deriving DecidableEq

/-- The integer with this sign and magnitude. -/
def Signed.toInt (s : Signed) : Int :=
  if s.negative then -(s.magnitude.toNat : Int) else s.magnitude.toNat

namespace Amount

def credit (value : Word 256) (currency : Currency) : Amount := ⟨value.toDecimal, currency⟩

def debit (value : Word 256) (currency : Currency) : Amount :=
  ⟨if value.isZero then value.toDecimal else "-" ++ value.toDecimal, currency⟩

/-- The characters after a minus sign, and whether there was one. -/
def splitSign : List Char → Bool × List Char
  | '-' :: digits => (true, digits)
  | digits => (false, digits)

/-- Sign and magnitude, if the rest of the value after an optional minus sign is read as a decimal
numeral. -/
def signed? (amount : Amount) : Option Signed :=
  let (negative, digits) := splitSign amount.value.toList
  (Numeral.word? 256 10 digits).map (Signed.mk negative)

end Amount

end RollupLedger.Ledger
