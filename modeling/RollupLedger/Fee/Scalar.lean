import RollupLedger.Numeral
import RollupLedger.Text.Blank

/-!
Fee scalars: decimal numerals such as `0.684`, kept with six decimals as the integer 684000.
-/

set_option autoImplicit false
set_option relaxedAutoImplicit false

namespace RollupLedger.FeeScalar

def decimals : Nat := 6

/-- The characters before the first point and those after it. -/
def splitPoint (cs : List Char) : List Char × List Char :=
  (cs.takeWhile (· ≠ '.'), (cs.dropWhile (· ≠ '.')).drop 1)

def isDigit (c : Char) : Bool := '0' ≤ c && c ≤ '9'

/-- The first six digits of a fraction, filled up with zeros. -/
def firstDecimals (fraction : List Char) : List Char :=
  (fraction ++ List.replicate decimals '0').take decimals

/-- A numeral of digits with at most one point, and blanks around it, without the digits after the
sixth decimal. The part before the point must fit; a result that does not is the largest word. -/
def parse (text : String) : Option (Word 256) :=
  let (whole, fraction) := splitPoint (Text.trim text.toList)
  if whole.isEmpty && fraction.isEmpty then none
  else if !(whole ++ fraction).all isDigit then none
  else
    match Numeral.word? 256 10 whole, Numeral.word? 256 10 (firstDecimals fraction) with
    | some whole, some fraction => some ((whole.satMul 1000000).satAdd fraction)
    | _, _ => none

end RollupLedger.FeeScalar
