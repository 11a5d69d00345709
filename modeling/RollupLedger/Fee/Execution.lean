import RollupLedger.Chain
import RollupLedger.Wire.Receipt
import RollupLedger.Wire.SignedTransaction

/-!
The fee for executing a transaction, and how it divides into the base fee and the priority fee.
-/

set_option autoImplicit false
set_option relaxedAutoImplicit false

namespace RollupLedger.ExecutionFee

open Wire

/-- The price for each unit of gas that was paid. -/
def effectiveGasPrice (t : SignedTransaction) (receipt : Receipt) : Word 256 :=
  match receipt.effectiveGasPrice, t.gasPrice with
  | some price, _ => price
  | none, some price => price.widen
  | none, none => 0

def total (t : SignedTransaction) (receipt : Receipt) : Word 256 :=
  (receipt.gasUsed.widen : Word 256).satMul (effectiveGasPrice t receipt)

/-- The part of the fee that is the block's base fee, never more than the whole. -/
def base (t : SignedTransaction) (receipt : Receipt) (block : BlockContext) : Word 256 :=
  match block.baseFee with
  | some baseFee => (baseFee.satMul receipt.gasUsed.widen).least (total t receipt)
  | none => 0

/-- The part of the fee that is not base fee. -/
def priority (t : SignedTransaction) (receipt : Receipt) (block : BlockContext) : Word 256 :=
  (total t receipt).floorSub (base t receipt block)

end RollupLedger.ExecutionFee
