import RollupLedger.Envelope.Basic
import RollupLedger.Text.Quoted

/-!
Why a transaction cannot be flattened.
-/

set_option autoImplicit false
set_option relaxedAutoImplicit false

namespace RollupLedger

inductive FlattenError where
  | envelope (transaction : Hash) (fault : Envelope.Fault)
  | unknownFrameKind (type : String)
  | receiptMismatch (transaction receipt : Hash)
  | invalidFeeScalar (scalar : String)
deriving DecidableEq

namespace FlattenError

def message : FlattenError → String
  | envelope transaction fault =>
    s!"transaction {transaction.hex} can't be serialized: {fault.message}"
  | unknownFrameKind type => "unknown call frame type " ++ Text.quoted type
  | receiptMismatch transaction receipt =>
    s!"receipt for {receipt.hex} was supplied for transaction {transaction.hex}"
  | invalidFeeScalar scalar => "invalid l1 fee scalar " ++ Text.quoted scalar

end FlattenError

end RollupLedger
