import RollupLedger.Fee.Data
import RollupLedger.Fee.Execution
import RollupLedger.Flatten.Posting
import RollupLedger.Trace.Arena

/-!
From a transaction, its receipt and its call tree to an ordered list of operations on balances, in
three parts: the minting of a deposit; a posting for each frame that moves value, in pre-order; and
the fees, for the execution and for publishing the data.

A frame that failed is still reported, as is everything beneath it: a frame without an error of its
own has that of the nearest frame above it which has one.
-/

set_option autoImplicit false
set_option relaxedAutoImplicit false

namespace RollupLedger.Flatten

open Ledger Trace Wire

/-- The error of the outermost call where the receipt says that the transaction failed and the trace
does not say why. -/
def reverted : String := "execution reverted"

/-- The error that a node itself gives: its own, or for the first node that of the receipt. -/
def ownError (succeeded : Bool) (index : Nat) (node : Node) : Option String :=
  match node.frame.error with
  | some error => some error
  | none => if index = 0 ∧ ¬ succeeded then some reverted else none

/-- A node's own error, else that of its parent among the errors so far. -/
def effectiveError (succeeded : Bool) (errors : Array (Option String)) (node : Node) :
    Option String :=
  match ownError succeeded errors.size node, node.parent with
  | some error, _ => some error
  | none, some parent => (errors[parent]?).join
  | none, none => none

/-- The errors of nodes in order, after those of the nodes before them. -/
def effectiveErrors (succeeded : Bool) : (before : Array (Option String)) → List Node →
    List (Option String)
  | _, [] => []
  | before, node :: rest =>
    let error := effectiveError succeeded before node
    error :: effectiveErrors succeeded (before.push error) rest

/-- What a frame moves, if its kind is reported and it moves value or is reported in any case. -/
def framePosting? (frame : Frame) (error : Option String) : Option Posting :=
  match frame.kind.operationType? with
  | none => none
  | some type =>
    if frame.value.isZero && !frame.kind.alwaysEmitted then none
    else
      some ⟨type, error, some ⟨frame.caller, frame.value⟩,
        frame.callee.toList.map fun callee => ⟨callee, frame.value⟩⟩

def callPostings (arena : Arena) (succeeded : Bool) : List Posting :=
  (arena.nodes.zip (effectiveErrors succeeded #[] arena.nodes)).filterMap fun (node, error) =>
    framePosting? node.frame error

def mintPostings (t : SignedTransaction) : List Posting :=
  match t.mint.bind Word.nonzero? with
  | some mint => [⟨.mint, none, none, [⟨t.sender, mint⟩]⟩]
  | none => []

/-- A successful posting from one account, unless nothing is taken from it; credits of nothing are
left out. -/
def feePosting (type : OperationType) (payer : Address) (paid : Word 256) (credits : List Side) :
    List Posting :=
  if paid.isZero then []
  else [⟨type, none, some ⟨payer, paid⟩, credits.filter fun side => !side.value.isZero⟩]

/-- The fee for the execution. The priority fee goes to the block's miner, and the base fee to its
vault or, without one, out of circulation. -/
def executionPostings (t : SignedTransaction) (receipt : Receipt) (block : BlockContext)
    (chain : Chain) : List Posting :=
  let base := ExecutionFee.base t receipt block
  let priority := ExecutionFee.priority t receipt block
  match chain.baseFeeVault with
  | some vault =>
    feePosting .fee t.sender (ExecutionFee.total t receipt) [⟨block.miner, priority⟩, ⟨vault, base⟩]
  | none =>
    feePosting .fee t.sender priority [⟨block.miner, priority⟩] ++
      feePosting .burn t.sender base []

def dataFeePostings (t : SignedTransaction) (chain : Chain) (fee : Option (Word 256)) :
    List Posting :=
  match fee with
  | some fee => feePosting .l1Fee t.sender fee [⟨chain.l1FeeVault, fee⟩]
  | none => []

/-- All fees of a transaction. Deposits pay none. -/
def feePostings (t : SignedTransaction) (receipt : Receipt) (block : BlockContext) (chain : Chain) :
    Except FlattenError (List Posting) :=
  if t.isDeposit then .ok []
  else do
    let fee ← DataFee.assess t receipt block chain
    return executionPostings t receipt block chain ++ dataFeePostings t chain fee

/-- The postings of a transaction, if the receipt is its own. -/
def postings (t : SignedTransaction) (receipt : Receipt) (arena : Arena) (block : BlockContext)
    (chain : Chain) : Except FlattenError (List Posting) :=
  if receipt.transactionHash ≠ t.hash then .error (.receiptMismatch t.hash receipt.transactionHash)
  else do
    let fees ← feePostings t receipt block chain
    return mintPostings t ++ callPostings arena receipt.succeeded ++ fees

/-- The operations of a transaction. -/
def flatten (t : SignedTransaction) (receipt : Receipt) (arena : Arena) (block : BlockContext)
    (chain : Chain) : Except FlattenError (List Operation) := do
  let postings ← postings t receipt arena block chain
  return numbered chain.currency 0 postings

/-- What there is to note about a transaction's fees. -/
def remarks (t : SignedTransaction) (receipt : Receipt) (block : BlockContext) (chain : Chain) :
    List DataFee.Remark :=
  if receipt.transactionHash ≠ t.hash then [] else DataFee.remarks t receipt block chain

end RollupLedger.Flatten
