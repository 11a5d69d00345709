import RollupLedger.Client.Basic
import RollupLedger.Client.Reference
import RollupLedger.Flatten.Basic
import RollupLedger.Ledger.Wire
import RollupLedger.Wire.Header

/-!
A block of the ledger, assembled from what the node says of it. The block comes first, with its
transaction bodies; then its uncles in one batch, if it has any; then at once the receipts, in one
batch, and the traces, each admitted through the gate. A receipt or a trace that is missing fails
the whole block. The block of number zero is neither traced nor preceded by another.
-/

set_option autoImplicit false
set_option relaxedAutoImplicit false

namespace RollupLedger.BlockAssembly

open Ledger Wire Trace

def uncleMethod : String := "eth_getUncleByBlockHashAndIndex"

def receiptMethod : String := "eth_getTransactionReceipt"

/-- The call that looks a block up with full transaction bodies. -/
def lookup : BlockReference → Call
  | .byHash hash => ⟨"eth_getBlockByHash", .arr [encodeFixed hash, .bool true]⟩
  | .byNumber number =>
    ⟨"eth_getBlockByNumber", .arr [.str (Numeral.hex number.toNat), .bool true]⟩
  | .latest => ⟨"eth_getBlockByNumber", .arr [.str "latest", .bool true]⟩

/-! ### Uncles -/

def uncleCalls (header : Header) : List Call :=
  (List.range header.uncles.length).map fun index =>
    ⟨uncleMethod, .arr [encodeFixed header.hash, .str (Numeral.hex index)]⟩

def uncleOf (header : Header) (hash : Hash) (reply : CallReply) : Except ClientError Header := do
  let value ← replyValue uncleMethod reply
  if value.isNull then .error (.incomplete header.hash (.uncle hash))
  else decodeAs (.uncle hash) Header.decode value

/-- The uncles of a block, matched by their places. -/
def unclesOf (header : Header) (reply : BatchReply) : Except ClientError (List Header) := do
  let replies ← batchReplies uncleMethod header.uncles.length reply
  (header.uncles.zip replies).mapM fun (hash, reply) => uncleOf header hash reply

/-! ### Receipts -/

def receiptCalls (txs : List SignedTransaction) : List Call :=
  txs.map fun t => ⟨receiptMethod, .arr [encodeFixed t.hash]⟩

/-- A receipt with the JSON it was read from. -/
structure RawReceipt where
  receipt : Receipt
  raw : Json
deriving DecidableEq

/-- What one reply says, if it is not null. -/
def receiptOf (t : SignedTransaction) (reply : CallReply) :
    Except ClientError (Option RawReceipt) := do
  let value ← replyValue receiptMethod reply
  if value.isNull then return none
  else
    let receipt ← decodeAs (.receipt t.hash) Receipt.decode value
    return some ⟨receipt, value⟩

/-- The last receipt for a transaction among those received, and the receipts for others. -/
def takeReceipt (hash : Hash) (received : List RawReceipt) : Option RawReceipt × List RawReceipt :=
  (received.reverse.find? (·.receipt.transactionHash == hash),
    received.filter (·.receipt.transactionHash != hash))

/-- Gives each transaction its receipt; one receipt serves one transaction. -/
def matchReceipts (block : Hash) : List SignedTransaction → List RawReceipt →
    Except ClientError (List RawReceipt)
  | [], _ => .ok []
  | t :: rest, received =>
    match takeReceipt t.hash received with
    | (none, _) => .error (.incomplete block (.receipt t.hash))
    | (some receipt, others) => (matchReceipts block rest others).map (receipt :: ·)

/-- The receipts of transactions in their order, whatever the order of the replies. -/
def receiptsOf (block : Hash) (txs : List SignedTransaction) (replies : List CallReply) :
    Except ClientError (List RawReceipt) := do
  let received ← (txs.zip replies).mapM fun (t, reply) => receiptOf t reply
  matchReceipts block txs (received.filterMap id)

/-- The receipts that the replies of the left lane bring: one batch, or none for no transactions. -/
def receiptsOfLane (block : Hash) (txs : List SignedTransaction) :
    List BatchReply → Except ClientError (List RawReceipt)
  | [] => receiptsOf block txs []
  | reply :: _ => do receiptsOf block txs (← batchReplies receiptMethod txs.length reply)

/-! ### Traces -/

def traceCall (client : Client) (t : SignedTransaction) : Call :=
  ⟨traceMethod, .arr [encodeFixed t.hash,
    .ofMembers [("tracer", .str "callTracer"), ("timeout", .str client.traceTimeout)]]⟩

/-- A list in consecutive pieces of at most `size` items. -/
def chunks {α : Type} (size : Nat) (items : List α) : List (List α) :=
  match items with
  | [] => []
  | item :: rest =>
    (item :: rest.take (size - 1)) :: chunks size (rest.drop (size - 1))
termination_by items.length
decreasing_by simp only [List.length_drop, List.length_cons]; omega

/-- The traces are asked for one by one or in batches of the gate's capacity; each trace costs a
unit. -/
def traceJobs (client : Client) (txs : List SignedTransaction) : List Job :=
  let calls := txs.map (traceCall client)
  if client.batchTraces then
    (chunks client.capacity calls).map fun piece => ⟨some piece.length, true, piece⟩
  else calls.map fun call => ⟨some 1, false, [call]⟩

/-- The values that a job's reply brings. -/
def traceValues (job : Job) (reply : BatchReply) : Except ClientError (List Json) := do
  let replies ← batchReplies traceMethod job.calls.length reply
  replies.mapM (replyValue traceMethod)

/-- A call trace with the JSON it was read from. -/
structure RawTrace where
  arena : Arena
  raw : Json
deriving DecidableEq

def traceOf (block : Hash) (t : SignedTransaction) (value : Json) : Except ClientError RawTrace :=
  if value.isNull then .error (.incomplete block (.trace t.hash))
  else do
    let frame ← decodeAs (.trace t.hash) CallFrame.decode value
    let arena ← (Arena.ofFrame frame).mapError .flatten
    return ⟨arena, value⟩

/-- The traces of transactions in their order. They are examined after all have been received. -/
def tracesOf (client : Client) (block : Hash) (txs : List SignedTransaction)
    (replies : List BatchReply) : Except ClientError (List RawTrace) := do
  let values ← ((traceJobs client txs).zip replies).mapM fun (job, reply) => traceValues job reply
  (txs.zip values.flatten).mapM fun (t, value) => traceOf block t value

/-! ### The two lanes -/

def errorOf? {α : Type} : Except ClientError α → Option ClientError
  | .ok _ => none
  | .error e => some e

def receiptLane (block : Hash) (txs : List SignedTransaction) : Lane where
  jobs := if txs.isEmpty then [] else [⟨none, true, receiptCalls txs⟩]
  reject _ _ := none
  close replies := errorOf? (receiptsOfLane block txs replies)

def traceLane (client : Client) (block : Hash) (txs : List SignedTransaction) : Lane where
  jobs := traceJobs client txs
  reject job reply := errorOf? (traceValues job reply)
  close replies := errorOf? (tracesOf client block txs replies)

/-! ### The block -/

def blockContext (header : Header) : BlockContext :=
  ⟨header.miner, header.baseFeePerGas, header.timestamp⟩

/-- The member of the block's metadata that lists its uncles, if it has any. -/
def uncleMembers (uncles : List Header) : Json.Members :=
  if uncles.isEmpty then []
  else
    [("uncles", .arr (uncles.zipIdx.map fun (uncle, index) =>
      .ofMembers [("index", .nat index), ("hash", encodeFixed uncle.hash),
        ("number", encodeWord uncle.number), ("miner", .str uncle.miner.checksummed)]))]

/-- Members in ascending order of their keys. -/
def sortedMembers (members : Json.Members) : Json.Members :=
  members.foldl (fun acc m => Json.insertMember m.1 m.2 acc) []

def blockMetadata (header : Header) (uncles : List Header) : Json.Members :=
  sortedMembers <|
    [("state_root", encodeFixed header.stateRoot),
      ("transactions_root", encodeFixed header.transactionsRoot),
      ("receipts_root", encodeFixed header.receiptsRoot),
      ("difficulty", encodeQuantity header.difficulty),
      ("gas_limit", encodeQuantity header.gasLimit), ("gas_used", encodeQuantity header.gasUsed)] ++
    Json.optional "base_fee" encodeQuantity header.baseFeePerGas ++
    [("miner", .str header.miner.checksummed)] ++ uncleMembers uncles

def transactionMetadata (t : SignedTransaction) (receipt : RawReceipt) (trace : RawTrace) :
    Json.Members :=
  sortedMembers <|
    [("gas_limit", encodeQuantity t.gas)] ++ Json.optional "gas_price" encodeQuantity t.gasPrice ++
    [("effective_gas_price", encodeQuantity (ExecutionFee.effectiveGasPrice t receipt.receipt)),
      ("type", encodeQuantity t.kind), ("receipt", receipt.raw), ("trace", trace.raw)]

def transaction (chain : Chain) (context : BlockContext) (t : SignedTransaction)
    (receipt : RawReceipt) (trace : RawTrace) : Except ClientError Transaction := do
  let operations ←
    (Flatten.flatten t receipt.receipt trace.arena context chain).mapError .flatten
  return ⟨t.hash.hex, operations, some (transactionMetadata t receipt trace)⟩

def transactions (chain : Chain) (context : BlockContext) (txs : List SignedTransaction)
    (receipts : List RawReceipt) (traces : List RawTrace) : Except ClientError (List Transaction) :=
  (txs.zip (receipts.zip traces)).mapM fun (t, receipt, trace) =>
    transaction chain context t receipt trace

/-- What there is to note about the fees of transactions, up to the first that cannot be
flattened. -/
def feeEvents (chain : Chain) (context : BlockContext) :
    List (SignedTransaction × RawReceipt × RawTrace) → List Event
  | [] => []
  | (t, receipt, trace) :: rest =>
    (Flatten.remarks t receipt.receipt context chain).map .fee ++
      match transaction chain context t receipt trace with
      | .error _ => []
      | .ok _ => feeEvents chain context rest

/-- Writes a block as JSON and reads it again, as whoever receives it does. -/
def reread (block : Block) : Except ClientError Block :=
  decodeAs .assembled Block.decode block.encode

/-- The block that the parts make. -/
def assembled (header : Header) (uncles : List Header) (parent : BlockIdentifier)
    (transactions : List Transaction) : Block where
  identifier := ⟨header.number, header.hash.hex⟩
  parent := parent
  timestamp := header.timestampMillis
  transactions := transactions
  metadata := some (blockMetadata header uncles)

/-- The identifier of the block before one that is not the first. -/
def parentOf (header : Header) : BlockIdentifier :=
  ⟨header.number.floorSub 1, header.parentHash.hex⟩

/-- What is left to do when the uncles are known. -/
def bodyPlan {rounds : Nat} (client : Client) (block : NodeBlock) (uncles : List Header) :
    Plan Block (rounds + 1) :=
  let header := block.header
  let txs := block.transactions
  if header.number.isZero then
    .done (reread (assembled header uncles ⟨0, header.hash.hex⟩ []))
  else
    .both (receiptLane header.hash txs) (traceLane client header.hash txs) fun left right =>
      .andThen (receiptsOfLane header.hash txs left) fun receipts =>
      .andThen (tracesOf client header.hash txs right) fun traces =>
      .notes (feeEvents client.chain (blockContext header) (txs.zip (receipts.zip traces))) <|
      .andThen (transactions client.chain (blockContext header) txs receipts traces) fun made =>
      .done (reread (assembled header uncles (parentOf header) made))

/-- What is left to do when the block is known. -/
def unclePlan (client : Client) (block : NodeBlock) : Plan Block 2 :=
  if block.header.uncles.isEmpty then bodyPlan client block []
  else
    .batch (uncleCalls block.header) fun reply =>
      .andThen (unclesOf block.header reply) fun uncles => bodyPlan client block uncles

/-- The block that a request names. -/
def plan (client : Client) (requested : Option PartialBlockIdentifier) : Plan Block 3 :=
  .andThen (BlockReference.read requested) fun reference =>
  .ask (lookup reference) fun value =>
    if value.isNull then .fail .notFound
    else
      .andThen (decodeAs (.block (BlockReference.describe requested)) NodeBlock.decode value)
        fun block =>
      .andThen (BlockReference.check requested block.header.number) fun _ =>
      .note (.fetchedBlock block.header.number block.transactions.length) (unclePlan client block)

end RollupLedger.BlockAssembly
