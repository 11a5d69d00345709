import RollupLedger.Client.Block

/-!
# What is asked for a block

Four sorts of questions are asked for a block (`Question`): for the block itself with its
transactions in full, for an uncle at its place, and for the receipt and the trace of a transaction.
`Question.call` says by which method and with which parameters each is asked, in terms of bytes and
numbers alone. The client asks its questions in just this way (`BlockAssembly.lookup_eq`,
`uncleCalls_eq`, `receiptCalls_eq`, `traceCall_eq`).
-/

set_option autoImplicit false
set_option relaxedAutoImplicit false

namespace RollupLedger

/-- What is asked of a node for a block. -/
inductive Question where
  | block (reference : BlockReference)
  | uncle (holder : Hash) (place : Nat)
  | receipt (transaction : Hash)
  | trace (transaction : Hash) (timeout : String)
deriving DecidableEq

namespace Question

/-- Bytes as they are sent: after a mark, the two digits of each in base sixteen. -/
def textOf (bytes : Bytes) : String :=
  "0x" ++ String.ofList
    (bytes.flatMap fun b ↦ [Nat.digitChar (b.toNat / 16), Nat.digitChar (b.toNat % 16)])

/-- A number as it is sent: after a mark, its digits in base sixteen. -/
def numeralOf (n : Nat) : String := "0x" ++ String.ofList (Nat.toDigits 16 n)

/-- The call by which a question is asked. A block is asked for by its hash or by its number, the
latest by that word, and always with its transactions in full. -/
def call : Question → Call
  | block (.byHash hash) =>
    ⟨"eth_getBlockByHash", .arr [.str (textOf hash.bytes), .bool true]⟩
  | block (.byNumber number) =>
    ⟨"eth_getBlockByNumber", .arr [.str (numeralOf number.toNat), .bool true]⟩
  | block .latest => ⟨"eth_getBlockByNumber", .arr [.str "latest", .bool true]⟩
  | uncle holder place =>
    ⟨"eth_getUncleByBlockHashAndIndex", .arr [.str (textOf holder.bytes), .str (numeralOf place)]⟩
  | receipt transaction => ⟨"eth_getTransactionReceipt", .arr [.str (textOf transaction.bytes)]⟩
  | trace transaction timeout =>
    ⟨"debug_traceTransaction", .arr [.str (textOf transaction.bytes),
      .obj [("timeout", .str timeout), ("tracer", .str "callTracer")]]⟩

theorem textOf_eq {size : Nat} (fixed : FixedBytes size) :
    Json.str (textOf fixed.bytes) = Wire.encodeFixed fixed := by
  refine congrArg Json.str (String.toList_inj.mp ?_)
  simp only [textOf, FixedBytes.hex, Hex.write, String.toList_append, String.toList_ofList]
  rfl

end Question

namespace BlockAssembly

open Wire

theorem lookup_eq (reference : BlockReference) :
    lookup reference = (Question.block reference).call := by
  cases reference with
  | byHash hash => rw [lookup, Question.call, Question.textOf_eq]
  | byNumber number => rfl
  | latest => rfl

theorem uncleCalls_eq (header : Header) :
    uncleCalls header = (List.range header.uncles.length).map fun place ↦
      (Question.uncle header.hash place).call := by
  simp only [uncleCalls, Question.call, Question.textOf_eq]
  rfl

theorem receiptCalls_eq (txs : List SignedTransaction) :
    receiptCalls txs = txs.map fun t ↦ (Question.receipt t.hash).call := by
  simp only [receiptCalls, Question.call, Question.textOf_eq]
  rfl

theorem traceCall_eq (client : Client) (t : SignedTransaction) :
    traceCall client t = (Question.trace t.hash client.traceTimeout).call := by
  have hsorted : "timeout" < "tracer" := by decide
  rw [traceCall, Question.call, Question.textOf_eq, traceMethod, Json.ofMembers]
  simp only [List.foldl_cons, List.foldl_nil, Json.insertMember, if_pos hsorted]

theorem map_traceCall (client : Client) (txs : List SignedTransaction) :
    txs.map (traceCall client) =
      txs.map fun t ↦ (Question.trace t.hash client.traceTimeout).call :=
  List.map_congr_left fun t _ ↦ traceCall_eq client t

end BlockAssembly

end RollupLedger
