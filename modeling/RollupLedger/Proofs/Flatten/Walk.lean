import RollupLedger.Proofs.Bytes.Address
import RollupLedger.Proofs.Flatten.ErrorTable
import RollupLedger.Proofs.Flatten.Postings

/-!
# Calls are reported in the order of the walk

The operations of a flattened transaction between the minting and the fees are those that the plain
walk of its call tree reports one frame after another (`flatten_eq_walk`). What the walk reports of
a frame is said here in its own terms: `reportedType?` says of each kind what it is reported as,
`visitOperation` is a single debit or credit, and `reportedFrom` numbers what the visits report.

The bridge is `callPostings_eq`: the postings that the index loop makes of the nodes are those of
the visits, because the table of errors holds the errors of the walk.
-/

set_option autoImplicit false
set_option relaxedAutoImplicit false

namespace RollupLedger.Flatten

open Ledger Trace Wire

/-! ### What the walk reports -/

/-- What a frame is reported as. Delegated and static calls and calls of foreign code are not
reported, and neither is a call that moves nothing. -/
def reportedType? (kind : CallKind) (value : Word 256) : Option OperationType :=
  match kind with
  | .delegateCall => none
  | .staticCall => none
  | .callCode => none
  | .call => if value.toNat = 0 then none else some .call
  | .create => some .create
  | .create2 => some .create2
  | .selfDestruct => some .destruct

/-- One side of a visited frame, with `sign` before its value. A value of zero is left out, and an
error makes it a failure. -/
def visitOperation (currency : Currency) (visit : Visit) (type : OperationType) (index : Nat)
    (related : Option (List (Word 64))) (holder : Address) (sign : String) : Operation where
  index := .wrap 64 index
  related := related
  type := type
  status := match visit.error with
    | some _ => .failure
    | none => .success
  account := some ⟨holder.checksummed⟩
  amount :=
    if visit.value.toNat = 0 then none else some ⟨sign ++ toString visit.value.toNat, currency⟩
  metadata := match visit.error with
    | some error => some [("error", .str error)]
    | none => none

/-- The debit of a visited frame and, if it has a recipient, the credit that names the debit. -/
def visitOperations (currency : Currency) (index : Nat) (visit : Visit) : List Operation :=
  match visit.kind?.bind (reportedType? · visit.value) with
  | none => []
  | some type =>
    visitOperation currency visit type index none visit.body.caller "-" ::
      match visit.body.callee with
      | none => []
      | some callee =>
        [visitOperation currency visit type (index + 1) (some [.wrap 64 index]) callee ""]

/-- What visits report one after another, numbered from `index` on. -/
def reportedFrom (currency : Currency) : (index : Nat) → List Visit → List Operation
  | _, [] => []
  | index, visit :: rest =>
    visitOperations currency index visit ++
      reportedFrom currency (index + (visitOperations currency index visit).length) rest

/-- The error of the outermost frame of a transaction whose receipt has the status zero. -/
def receiptError (receipt : Receipt) : Option String :=
  if receipt.status = some 0 then some "execution reverted" else none

/-- The operation that mints, if anything is minted. -/
def mintOperations (currency : Currency) (t : SignedTransaction) : List Operation :=
  match t.mint with
  | none => []
  | some mint =>
    if mint.toNat = 0 then []
    else
      [{ index := 0, related := none, type := .mint, status := .success,
         account := some ⟨t.sender.checksummed⟩, amount := some ⟨toString mint.toNat, currency⟩,
         metadata := none }]

/-! ### Postings of visits -/

/-- The posting of a visited frame. -/
def visitPosting? (visit : Visit) : Option Posting :=
  visit.frame?.bind (framePosting? · visit.error)

theorem filterMap_zip_framePosting? (nodes : List Node) (visits : List Visit)
    (hframes : visits.map Visit.frame? = nodes.map (some ·.frame)) :
    ((nodes.zip (visits.map Visit.error)).filterMap fun (node, error) ↦
        framePosting? node.frame error) = visits.filterMap visitPosting? := by
  induction visits generalizing nodes with
  | nil => simp
  | cons visit rest ih =>
    cases nodes with
    | nil => simp at hframes
    | cons node others =>
      simp only [List.map_cons, List.cons.injEq] at hframes
      obtain ⟨hframe, hothers⟩ := hframes
      have hposting : visitPosting? visit = framePosting? node.frame visit.error := by
        simp [visitPosting?, hframe]
      simp only [List.map_cons, List.zip_cons_cons, List.filterMap_cons, ih others hothers,
        hposting]

theorem inherited_root (receipt : Receipt) :
    inherited receipt.succeeded #[] none = receiptError receipt := by
  unfold inherited receiptError Receipt.succeeded
  cases hstatus : receipt.status with
  | none => simp
  | some status =>
    have hzero : status.isZero = true ↔ status = 0 := by
      rw [Word.isZero, beq_iff_eq]
      exact ⟨fun h ↦ Word.ext h, fun h ↦ h ▸ rfl⟩
    by_cases h : status = 0
    · simp [h, reverted, Word.isZero]
      rfl
    · have hfalse : status.isZero = false := by
        rw [← Bool.not_eq_true, hzero]
        exact h
      simp [h, hfalse]

/-- The postings of the nodes are those of the walk. -/
theorem callPostings_eq {frame : CallFrame} {tree : CallTree}
    (htree : CallTree.ofFrame frame = .ok tree) (receipt : Receipt) :
    callPostings (.ofTree tree) receipt.succeeded =
      (walk (receiptError receipt) frame).filterMap visitPosting? := by
  have herrors := @effectiveErrors_nodesFrom receipt.succeeded frame none tree htree #[] []
  rw [inherited_root] at herrors
  simp only [Array.size_empty, List.append_nil, effectiveErrors] at herrors
  rw [callPostings, Arena.ofTree, herrors]
  exact filterMap_zip_framePosting? _ _ (map_frame?_walk frame _ htree 0 none)

/-! ### Operations of visits -/

variable (currency : Currency)

/-- The posting of a visit whose frame is of the given kind. -/
theorem framePosting?_ofBody (kind : CallKind) (visit : Visit) :
    framePosting? (.ofBody kind visit.body) visit.error =
      (reportedType? kind visit.value).map fun type ↦
        ⟨type, visit.error, some ⟨visit.body.caller, visit.value⟩,
          visit.body.callee.toList.map fun callee ↦ ⟨callee, visit.value⟩⟩ := by
  have hvalue : visit.body.value.getD 0 = visit.value := rfl
  unfold framePosting? reportedType?
  cases kind with
  | call =>
    by_cases hzero : visit.value.toNat = 0
    · simp [Frame.ofBody, CallKind.operationType?, CallKind.alwaysEmitted, Word.isZero, hvalue,
        hzero]
    · simp [Frame.ofBody, CallKind.operationType?, CallKind.alwaysEmitted, Word.isZero, hvalue,
        hzero]
  | callCode => rfl
  | delegateCall => rfl
  | staticCall => rfl
  | create => simp [Frame.ofBody, CallKind.operationType?, CallKind.alwaysEmitted, hvalue]
  | create2 => simp [Frame.ofBody, CallKind.operationType?, CallKind.alwaysEmitted, hvalue]
  | selfDestruct => simp [Frame.ofBody, CallKind.operationType?, CallKind.alwaysEmitted, hvalue]

theorem amount_debit (value : Word 256) :
    value.nonzero?.map (Amount.debit · currency) =
      if value.toNat = 0 then none else some ⟨"-" ++ toString value.toNat, currency⟩ := by
  by_cases hzero : value.toNat = 0
  · simp [Word.nonzero?, Word.isZero, hzero]
  · simp [Word.nonzero?, Word.isZero, hzero, Amount.debit, Word.toDecimal]

theorem amount_credit (value : Word 256) :
    value.nonzero?.map (Amount.credit · currency) =
      if value.toNat = 0 then none else some ⟨"" ++ toString value.toNat, currency⟩ := by
  by_cases hzero : value.toNat = 0
  · simp [Word.nonzero?, Word.isZero, hzero]
  · simp [Word.nonzero?, Word.isZero, hzero, Amount.credit, Word.toDecimal]

theorem operations_visitPosting? (visit : Visit) (index : Nat) :
    ((visitPosting? visit).map (·.operations currency index)).getD [] =
      visitOperations currency index visit := by
  unfold visitPosting? visitOperations Visit.frame?
  cases visit.kind? with
  | none => rfl
  | some kind =>
    simp only [Option.map_some, Option.bind_some, framePosting?_ofBody]
    cases reportedType? kind visit.value with
    | none => rfl
    | some type =>
      simp only [Option.map_some, Option.getD_some, Posting.operations, Posting.operation,
        amount_debit, visitOperation, List.cons.injEq]
      cases visit.error with
      | none =>
        cases visit.body.callee with
        | none => simp [Posting.creditOperations, account]
        | some callee =>
          simp [Posting.creditOperations, Posting.operation, amount_credit, account]
      | some error =>
        cases visit.body.callee with
        | none => simp [Posting.creditOperations, account, errorMetadata]
        | some callee =>
          simp [Posting.creditOperations, Posting.operation, amount_credit, account,
            errorMetadata]

theorem numbered_visits (visits : List Visit) (index : Nat) :
    numbered currency index (visits.filterMap visitPosting?) =
      reportedFrom currency index visits := by
  induction visits generalizing index with
  | nil => rfl
  | cons visit rest ih =>
    rw [reportedFrom, ← operations_visitPosting? currency visit index]
    cases hposting : visitPosting? visit with
    | none => simp [hposting, ih]
    | some p => simp [hposting, numbered, ih]

theorem numbered_mintPostings (t : SignedTransaction) :
    numbered currency 0 (mintPostings t) = mintOperations currency t := by
  unfold mintPostings mintOperations
  cases t.mint with
  | none => rfl
  | some mint =>
    by_cases hzero : mint.toNat = 0
    · simp [Word.nonzero?, Word.isZero, hzero, numbered]
    · simp [Word.nonzero?, Word.isZero, hzero, numbered, Posting.operations,
        Posting.creditOperations, Posting.operation, account, Amount.credit, Word.toDecimal]
      rfl

/-! ### The whole transaction -/

/-- A tree of known kinds is laid out, and whenever a transaction with this tree is flattened, the
operations after the minting and before the fees are those that the walk of the tree reports. The
first frame takes effect with the error of the receipt unless it has one of its own. On the way no
parent's error is looked up beyond the errors that are there. -/
theorem flatten_eq_walk (frame : CallFrame) (hknown : Known frame) :
    ∃ arena, Arena.ofFrame frame = .ok arena ∧
      (∀ succeeded, LookupsInRange succeeded #[] arena.nodes) ∧
      ∀ (t : SignedTransaction) (receipt : Receipt) (block : BlockContext) (chain : Chain)
        (operations : List Operation), flatten t receipt arena block chain = .ok operations →
        ∃ fees : List Operation,
          operations = mintOperations chain.currency t ++
            reportedFrom chain.currency (mintOperations chain.currency t).length
              (walk (receiptError receipt) frame) ++ fees ∧
          ∀ o ∈ fees, o.type = .fee ∨ o.type = .burn ∨ o.type = .l1Fee := by
  obtain ⟨tree, htree⟩ := exists_tree_of_known frame hknown
  refine ⟨.ofTree tree, by rw [Arena.ofFrame_eq, htree]; rfl, fun succeeded ↦ ?_, ?_⟩
  · have hrange := @lookupsInRange_nodesFrom succeeded tree none #[] (by simp) [] fun _ _ ↦ trivial
    rwa [List.append_nil] at hrange
  · intro t receipt block chain operations hflat
    obtain ⟨fees, hfees, rfl⟩ := flatten_eq_ok hflat
    rw [numbered_append, numbered_append, Nat.zero_add, numbered_mintPostings,
      callPostings_eq htree, numbered_visits]
    refine ⟨_, rfl, fun o ho ↦ ?_⟩
    obtain ⟨p, hp, htype⟩ := exists_posting_of_mem_numbered chain.currency fees _ ho
    rw [htype]
    exact type_of_mem_feePostings hfees hp

/-! ### A nested call that fails -/

namespace Sample

def holder (last : UInt8) : Address := ⟨List.replicate 19 0 ++ [last], rfl⟩

/-- A frame of the given kind between two accounts. -/
def body (type : String) (caller : Address) (callee : Option Address) (value : Word 256)
    (error : Option String) : FrameBody where
  caller := caller
  gas := 0
  gasUsed := 0
  callee := callee
  input := []
  output := none
  error := error
  revertReason := none
  logs := []
  value := some value
  type := type

def outer : FrameBody := body "CALL" (holder 1) (some (holder 2)) 5 none

/-- Not reported, but its error holds for what it calls. -/
def delegated : FrameBody := body "DELEGATECALL" (holder 2) (some (holder 3)) 5 (some "out of gas")

def inner : FrameBody := body "CALL" (holder 2) (some (holder 1)) 3 none

def creation : FrameBody := body "CREATE" (holder 2) none 4 none

def trace : CallFrame := .mk outer [.mk delegated [.mk inner []], .mk creation []]

def transfer : SignedTransaction where
  hash := .zero 32
  nonce := 0
  blockHash := none
  blockNumber := none
  transactionIndex := none
  sender := holder 1
  recipient := some (holder 2)
  value := 5
  gasPrice := some 2
  gas := 100
  maxFeePerGas := none
  maxPriorityFeePerGas := none
  maxFeePerBlobGas := none
  input := []
  signature := none
  chainId := none
  blobVersionedHashes := none
  accessList := none
  type := none
  authorizationList := none
  mint := some 7
  sourceHash := none

def receipt : Receipt where
  transactionHash := .zero 32
  status := some 1
  gasUsed := 10
  cumulativeGasUsed := 10
  effectiveGasPrice := none
  contractAddress := none
  logs := .null
  logsBloom := none
  l1GasPrice := none
  l1GasUsed := none
  l1Fee := some 6
  l1FeeScalar := none
  l1BaseFeeScalar := none
  l1BlobBaseFee := none
  l1BlobBaseFeeScalar := none

def block : BlockContext := ⟨holder 9, some 1, 0⟩

def first : AccountIdentifier := ⟨"0x0000000000000000000000000000000000000001"⟩

def second : AccountIdentifier := ⟨"0x0000000000000000000000000000000000000002"⟩

theorem checksummed_first : (holder 1).checksummed = first.address :=
  (Address.checksummed_of_toUpper (by decide)).trans (by decide)

theorem checksummed_second : (holder 2).checksummed = second.address :=
  (Address.checksummed_of_toUpper (by decide)).trans (by decide)

theorem known_trace : Known trace := by
  simp only [trace, Known, AllKnown, outer, delegated, inner, creation, body]
  decide

/-- The flattening of the sample does not fail, whatever arena it is given. -/
theorem flatten_transfer (arena : Arena) :
    ∃ operations, flatten transfer receipt arena block .standard = .ok operations := by
  refine ⟨_, rfl⟩

theorem arena_trace : ∃ arena, Arena.ofFrame trace = .ok arena := by
  obtain ⟨tree, htree⟩ := exists_tree_of_known trace known_trace
  exact ⟨.ofTree tree, by rw [Arena.ofFrame_eq, htree]; rfl⟩

end Sample

/-- The error of a delegated call that is not reported itself reaches the call beneath it, and not
the creation beside it. -/
theorem flatten_eq_walk_delegated :
    ∃ arena operations fees, Known Sample.trace ∧ Arena.ofFrame Sample.trace = .ok arena ∧
      flatten Sample.transfer Sample.receipt arena Sample.block .standard = .ok operations ∧
      operations =
        [⟨0, none, .mint, .success, some Sample.first, some ⟨"7", .ether⟩, none⟩,
          ⟨1, none, .call, .success, some Sample.first, some ⟨"-5", .ether⟩, none⟩,
          ⟨2, some [1], .call, .success, some Sample.second, some ⟨"5", .ether⟩, none⟩,
          ⟨3, none, .call, .failure, some Sample.second, some ⟨"-3", .ether⟩,
            some [("error", .str "out of gas")]⟩,
          ⟨4, some [3], .call, .failure, some Sample.first, some ⟨"3", .ether⟩,
            some [("error", .str "out of gas")]⟩,
          ⟨5, none, .create, .success, some Sample.second, some ⟨"-4", .ether⟩, none⟩] ++ fees := by
  obtain ⟨arena, harena, -, hwalk⟩ := flatten_eq_walk Sample.trace Sample.known_trace
  obtain ⟨operations, hflat⟩ := Sample.flatten_transfer arena
  obtain ⟨fees, hoperations, -⟩ := hwalk _ _ _ _ operations hflat
  refine ⟨arena, operations, fees, Sample.known_trace, harena, hflat, ?_⟩
  have hfirst : account (Sample.holder 1) = Sample.first :=
    congrArg AccountIdentifier.mk Sample.checksummed_first
  have hsecond : account (Sample.holder 2) = Sample.second :=
    congrArg AccountIdentifier.mk Sample.checksummed_second
  rw [← hfirst, ← hsecond]
  exact hoperations

end RollupLedger.Flatten
