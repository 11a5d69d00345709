import RollupLedger.Proofs.Block.Parts
import RollupLedger.Proofs.Ledger.RoundTrip
import RollupLedger.Proofs.Trace.Layout

/-!
# Answers that leave nothing out

Where the answers have all that belongs to a block, well formed (`Complete`), they make the block
(`exists_answeredBlock`). A block whose transactions have hashes of their own is served by any
receipts that name them, and by traces of whatever shape as long as the kinds of their frames are
known.
-/

set_option autoImplicit false
set_option relaxedAutoImplicit false

namespace RollupLedger

variable {α β : Type}

namespace Json

/-- A value that is read as a record is not null. -/
theorem isNull_of_record {names : List String} {fields : Fields α} {closed : Bool} {value : Json}
    {a : α} (hread : Decoder.run (record names fields closed) value = .ok a) :
    value.isNull = false := by
  cases value with
  | null => cases hread
  | _ => rfl

theorem isNull_of_splitRecord {γ : Type} {join : α → β → γ} {outer : Fields α} {inner : Fields β}
    {value : Json} {c : γ} (hread : Decoder.run (splitRecord join outer inner) value = .ok c) :
    value.isNull = false := by
  cases value with
  | null => cases hread
  | _ => rfl

theorem isNull_of_callFrame {value : Json} {frame : Wire.CallFrame}
    (hread : Decoder.run Wire.CallFrame.decode value = .ok frame) : value.isNull = false := by
  cases value with
  | null => cases hread
  | _ => rfl

end Json

namespace BlockAssembly

open Ledger Wire Trace

theorem decodeAs_of_run (subject : Subject) {decode : Json.Decoder α} {value : Json} {a : α}
    (hread : decode.run value = .ok a) : decodeAs subject decode value = .ok a := by
  rw [decodeAs, hread]
  rfl

/-! ### What belongs to a block -/

/-- The answers for a transaction: a receipt that names it and from which its fees can be told, and
a trace whose frames are of known kinds. -/
structure Served (answer : Call → CallReply) (chain : Chain) (timeout : String) (header : Header)
    (t : SignedTransaction) : Prop where
  receipt : ∃ value receipt fee, answer (Question.receipt t.hash).call = .ok value ∧
    Receipt.decode.run value = .ok receipt ∧ receipt.transactionHash = t.hash ∧
    DataFee.assess t receipt (blockContext header) chain = .ok fee
  trace : ∃ value frame, answer (Question.trace t.hash timeout).call = .ok value ∧
    Json.Decoder.run CallFrame.decode value = .ok frame ∧ Known frame

/-- The answers have all that belongs to a block: its uncles, and unless its number is zero, what
serves its transactions, which all have hashes of their own. -/
structure Complete (answer : Call → CallReply) (chain : Chain) (timeout : String)
    (block : NodeBlock) : Prop where
  uncles : ∀ place < block.header.uncles.length, ∃ value uncle,
    answer (Question.uncle block.header.hash place).call = .ok value ∧
    Header.decode.run value = .ok uncle
  distinct : block.header.number.isZero = false →
    (block.transactions.map fun t ↦ t.hash).Nodup
  served : block.header.number.isZero = false →
    ∀ t ∈ block.transactions, Served answer chain timeout block.header t

variable {answer : Call → CallReply} {chain : Chain} {timeout : String}

/-! ### Uncles -/

theorem exists_uncleOf {header uncle : Header} {value : Json} (hash : Hash)
    (hread : Header.decode.run value = .ok uncle) :
    uncleOf header hash (.ok value) = .ok uncle := by
  have hpresent : value.isNull = false := Json.isNull_of_record hread
  have hvalue : replyValue uncleMethod (.ok value) = .ok value := rfl
  simp only [uncleOf, hvalue, bind, Except.bind, hpresent, Bool.false_eq_true, if_false]
  exact decodeAs_of_run _ hread

theorem exists_answeredUncles {header : Header}
    (hall : ∀ place < header.uncles.length, ∃ value uncle,
      answer (Question.uncle header.hash place).call = .ok value ∧
      Header.decode.run value = .ok uncle) :
    ∃ uncles, answeredUncles answer header = some uncles := by
  unfold answeredUncles
  split
  · exact ⟨[], rfl⟩
  · generalize hreplies : ((List.range header.uncles.length).map fun place ↦
      answer (Question.uncle header.hash place).call) = replies
    have hlength : replies.length = header.uncles.length := by
      rw [← hreplies, List.length_map, List.length_range]
    have hread : ∀ s ∈ header.uncles.zip replies, ∃ uncle, uncleOf header s.1 s.2 = .ok uncle := by
      rintro ⟨hash, reply⟩ hs
      rw [← hreplies] at hs
      obtain ⟨place, hplace, rfl⟩ := List.mem_map.mp (List.of_mem_zip hs).2
      obtain ⟨value, uncle, hvalue, huncle⟩ := hall place (List.mem_range.mp hplace)
      exact ⟨uncle, hvalue ▸ exists_uncleOf hash huncle⟩
    obtain ⟨uncles, huncles⟩ := exists_forall₂ hread
    refine ⟨uncles, ?_⟩
    simp only [unclesOf, batchReplies, if_pos hlength, bind, Except.bind]
    rw [mapM_of_forall₂ huncles]
    rfl

/-! ### Receipts -/

/-- Receipts that name the transactions of different hashes, one by one, are given to them. -/
theorem matchReceipts_of_forall₂ (block : Hash) {txs : List SignedTransaction}
    {receipts : List RawReceipt}
    (hown : txs.Forall₂ (fun t r ↦ r.receipt.transactionHash = t.hash) receipts)
    (hdistinct : (txs.map fun t ↦ t.hash).Nodup) :
    matchReceipts block txs receipts = .ok receipts := by
  induction hown with
  | nil => rfl
  | @cons t receipt rest others hfirst hrest ih =>
    rw [List.map_cons, List.nodup_cons] at hdistinct
    have hother : ∀ r ∈ others, r.receipt.transactionHash ≠ t.hash := by
      intro r hr hsame
      obtain ⟨t', ht', hnamed⟩ := exists_mem_of_forall₂ hrest hr
      exact hdistinct.1 (hsame ▸ hnamed ▸ List.mem_map_of_mem ht')
    have hfound : (receipt :: others).reverse.find? (·.receipt.transactionHash == t.hash) =
        some receipt := by
      rw [List.reverse_cons, List.find?_append, List.find?_eq_none.mpr, Option.none_or]
      · rw [List.find?_cons_of_pos (by simp [hfirst])]
      · intro r hr
        simpa using hother r (List.mem_reverse.mp hr)
    have hleft : (receipt :: others).filter (·.receipt.transactionHash != t.hash) = others := by
      rw [List.filter_cons_of_neg (by simp [hfirst]), List.filter_eq_self]
      intro r hr
      simpa using hother r hr
    simp only [matchReceipts, takeReceipt, hfound, hleft, ih hdistinct.2]
    rfl

theorem receiptOf_of_run {t : SignedTransaction} {value : Json} {receipt : Receipt}
    (hread : Receipt.decode.run value = .ok receipt) :
    receiptOf t (.ok value) = .ok (some ⟨receipt, value⟩) := by
  have hpresent : value.isNull = false := Json.isNull_of_record hread
  have hdecoded : decodeAs (.receipt t.hash) Receipt.decode value = .ok receipt :=
    decodeAs_of_run _ hread
  have hvalue : replyValue receiptMethod (.ok value) = .ok value := rfl
  simp only [receiptOf, hvalue, bind, Except.bind, hpresent, Bool.false_eq_true, if_false, hdecoded]
  rfl

/-- A receipt that is the answer for a transaction, and from which its fees can be told. -/
structure Receives (answer : Call → CallReply) (chain : Chain) (header : Header)
    (t : SignedTransaction) (receipt : RawReceipt) : Prop where
  answered : receiptOf t (answer (Question.receipt t.hash).call) = .ok (some receipt)
  own : receipt.receipt.transactionHash = t.hash
  assessed : ∃ fee, DataFee.assess t receipt.receipt (blockContext header) chain = .ok fee

theorem exists_answeredReceipts {header : Header} {txs : List SignedTransaction}
    (hdistinct : (txs.map fun t ↦ t.hash).Nodup)
    (hserved : ∀ t ∈ txs, Served answer chain timeout header t) :
    ∃ receipts, answeredReceipts answer header.hash txs = some receipts ∧
      txs.Forall₂ (Receives answer chain header) receipts := by
  have hall : ∀ t ∈ txs, ∃ receipt, Receives answer chain header t receipt := by
    intro t ht
    obtain ⟨value, receipt, fee, hvalue, hread, hown, hfee⟩ := (hserved t ht).receipt
    exact ⟨⟨receipt, value⟩, hvalue ▸ receiptOf_of_run hread, hown, fee, hfee⟩
  obtain ⟨receipts, hreceipts⟩ := exists_forall₂ hall
  refine ⟨receipts, ?_, hreceipts⟩
  have hzip : (txs.zip (txs.map fun t ↦ answer (Question.receipt t.hash).call)) =
      txs.map fun t ↦ (t, answer (Question.receipt t.hash).call) := by
    have hpairs := List.zip_map' (f := id)
      (g := fun t ↦ answer (Question.receipt t.hash).call) (l := txs)
    rwa [List.map_id] at hpairs
  have hread : (txs.zip (txs.map fun t ↦ answer (Question.receipt t.hash).call)).mapM
      (fun s ↦ receiptOf s.1 s.2) = .ok (receipts.map some) := by
    rw [hzip]
    refine mapM_of_forall₂ (List.forall₂_map_left_iff.mpr (List.forall₂_map_right_iff.mpr ?_))
    exact hreceipts.imp fun _ _ hreceipt ↦ hreceipt.answered
  have hown := hreceipts.imp fun _ _ hreceipt ↦ hreceipt.own
  have hmatch := matchReceipts_of_forall₂ header.hash hown hdistinct
  have hfound : (receipts.map some).filterMap id = receipts := by
    rw [List.filterMap_map]
    exact List.filterMap_some
  simp only [answeredReceipts, receiptsOf, hread, bind, Except.bind, hfound, hmatch]
  rfl

/-! ### Traces -/

theorem exists_answeredTraces {header : Header} {txs : List SignedTransaction}
    (hserved : ∀ t ∈ txs, Served answer chain timeout header t) :
    ∃ traces, answeredTraces answer timeout header.hash txs = some traces ∧
      txs.Forall₂ (fun t trace ↦ (answer (Question.trace t.hash timeout).call).toOption.bind
        (fun value ↦ (traceOf header.hash t value).toOption) = some trace) traces := by
  have hall : ∀ t ∈ txs, ∃ trace, (answer (Question.trace t.hash timeout).call).toOption.bind
      (fun value ↦ (traceOf header.hash t value).toOption) = some trace := by
    intro t ht
    obtain ⟨value, frame, hvalue, hread, hknown⟩ := (hserved t ht).trace
    obtain ⟨tree, htree⟩ := exists_tree_of_known frame hknown
    have harena : Arena.ofFrame frame = .ok (Arena.ofTree tree) := by
      rw [Arena.ofFrame_eq, htree]
      rfl
    have hpresent : value.isNull = false := Json.isNull_of_callFrame hread
    have hdecoded : decodeAs (.trace t.hash) CallFrame.decode value = .ok frame :=
      decodeAs_of_run _ hread
    refine ⟨⟨Arena.ofTree tree, value⟩, ?_⟩
    simp only [hvalue, Except.toOption, Option.bind_some, traceOf, hpresent, Bool.false_eq_true,
      if_false, hdecoded, bind, Except.bind, harena, Except.mapError]
    rfl
  obtain ⟨traces, htraces⟩ := exists_forall₂ hall
  refine ⟨traces, mapM_eq_some_iff.mpr ?_, htraces⟩
  rwa [← List.forall₂_eq_eq_eq, List.forall₂_map_left_iff, List.forall₂_map_right_iff]

/-! ### The block -/

theorem transaction_of_receives {header : Header} {t : SignedTransaction} {receipt : RawReceipt}
    (hreceipt : Receives answer chain header t receipt) (trace : RawTrace) :
    ∃ made, transaction chain (blockContext header) t receipt trace = .ok made := by
  obtain ⟨fee, hfee⟩ := hreceipt.assessed
  obtain ⟨operations, hflat⟩ : ∃ operations, Flatten.flatten t receipt.receipt trace.arena
      (blockContext header) chain = .ok operations := by
    simp only [Flatten.flatten, Flatten.postings, hreceipt.own, Flatten.feePostings, hfee, ne_eq,
      not_true_eq_false, if_false]
    split <;> exact ⟨_, rfl⟩
  simp only [transaction, hflat]
  exact ⟨_, rfl⟩

theorem exists_transactions {header : Header} {txs : List SignedTransaction}
    {receipts : List RawReceipt} {traces : List RawTrace} {R : SignedTransaction → RawTrace → Prop}
    (hreceipts : txs.Forall₂ (Receives answer chain header) receipts)
    (htraces : txs.Forall₂ R traces) :
    ∃ made, transactions chain (blockContext header) txs receipts traces = .ok made := by
  have hall : ∀ s ∈ txs.zip (receipts.zip traces), ∃ made,
      transaction chain (blockContext header) s.1 s.2.1 s.2.2 = .ok made := by
    rintro ⟨t, receipt, trace⟩ hs
    have hboth := List.forall₂_zip (forall₂_zip_right hreceipts htraces) hs
    exact transaction_of_receives hboth.1 trace
  obtain ⟨made, hmade⟩ := exists_forall₂ hall
  exact ⟨made, mapM_of_forall₂ hmade⟩

/-- The answers that leave nothing out make the block, under its own number and hash. -/
theorem exists_answeredBody {block : NodeBlock} (hcomplete : Complete answer chain timeout block)
    (uncles : List Header) :
    ∃ made, answeredBody answer chain timeout block uncles = some made ∧
      made.identifier = ⟨block.header.number, block.header.hash.hex⟩ := by
  unfold answeredBody
  simp only [reread_eq_ok]
  split
  · exact ⟨_, rfl, rfl⟩
  · rename_i hnumber
    have hnonzero := Bool.eq_false_iff.mpr hnumber
    obtain ⟨receipts, hreceipts, hown⟩ :=
      exists_answeredReceipts (hcomplete.distinct hnonzero) (hcomplete.served hnonzero)
    obtain ⟨traces, htraces, hread⟩ := exists_answeredTraces (hcomplete.served hnonzero)
    obtain ⟨made, hmade⟩ := exists_transactions hown hread
    simp only [hreceipts, htraces, hmade, Option.bind_some, Except.toOption]
    exact ⟨_, rfl, rfl⟩

/-- The block that a request names, if the answers have it, leave nothing out and it has the number
that the request expects. -/
theorem exists_answeredBlock {requested : Option PartialBlockIdentifier}
    {reference : BlockReference} {value : Json} {block : NodeBlock}
    (hreference : BlockReference.read requested = .ok reference)
    (hvalue : answer (Question.block reference).call = .ok value) (hpresent : value.isNull = false)
    (hblock : NodeBlock.decode.run value = .ok block)
    (hchecked : BlockReference.check requested block.header.number = .ok ())
    (hcomplete : Complete answer chain timeout block) :
    ∃ made, answeredBlock answer chain timeout requested = some made ∧
      made.identifier = ⟨block.header.number, block.header.hash.hex⟩ := by
  obtain ⟨uncles, huncles⟩ := exists_answeredUncles hcomplete.uncles
  have hdecoded := decodeAs_of_run (.block (BlockReference.describe requested)) hblock
  simp only [answeredBlock, hreference, hvalue, Except.toOption, Option.bind_some, hpresent,
    Bool.false_eq_true, if_false, hdecoded, hchecked, huncles]
  exact exists_answeredBody hcomplete uncles

end BlockAssembly

end RollupLedger
