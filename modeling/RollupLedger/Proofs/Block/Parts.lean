import RollupLedger.Proofs.Block.Answers
import RollupLedger.Proofs.Json.Records
import RollupLedger.Proofs.Lists

/-!
# The parts of a block and what was received for them

Uncles, receipts and traces are read from the replies to batches and calls. Where that succeeds,
each exchange with the node brought a value that is not null for all that it asked for
(`isFull_of_unclesOf`, `receiptsOfLane_eq_ok`, `tracesOf_eq_ok`). Each transaction then has its
receipt and its trace. A receipt is found by its hash, whatever the order of the replies, and serves
one transaction (`RawReceipt.Answers`); a trace is found by its place among the calls, in one batch,
in several or in single calls (`RawTrace.Answers`). What is made of the three shows them as they
were received (`Composed`).
-/

set_option autoImplicit false
set_option relaxedAutoImplicit false

namespace RollupLedger

/-! ### Replies -/

theorem batchReplies_eq_ok {method : String} {sent : Nat} {reply : BatchReply}
    {replies : List CallReply} (hreplies : batchReplies method sent reply = .ok replies) :
    reply = .ok replies ∧ replies.length = sent := by
  cases reply with
  | error message => cases hreplies
  | ok received =>
    rw [batchReplies] at hreplies
    split at hreplies
    · cases hreplies
      exact ⟨rfl, ‹_›⟩
    · cases hreplies

theorem replyValue_eq_ok {method : String} {reply : CallReply} {value : Json}
    (hvalue : replyValue method reply = .ok value) : reply = .ok value := mapError_eq_ok hvalue

theorem decodeAs_eq_ok {α : Type} {subject : Subject} {decode : Json.Decoder α} {value : Json}
    {a : α} (ha : decodeAs subject decode value = .ok a) : decode.run value = .ok a :=
  mapError_eq_ok ha

namespace Exchange

theorem isFull_call {c : Call} {value : Json} (hvalue : value.isNull = false) :
    (call c (.ok value)).IsFull :=
  ⟨_, rfl, List.forall_mem_singleton.mpr hvalue⟩

theorem answers_subset {xs ys : List Exchange} (hsub : xs ⊆ ys) :
    xs.flatMap answers ⊆ ys.flatMap answers := by
  intro a ha
  obtain ⟨x, hx, ha⟩ := List.mem_flatMap.mp ha
  exact List.mem_flatMap.mpr ⟨x, hsub hx, ha⟩

theorem exists_values {replies : List CallReply}
    (hreplies : ∀ reply ∈ replies, ∃ value, reply = .ok value ∧ value.isNull = false) :
    ∃ values : List Json, replies = values.map .ok ∧ ∀ value ∈ values, value.isNull = false := by
  induction replies with
  | nil => exact ⟨[], rfl, nofun⟩
  | cons reply rest ih =>
    obtain ⟨⟨value, rfl, hvalue⟩, hrest⟩ := List.forall_mem_cons.mp hreplies
    obtain ⟨values, rfl, hvalues⟩ := ih hrest
    exact ⟨value :: values, rfl, List.forall_mem_cons.mpr ⟨hvalue, hvalues⟩⟩

variable {cs : List Call} {replies : List CallReply} (hlength : replies.length = cs.length)
  (hreplies : ∀ reply ∈ replies, ∃ value, reply = .ok value ∧ value.isNull = false)
include hlength hreplies

theorem isFull_batch : (batch cs (.ok replies)).IsFull := by
  obtain ⟨values, rfl, hvalues⟩ := exists_values hreplies
  rw [List.length_map] at hlength
  exact ⟨_, answers?_batch hlength, fun a ha ↦ hvalues a.2 (List.of_mem_zip ha).2⟩

theorem exists_mem_answers {value : Json} (hvalue : .ok value ∈ replies) :
    ∃ c ∈ cs, (c, value) ∈ (batch cs (.ok replies)).answers := by
  obtain ⟨values, rfl, -⟩ := exists_values hreplies
  rw [List.length_map] at hlength
  obtain ⟨same, hsame, hok⟩ := List.mem_map.mp hvalue
  cases hok
  rw [answers, answers?_batch hlength]
  exact exists_mem_zip hlength.symm hsame

end Exchange

namespace BlockAssembly

open Ledger Wire Trace

/-! ### Uncles -/

theorem length_uncleCalls (header : Header) :
    (uncleCalls header).length = header.uncles.length := by
  rw [uncleCalls, List.length_map, List.length_range]

theorem uncleOf_eq_ok {header uncle : Header} {hash : Hash} {reply : CallReply}
    (huncle : uncleOf header hash reply = .ok uncle) :
    ∃ value, reply = .ok value ∧ value.isNull = false := by
  obtain ⟨value, hvalue, huncle⟩ := bind_eq_ok huncle
  refine ⟨value, replyValue_eq_ok hvalue, ?_⟩
  split at huncle
  · cases huncle
  · exact Bool.eq_false_iff.mpr ‹_›

/-- Uncles are read from a batch that brought all of them. -/
theorem isFull_of_unclesOf {header : Header} {reply : BatchReply} {uncles : List Header}
    (huncles : unclesOf header reply = .ok uncles) :
    (Exchange.batch (uncleCalls header) reply).IsFull := by
  obtain ⟨replies, hreplies, hread⟩ := bind_eq_ok huncles
  obtain ⟨rfl, hlength⟩ := batchReplies_eq_ok hreplies
  have hall : Forall₃ (fun hash single uncle ↦ uncleOf header hash single = .ok uncle)
      header.uncles replies uncles := mapM_zip_eq_ok hlength.symm hread
  have hsent := hlength.trans (length_uncleCalls header).symm
  refine Exchange.isFull_batch hsent fun single hsingle ↦ ?_
  obtain ⟨_, -, _, -, huncle⟩ := hall.forall_mem single hsingle
  exact uncleOf_eq_ok huncle

/-! ### Receipts -/

theorem receiptOf_eq_ok {t : SignedTransaction} {reply : CallReply} {found : Option RawReceipt}
    (hfound : receiptOf t reply = .ok found) :
    ∃ value, reply = .ok value ∧ ∀ receipt, found = some receipt →
      receipt.raw = value ∧ value.isNull = false ∧
        Receipt.decode.run value = .ok receipt.receipt := by
  obtain ⟨value, hvalue, hfound⟩ := bind_eq_ok hfound
  refine ⟨value, replyValue_eq_ok hvalue, ?_⟩
  split at hfound
  · cases hfound
    rintro _ ⟨⟩
  · obtain ⟨receipt, hreceipt, hfound⟩ := bind_eq_ok hfound
    cases hfound
    rintro _ ⟨⟩
    exact ⟨rfl, Bool.eq_false_iff.mpr ‹_›, decodeAs_eq_ok hreceipt⟩

/-- Each transaction is given a receipt of its own hash, and different transactions are given
different ones. -/
theorem matchReceipts_eq_ok {block : Hash} {txs : List SignedTransaction}
    {received receipts : List RawReceipt}
    (hmatch : matchReceipts block txs received = .ok receipts) :
    txs.length ≤ received.length ∧
      txs.Forall₂ (fun t r ↦ r ∈ received ∧ r.receipt.transactionHash = t.hash) receipts := by
  induction txs generalizing received receipts with
  | nil =>
    cases hmatch
    exact ⟨Nat.zero_le _, .nil⟩
  | cons t rest ih =>
    simp only [matchReceipts, takeReceipt] at hmatch
    cases hfound : received.reverse.find? (·.receipt.transactionHash == t.hash) with
    | none =>
      simp only [hfound] at hmatch
      cases hmatch
    | some receipt =>
      simp only [hfound] at hmatch
      have hmem : receipt ∈ received := List.mem_reverse.mp (List.mem_of_find?_eq_some hfound)
      have hown : receipt.receipt.transactionHash = t.hash := by simpa using List.find?_some hfound
      cases hothers : matchReceipts block rest
          (received.filter (·.receipt.transactionHash != t.hash)) with
      | error e =>
        rw [hothers] at hmatch
        cases hmatch
      | ok others =>
        rw [hothers] at hmatch
        cases hmatch
        obtain ⟨hle, hall⟩ := ih hothers
        have hfewer : (received.filter (·.receipt.transactionHash != t.hash)).length <
            received.length :=
          List.length_filter_lt_length_iff_exists.mpr ⟨receipt, hmem, by simp [hown]⟩
        refine ⟨by rw [List.length_cons]; omega, .cons ⟨hmem, hown⟩ (hall.imp fun _ _ hr ↦ ?_)⟩
        exact ⟨(List.mem_filter.mp hr.1).1, hr.2⟩

/-- A receipt that was received for one of the transactions and is that of a given one. -/
structure RawReceipt.Answers (txs : List SignedTransaction) (answers : List (Call × Json))
    (t : SignedTransaction) (receipt : RawReceipt) : Prop where
  answered : ∃ asked ∈ txs, ((Question.receipt asked.hash).call, receipt.raw) ∈ answers
  present : receipt.raw.isNull = false
  read : Receipt.decode.run receipt.raw = .ok receipt.receipt
  own : receipt.receipt.transactionHash = t.hash

theorem length_receiptCalls (txs : List SignedTransaction) :
    (receiptCalls txs).length = txs.length := List.length_map _

/-- Receipts are read from a batch that brought all of them, in whatever order. -/
theorem receiptsOf_eq_ok {block : Hash} {txs : List SignedTransaction} {replies : List CallReply}
    {receipts : List RawReceipt} (hlength : replies.length = txs.length)
    (hreceipts : receiptsOf block txs replies = .ok receipts) :
    (Exchange.batch (receiptCalls txs) (.ok replies)).IsFull ∧
      txs.Forall₂ (RawReceipt.Answers txs (Exchange.batch (receiptCalls txs) (.ok replies)).answers)
        receipts := by
  obtain ⟨found, hfound, hmatch⟩ := bind_eq_ok hreceipts
  have hread : Forall₃ (fun t reply receipt ↦ receiptOf t reply = .ok receipt) txs replies found :=
    mapM_zip_eq_ok hlength.symm hfound
  obtain ⟨henough, hown⟩ := matchReceipts_eq_ok hmatch
  -- Each transaction takes a receipt away, so every reply has brought one.
  have hall : ∀ receipt ∈ found, receipt.isSome = true := by
    have hle := List.length_filterMap_le id found
    have hfew := hread.length_left.trans hread.length_right
    exact List.filterMap_length_eq_length.mp (Nat.le_antisymm hle (hfew ▸ henough))
  have hreplies : ∀ reply ∈ replies, ∃ value, reply = .ok value ∧ value.isNull = false := by
    intro reply hreply
    obtain ⟨_, -, receipt?, hreceipt?, hspoken⟩ := hread.forall_mem reply hreply
    obtain ⟨receipt, rfl⟩ := Option.isSome_iff_exists.mp (hall receipt? hreceipt?)
    obtain ⟨value, hvalue, hmade⟩ := receiptOf_eq_ok hspoken
    exact ⟨value, hvalue, (hmade receipt rfl).2.1⟩
  have hsent : replies.length = (receiptCalls txs).length :=
    hlength.trans (length_receiptCalls txs).symm
  refine ⟨Exchange.isFull_batch hsent hreplies, hown.imp fun t receipt ⟨hmem, hsame⟩ ↦ ?_⟩
  obtain ⟨_, hfrom, rfl⟩ := List.mem_filterMap.mp hmem
  obtain ⟨reply, hreply, _, -, hspoken⟩ := hread.rotate.forall_mem (some receipt) hfrom
  obtain ⟨value, rfl, hmade⟩ := receiptOf_eq_ok hspoken
  obtain ⟨rfl, hpresent, hdecoded⟩ := hmade receipt rfl
  obtain ⟨c, hc, hanswer⟩ := Exchange.exists_mem_answers hsent hreplies hreply
  rw [receiptCalls_eq] at hc
  obtain ⟨asked, hasked, rfl⟩ := List.mem_map.mp hc
  exact ⟨⟨asked, hasked, hanswer⟩, hpresent, hdecoded, hsame⟩

/-- The receipts of a block come from the exchanges of the left lane. -/
theorem receiptsOfLane_eq_ok {block : Hash} {txs : List SignedTransaction} {xs : List Exchange}
    {replies : List BatchReply} {receipts : List RawReceipt}
    (hpasses : (receiptLane block txs).Passes xs replies)
    (hreceipts : receiptsOfLane block txs replies = .ok receipts) :
    (∀ x ∈ xs, x.IsFull) ∧
      txs.Forall₂ (RawReceipt.Answers txs (xs.flatMap Exchange.answers)) receipts := by
  obtain ⟨ys, hperm, hbrings⟩ := hpasses.brings
  cases txs with
  | nil =>
    cases hbrings
    obtain rfl := hperm.eq_nil
    cases hreceipts
    exact ⟨nofun, .nil⟩
  | cons t rest =>
    have hjobs : (receiptLane block (t :: rest)).jobs =
        [⟨none, true, receiptCalls (t :: rest)⟩] := rfl
    rw [hjobs] at hbrings
    obtain ⟨⟩ | ⟨hx, ⟨⟩⟩ := hbrings
    cases hx
    obtain rfl := hperm.eq_singleton
    obtain ⟨singles, hsingles, hmatched⟩ := bind_eq_ok hreceipts
    obtain ⟨rfl, hlength⟩ := batchReplies_eq_ok hsingles
    obtain ⟨hfull, hall⟩ := receiptsOf_eq_ok hlength hmatched
    refine ⟨List.forall_mem_singleton.mpr hfull, ?_⟩
    rwa [List.flatMap_singleton]

/-! ### Traces -/

theorem traceValues_eq_ok {job : Job} {reply : BatchReply} {values : List Json}
    (hvalues : traceValues job reply = .ok values) :
    reply = .ok (values.map .ok) ∧ values.length = job.calls.length := by
  obtain ⟨replies, hreplies, hread⟩ := bind_eq_ok hvalues
  obtain ⟨rfl, hlength⟩ := batchReplies_eq_ok hreplies
  have hall := mapM_eq_ok hread
  refine ⟨congrArg _ ?_, hall.length_eq ▸ hlength⟩
  clear hvalues hreplies hread hlength
  induction hall with
  | nil => rfl
  | cons hfirst _ ih => rw [List.map_cons, ← ih, replyValue_eq_ok hfirst]

/-- An exchange that brought a job its values brought each of them for its call. -/
theorem answers?_of_brings {job : Job} {x : Exchange} {reply : BatchReply} {values : List Json}
    (hjob : job.batched = true ∨ ∃ c, job.calls = [c]) (hbrings : job.Brings x reply)
    (hvalues : traceValues job reply = .ok values) :
    x.answers? = some (job.calls.zip values) ∧ values.length = job.calls.length := by
  obtain ⟨rfl, hlength⟩ := traceValues_eq_ok hvalues
  refine ⟨?_, hlength⟩
  obtain ⟨units, batched, calls⟩ := job
  cases batched with
  | true =>
    cases hbrings
    exact Exchange.answers?_batch hlength
  | false =>
    rcases hjob with hbatched | ⟨c, hc⟩
    · cases hbatched
    · simp only at hc
      subst hc
      obtain ⟨single, rfl, hsingle⟩ := hbrings
      obtain ⟨value, rfl⟩ := List.length_eq_one_iff.mp hlength
      cases single with
      | error message => cases hsingle
      | ok other =>
        cases hsingle
        rfl

/-- The values of all jobs, put together, are those of all calls. -/
theorem answers_of_brings {jobs : List Job} {xs : List Exchange} {replies : List BatchReply}
    (hjobs : ∀ job ∈ jobs, job.batched = true ∨ ∃ c, job.calls = [c])
    (hbrings : Forall₃ Job.Brings jobs xs replies) {pieces : List (List Json)}
    (hpieces : (jobs.zip replies).Forall₂ (fun s piece ↦ traceValues s.1 s.2 = .ok piece) pieces) :
    (∀ x ∈ xs, ∃ answers, x.answers? = some answers ∧ ∀ a ∈ answers, a.2 ∈ pieces.flatten) ∧
      xs.flatMap Exchange.answers = (jobs.flatMap Job.calls).zip pieces.flatten ∧
      pieces.flatten.length = (jobs.flatMap Job.calls).length := by
  induction hbrings generalizing pieces with
  | nil =>
    cases hpieces
    exact ⟨nofun, rfl, rfl⟩
  | @cons job x reply jobs xs replies hfirst _ ih =>
    cases hpieces with
    | @cons _ piece _ pieces hvalues hrest =>
      obtain ⟨hjob, hothers⟩ := List.forall_mem_cons.mp hjobs
      obtain ⟨hanswers, hlength⟩ := answers?_of_brings hjob hfirst hvalues
      obtain ⟨hall, hzip, hlengths⟩ := ih hothers hrest
      refine ⟨List.forall_mem_cons.mpr ⟨⟨_, hanswers, fun a ha ↦ ?_⟩, fun y hy ↦ ?_⟩, ?_, ?_⟩
      · exact List.mem_append_left _ (List.of_mem_zip ha).2
      · obtain ⟨answers, hy, hfrom⟩ := hall y hy
        exact ⟨answers, hy, fun a ha ↦ List.mem_append_right piece (hfrom a ha)⟩
      · rw [List.flatMap_cons, List.flatMap_cons, List.flatten_cons, List.zip_append hlength.symm,
          hzip, Exchange.answers, hanswers]
        rfl
      · rw [List.flatMap_cons, List.flatten_cons, List.length_append, List.length_append, hlength,
          hlengths]

/-- A trace that was received for a given transaction. -/
structure RawTrace.Answers (client : Client) (answers : List (Call × Json)) (t : SignedTransaction)
    (trace : RawTrace) : Prop where
  answered : ((Question.trace t.hash client.traceTimeout).call, trace.raw) ∈ answers
  present : trace.raw.isNull = false
  read : ∃ frame, Json.Decoder.run CallFrame.decode trace.raw = .ok frame ∧
    Arena.ofFrame frame = .ok trace.arena

theorem traceOf_eq_ok {block : Hash} {t : SignedTransaction} {value : Json} {trace : RawTrace}
    (htrace : traceOf block t value = .ok trace) :
    trace.raw = value ∧ value.isNull = false ∧
      ∃ frame, Json.Decoder.run CallFrame.decode value = .ok frame ∧
        Arena.ofFrame frame = .ok trace.arena := by
  rw [traceOf] at htrace
  split at htrace
  · cases htrace
  · obtain ⟨frame, hframe, htrace⟩ := bind_eq_ok htrace
    obtain ⟨arena, harena, htrace⟩ := bind_eq_ok htrace
    cases htrace
    exact ⟨rfl, Bool.eq_false_iff.mpr ‹_›, frame, decodeAs_eq_ok hframe, mapError_eq_ok harena⟩

/-- The traces of a block come from the exchanges of the right lane. -/
theorem tracesOf_eq_ok {client : Client} {block : Hash} {txs : List SignedTransaction}
    {xs : List Exchange} {replies : List BatchReply} {traces : List RawTrace}
    (hpasses : (traceLane client block txs).Passes xs replies)
    (htraces : tracesOf client block txs replies = .ok traces) :
    (∀ x ∈ xs, x.IsFull) ∧
      txs.Forall₂ (RawTrace.Answers client (xs.flatMap Exchange.answers)) traces := by
  obtain ⟨ys, hperm, hbrings⟩ := hpasses.brings
  obtain ⟨pieces, hpieces, hread⟩ := bind_eq_ok htraces
  obtain ⟨hall, hzip, hlength⟩ :=
    answers_of_brings (shape_traceJobs client txs) hbrings (mapM_eq_ok hpieces)
  rw [flatMap_calls_traceJobs] at hzip hlength
  rw [List.length_map] at hlength
  have hexamined : Forall₃ (fun t value trace ↦ traceOf block t value = .ok trace) txs
      pieces.flatten traces := mapM_zip_eq_ok hlength.symm hread
  constructor
  · intro x hx
    obtain ⟨answers, hanswers, hfrom⟩ := hall x (hperm.mem_iff.mp hx)
    refine ⟨answers, hanswers, fun a ha ↦ ?_⟩
    obtain ⟨_, -, _, -, htrace⟩ := hexamined.forall_mem a.2 (hfrom a ha)
    exact (traceOf_eq_ok htrace).2.1
  · refine hexamined.forall₂_zip.imp fun t trace ⟨value, hmem, htrace⟩ ↦ ?_
    obtain ⟨rfl, hpresent, hframe⟩ := traceOf_eq_ok htrace
    refine ⟨?_, hpresent, hframe⟩
    rw [(hperm.flatMap_right Exchange.answers).mem_iff, hzip, List.zip_map_left]
    exact List.mem_map.mpr ⟨(t, trace.raw), hmem, rfl⟩

/-! ### Transactions -/

theorem lookup_transactionMetadata (t : SignedTransaction) (receipt : RawReceipt)
    (trace : RawTrace) :
    (transactionMetadata t receipt trace).lookup "receipt" = some receipt.raw ∧
      (transactionMetadata t receipt trace).lookup "trace" = some trace.raw := by
  rw [transactionMetadata, sortedMembers, Json.lookup_foldl_insertMember,
    Json.lookup_foldl_insertMember]
  simp [Json.lookup_cons_eq_ite]

/-- A transaction of a block that is made of a fetched one, its receipt and its trace, both of which
it shows as they were received. -/
structure Composed (client : Client) (context : BlockContext) (t : SignedTransaction)
    (receipt : RawReceipt) (trace : RawTrace) (made : Transaction) : Prop where
  hash : made.hash = t.hash.hex
  operations : Flatten.flatten t receipt.receipt trace.arena context client.chain =
    .ok made.operations
  metadata : ∃ members, made.metadata = some members ∧
    members.lookup "receipt" = some receipt.raw ∧ members.lookup "trace" = some trace.raw

theorem transaction_eq_ok {client : Client} {context : BlockContext} {t : SignedTransaction}
    {receipt : RawReceipt} {trace : RawTrace} {made : Transaction}
    (hmade : transaction client.chain context t receipt trace = .ok made) :
    Composed client context t receipt trace made := by
  obtain ⟨operations, hoperations, hmade⟩ := bind_eq_ok hmade
  cases hmade
  exact ⟨rfl, mapError_eq_ok hoperations, _, rfl, lookup_transactionMetadata t receipt trace⟩

end BlockAssembly

end RollupLedger
