import RollupLedger.Proofs.Block.Questions
import RollupLedger.Proofs.Request.Steady

/-!
# The block that fixed answers make

`answeredBlock` takes the answer to one question after another: the block, its uncles, its receipts,
and for each transaction its trace. It knows neither lanes nor batches of traces nor the gate.
Against a node that gives these answers the plan of a block yields just that, whether traces are
asked for one by one or in pieces of any size (`yields_plan`).
-/

set_option autoImplicit false
set_option relaxedAutoImplicit false

namespace RollupLedger.BlockAssembly

open Ledger Wire Trace

/-! ### The block of the answers -/

section Answers

variable (answer : Call → CallReply) (chain : Chain) (timeout : String)

def answeredUncles (header : Header) : Option (List Header) :=
  if header.uncles.isEmpty then some []
  else
    (unclesOf header (.ok ((List.range header.uncles.length).map fun place ↦
      answer (Question.uncle header.hash place).call))).toOption

def answeredReceipts (block : Hash) (txs : List SignedTransaction) : Option (List RawReceipt) :=
  (receiptsOf block txs (txs.map fun t ↦ answer (Question.receipt t.hash).call)).toOption

def answeredTraces (block : Hash) (txs : List SignedTransaction) : Option (List RawTrace) :=
  txs.mapM fun t ↦ (answer (Question.trace t.hash timeout).call).toOption.bind fun value ↦
    (traceOf block t value).toOption

/-- The block with the given uncles. The block of number zero has no parent before it and is not
traced. -/
def answeredBody (block : NodeBlock) (uncles : List Header) : Option Block :=
  let header := block.header
  let txs := block.transactions
  if header.number.isZero then
    (reread (assembled header uncles ⟨0, header.hash.hex⟩ [])).toOption
  else
    (answeredReceipts answer header.hash txs).bind fun receipts ↦
    (answeredTraces answer timeout header.hash txs).bind fun traces ↦
    (transactions chain (blockContext header) txs receipts traces).toOption.bind fun made ↦
    (reread (assembled header uncles (parentOf header) made)).toOption

/-- The block that a request names. -/
def answeredBlock (requested : Option PartialBlockIdentifier) : Option Block :=
  (BlockReference.read requested).toOption.bind fun reference ↦
  (answer (Question.block reference).call).toOption.bind fun value ↦
  if value.isNull then none
  else
    (decodeAs (.block (BlockReference.describe requested)) NodeBlock.decode value).toOption.bind
      fun block ↦
    (BlockReference.check requested block.header.number).toOption.bind fun _ ↦
    (answeredUncles answer block.header).bind fun uncles ↦
    answeredBody answer chain timeout block uncles

end Answers

/-! ### Traces in pieces -/

theorem flatten_chunks {α : Type} (size : Nat) (items : List α) :
    (chunks size items).flatten = items := by
  induction items using chunks.induct size with
  | case1 => simp [chunks]
  | case2 item rest ih =>
    rw [chunks, List.flatten_cons, ih, List.cons_append, List.take_append_drop]

/-- However traces are asked for, the calls are those for the transactions in their order. -/
theorem flatMap_calls_traceJobs (client : Client) (txs : List SignedTransaction) :
    (traceJobs client txs).flatMap Job.calls =
      txs.map fun t ↦ (Question.trace t.hash client.traceTimeout).call := by
  rw [← map_traceCall]
  unfold traceJobs
  simp only
  split
  · rw [List.flatMap_map, List.flatMap_id']
    exact flatten_chunks _ _
  · rw [List.flatMap_map, List.flatMap_singleton']

variable (answer : Call → CallReply)

theorem toOption_replyValue (method : String) (reply : CallReply) :
    (replyValue method reply).toOption = reply.toOption := toOption_mapError _ _

theorem toOption_traceValues_ok {job : Job} {replies : List CallReply}
    (hlength : replies.length = job.calls.length) :
    (traceValues job (.ok replies)).toOption = replies.mapM Except.toOption := by
  have hvalues : traceValues job (.ok replies) = replies.mapM (replyValue traceMethod) := by
    rw [traceValues, batchReplies, if_pos hlength]
    rfl
  rw [hvalues, toOption_mapM]
  simp only [toOption_replyValue]

/-- The reply to a job of traces brings the values of its calls. -/
theorem toOption_traceValues {job : Job} (hjob : job.batched = true ∨ ∃ c, job.calls = [c]) :
    (traceValues job (job.steadyReply answer)).toOption =
      job.calls.mapM fun c ↦ (answer c).toOption := by
  obtain ⟨units, batched, calls⟩ := job
  cases batched with
  | true =>
    have hreply : Job.steadyReply answer ⟨units, true, calls⟩ = .ok (calls.map answer) := rfl
    rw [hreply, toOption_traceValues_ok (List.length_map ..), List.mapM_map]
    rfl
  | false =>
    rcases hjob with hbatched | ⟨c, hc⟩
    · cases hbatched
    · simp only at hc
      subst hc
      have hreply : Job.steadyReply answer ⟨units, false, [c]⟩ =
          (answer c).map fun value ↦ [.ok value] := rfl
      rw [hreply, List.mapM_cons, List.mapM_nil]
      cases answer c with
      | ok value =>
        have hone : Except.map (fun value ↦ [(.ok value : CallReply)]) (.ok value) =
            (.ok [.ok value] : BatchReply) := rfl
        rw [hone, toOption_traceValues_ok rfl]
        rfl
      | error message => rfl

theorem shape_traceJobs (client : Client) (txs : List SignedTransaction) :
    ∀ job ∈ traceJobs client txs, job.batched = true ∨ ∃ c, job.calls = [c] := by
  intro job hjob
  simp only [traceJobs] at hjob
  split at hjob
  · obtain ⟨piece, -, rfl⟩ := List.mem_map.mp hjob
    exact Or.inl rfl
  · obtain ⟨call, -, rfl⟩ := List.mem_map.mp hjob
    exact Or.inr ⟨call, rfl⟩

/-- The values of all jobs, put together, are those of all calls. -/
theorem toOption_mapM_traceValues {jobs : List Job}
    (hjobs : ∀ job ∈ jobs, job.batched = true ∨ ∃ c, job.calls = [c]) :
    ((jobs.zip (jobs.map (Job.steadyReply answer))).mapM fun s ↦ traceValues s.1 s.2).toOption.map
        List.flatten =
      (jobs.flatMap Job.calls).mapM fun c ↦ (answer c).toOption := by
  induction jobs with
  | nil => rfl
  | cons job rest ih =>
    obtain ⟨hjob, hrest⟩ := List.forall_mem_cons.mp hjobs
    have hvalues := toOption_traceValues answer hjob
    rw [List.map_cons, List.zip_cons_cons, List.mapM_cons, List.flatMap_cons, List.mapM_append,
      ← ih hrest, ← hvalues, toOption_bind]
    cases traceValues job (job.steadyReply answer) with
    | error e => rfl
    | ok values =>
      cases (rest.zip (rest.map (Job.steadyReply answer))).mapM fun s ↦ traceValues s.1 s.2 <;> rfl

/-- The traces that the trace lane brings are those of the answers. -/
theorem toOption_tracesOf (client : Client) (block : Hash) (txs : List SignedTransaction) :
    (tracesOf client block txs ((traceJobs client txs).map (Job.steadyReply answer))).toOption =
      answeredTraces answer client.traceTimeout block txs := by
  have hvalues := toOption_mapM_traceValues answer (shape_traceJobs client txs)
  rw [flatMap_calls_traceJobs, List.mapM_map] at hvalues
  have htraces := mapM_bind_zip
    (fun t ↦ (answer (Question.trace t.hash client.traceTimeout).call).toOption)
    (fun t value ↦ (traceOf block t value).toOption) txs
  have hexamined (values : List Json) :
      ((txs.zip values).mapM fun s ↦ traceOf block s.1 s.2).toOption =
        (txs.zip values).mapM fun s ↦ (traceOf block s.1 s.2).toOption := toOption_mapM _ _
  rw [answeredTraces, ← htraces, tracesOf, toOption_bind]
  have hsame : (txs.mapM fun t ↦
      (answer (Question.trace t.hash client.traceTimeout).call).toOption) =
        txs.mapM ((fun c ↦ (answer c).toOption) ∘
          fun t ↦ (Question.trace t.hash client.traceTimeout).call) := rfl
  rw [hsame, ← hvalues, Option.bind_map]
  refine congrArg _ (funext fun values ↦ ?_)
  exact hexamined values.flatten

/-! ### Lanes -/

theorem errorOf?_eq_some {α : Type} {result : Except ClientError α} {e : ClientError}
    (he : errorOf? result = some e) : result = .error e := by
  cases result with
  | ok value => cases he
  | error other =>
    cases he
    rfl

theorem receiptsOfLane_steady (block : Hash) (txs : List SignedTransaction) :
    receiptsOfLane block txs ((receiptLane block txs).jobs.map (Job.steadyReply answer)) =
      receiptsOf block txs (txs.map fun t ↦ answer (Question.receipt t.hash).call) := by
  have hasked : (txs.map fun t ↦ answer (Question.receipt t.hash).call) =
      (receiptCalls txs).map answer := by
    rw [receiptCalls_eq, List.map_map]
    rfl
  rw [hasked]
  cases txs with
  | nil => rfl
  | cons t rest =>
    have hjobs : (receiptLane block (t :: rest)).jobs =
        [⟨none, true, receiptCalls (t :: rest)⟩] := rfl
    have hreplies : batchReplies receiptMethod (t :: rest).length
        (.ok ((receiptCalls (t :: rest)).map answer)) =
          .ok ((receiptCalls (t :: rest)).map answer) := by simp [batchReplies, receiptCalls]
    rw [hjobs, List.map_singleton, receiptsOfLane, Job.steadyReply, hreplies]
    rfl

section Fails

variable {answer} {xs : List Exchange} {e : ClientError}
  (hallows : ∀ x ∈ xs, (Manner.steady answer).Allows x)
include hallows

theorem answeredReceipts_of_fails {block : Hash} {txs : List SignedTransaction}
    (hfails : (receiptLane block txs).Fails xs e) : answeredReceipts answer block txs = none := by
  rcases hfails with ⟨job, -, x, -, reply, -, hreject⟩ | ⟨replies, hbrings, hclose⟩
  · cases hreject
  · have herror := errorOf?_eq_some hclose
    rw [replies_steady answer hallows hbrings, receiptsOfLane_steady] at herror
    rw [answeredReceipts, herror]
    rfl

/-- A trace that is refused when it arrives is one that the answers do not have. -/
theorem answeredTraces_of_fails {client : Client} {block : Hash} {txs : List SignedTransaction}
    (hfails : (traceLane client block txs).Fails xs e) :
    answeredTraces answer client.traceTimeout block txs = none := by
  rcases hfails with ⟨job, hjob, x, hx, reply, hbrings, hreject⟩ | ⟨replies, hbrings, hclose⟩
  · have herror := errorOf?_eq_some hreject
    rw [Job.brings_steady answer (hallows x hx) hbrings] at herror
    have hvalues := toOption_traceValues answer (shape_traceJobs client txs job hjob)
    rw [herror] at hvalues
    obtain ⟨c, hc, hnone⟩ := mapM_eq_none_iff.mp hvalues.symm
    have hmem : c ∈ (traceJobs client txs).flatMap Job.calls :=
      List.mem_flatMap.mpr ⟨job, hjob, hc⟩
    rw [flatMap_calls_traceJobs] at hmem
    obtain ⟨t, ht, rfl⟩ := List.mem_map.mp hmem
    refine mapM_eq_none_iff.mpr ⟨t, ht, ?_⟩
    rw [hnone]
    rfl
  · have hreplies : replies = (traceJobs client txs).map (Job.steadyReply answer) :=
      replies_steady answer hallows hbrings
    have herror : tracesOf client block txs replies = .error e := errorOf?_eq_some hclose
    rw [← toOption_tracesOf answer client, ← hreplies, herror]
    rfl

end Fails

/-! ### The plan -/

theorem yields_bodyPlan {rounds : Nat} (client : Client) (block : NodeBlock)
    (uncles : List Header) :
    (bodyPlan client block uncles : Plan Block (rounds + 1)).Yields (.steady answer)
      (answeredBody answer client.chain client.traceTimeout block uncles) := by
  unfold bodyPlan answeredBody
  simp only
  split
  · exact Plan.yields_done _
  · refine Plan.yields_both answer (fun xs e hallows hfails ↦ ?_) (fun xs e hallows hfails ↦ ?_) ?_
    · rw [answeredReceipts_of_fails hallows hfails]
      rfl
    · rw [answeredTraces_of_fails hallows hfails]
      cases answeredReceipts answer block.header.hash block.transactions <;> rfl
    · rw [receiptsOfLane_steady, answeredReceipts, ← toOption_tracesOf answer client]
      refine Plan.yields_andThen _ fun receipts ↦ ?_
      refine Plan.yields_andThen _ fun traces ↦ ?_
      refine Plan.yields_notes ?_
      refine Plan.yields_andThen _ fun made ↦ ?_
      exact Plan.yields_done _

theorem yields_unclePlan (client : Client) (block : NodeBlock) :
    (unclePlan client block).Yields (.steady answer)
      ((answeredUncles answer block.header).bind
        (answeredBody answer client.chain client.traceTimeout block)) := by
  unfold unclePlan answeredUncles
  split
  · exact yields_bodyPlan answer client block []
  · have hasked : (uncleCalls block.header).map answer =
        (List.range block.header.uncles.length).map fun place ↦
          answer (Question.uncle block.header.hash place).call := by
      rw [uncleCalls_eq, List.map_map]
      rfl
    rw [← hasked]
    refine Plan.yields_batch answer _ ?_
    exact Plan.yields_andThen _ fun uncles ↦ yields_bodyPlan answer client block uncles

/-- The plan of a block yields the block of the answers. -/
theorem yields_plan (client : Client) (requested : Option PartialBlockIdentifier) :
    (plan client requested).Yields (.steady answer)
      (answeredBlock answer client.chain client.traceTimeout requested) := by
  refine Plan.yields_andThen _ fun reference ↦ ?_
  rw [← lookup_eq]
  refine Plan.yields_ask answer _ fun value ↦ ?_
  split
  · exact Plan.yields_done _
  · refine Plan.yields_andThen _ fun block ↦ ?_
    refine Plan.yields_andThen _ fun _ ↦ ?_
    exact Plan.yields_note (yields_unclePlan answer client block)

end RollupLedger.BlockAssembly
