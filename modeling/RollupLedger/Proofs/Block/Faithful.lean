import RollupLedger.Proofs.Block.Parts
import RollupLedger.Proofs.Block.Timing
import RollupLedger.Proofs.Client.Naming
import RollupLedger.Proofs.Flatten.Refusals
import RollupLedger.Proofs.Ledger.RoundTrip

/-!
# Blocks are made of what the node said

A block that a client returns is never put together from parts that do not belong together, whatever
the node says and however long it takes (`Session.faithful_result_block`). What the plan of a block
comes to is followed through its exchanges (`sound_plan`): an exchange that brings too much, too
little, a null or an error ends the plan with an error, so where there is a block all of them are
full, and each transaction has the receipt and the trace that were received for it. For the same
reason flattening never meets a receipt of another transaction (`avoids_transactions`), and since
the ledger's JSON is read back, the block is never lost after it was assembled.
-/

set_option autoImplicit false
set_option relaxedAutoImplicit false

namespace RollupLedger

/-! ### Nothing is blamed without reason -/

/-- The errors for which nothing that a node says gives reason: that a receipt is that of another
transaction, and that an assembled block cannot be read as it was written. -/
def ClientError.IsGroundless : ClientError → Prop
  | .flatten e => e.IsMismatch
  | .decode .assembled _ => True
  | _ => False

theorem avoids_decodeAs {α : Type} (subject : Subject) (decode : Json.Decoder α) (value : Json)
    (hsubject : subject ≠ .assembled := by nofun) :
    Avoids ClientError.IsGroundless (decodeAs subject decode value) := by
  refine avoids_mapError fun failure _ hgroundless ↦ ?_
  cases subject with
  | assembled => exact hsubject rfl
  | _ => exact hgroundless

theorem avoids_replyValue (method : String) (reply : CallReply) :
    Avoids ClientError.IsGroundless (replyValue method reply) :=
  avoids_mapError fun _ _ ↦ id

theorem avoids_batchReplies (method : String) (sent : Nat) (reply : BatchReply) :
    Avoids ClientError.IsGroundless (batchReplies method sent reply) := by
  unfold batchReplies
  split
  · exact avoids_error id
  · split
    · exact avoids_ok _
    · exact avoids_error id

theorem BlockReference.avoids_read (requested : Option Ledger.PartialBlockIdentifier) :
    Avoids ClientError.IsGroundless (read requested) := by
  unfold read
  split
  · exact avoids_bind (avoids_mapError fun _ _ ↦ id) fun _ _ ↦ avoids_ok _
  all_goals exact avoids_ok _

theorem BlockReference.avoids_check (requested : Option Ledger.PartialBlockIdentifier)
    (actual : Word 64) : Avoids ClientError.IsGroundless (check requested actual) := by
  unfold check
  split
  · exact avoids_ok ()
  · split
    · exact avoids_ok ()
    · exact avoids_error id

namespace BlockAssembly

open Ledger Wire Trace

theorem avoids_unclesOf (header : Header) (reply : BatchReply) :
    Avoids ClientError.IsGroundless (unclesOf header reply) := by
  refine avoids_bind (avoids_batchReplies _ _ _) fun replies _ ↦ avoids_mapM fun s _ ↦ ?_
  refine avoids_bind (avoids_replyValue _ _) fun value _ ↦ ?_
  split
  · exact avoids_error id
  · exact avoids_decodeAs _ _ _

theorem avoids_matchReceipts (block : Hash) (txs : List SignedTransaction)
    (received : List RawReceipt) :
    Avoids ClientError.IsGroundless (matchReceipts block txs received) := by
  induction txs generalizing received with
  | nil => exact avoids_ok []
  | cons t rest ih =>
    simp only [matchReceipts, takeReceipt]
    split
    · exact avoids_error id
    · exact avoids_bind (ih _) fun _ _ ↦ avoids_ok _

theorem avoids_receiptsOf (block : Hash) (txs : List SignedTransaction)
    (replies : List CallReply) :
    Avoids ClientError.IsGroundless (receiptsOf block txs replies) := by
  refine avoids_bind (avoids_mapM fun s _ ↦ ?_) fun received _ ↦ avoids_matchReceipts _ _ _
  refine avoids_bind (avoids_replyValue _ _) fun value _ ↦ ?_
  split
  · exact avoids_ok none
  · exact avoids_bind (avoids_decodeAs _ _ _) fun _ _ ↦ avoids_ok _

theorem avoids_receiptsOfLane (block : Hash) (txs : List SignedTransaction)
    (replies : List BatchReply) :
    Avoids ClientError.IsGroundless (receiptsOfLane block txs replies) := by
  cases replies with
  | nil => exact avoids_receiptsOf block txs []
  | cons reply rest =>
    exact avoids_bind (avoids_batchReplies _ _ _) fun _ _ ↦ avoids_receiptsOf block txs _

theorem avoids_traceValues (job : Job) (reply : BatchReply) :
    Avoids ClientError.IsGroundless (traceValues job reply) :=
  avoids_bind (avoids_batchReplies _ _ _) fun _ _ ↦ avoids_mapM fun _ _ ↦ avoids_replyValue _ _

theorem avoids_tracesOf (client : Client) (block : Hash) (txs : List SignedTransaction)
    (replies : List BatchReply) :
    Avoids ClientError.IsGroundless (tracesOf client block txs replies) := by
  refine avoids_bind (avoids_mapM fun s _ ↦ avoids_traceValues s.1 s.2) fun values _ ↦
    avoids_mapM fun (t, value) _ ↦ ?_
  change Avoids _ (traceOf block t value)
  unfold traceOf
  split
  · exact avoids_error id
  · refine avoids_bind (avoids_decodeAs _ _ _) fun frame _ ↦ avoids_bind ?_ fun _ _ ↦ avoids_ok _
    exact avoids_mapError (Arena.avoids_ofFrame frame)

/-! ### The block -/

/-- The first exchange asked for the block that the request names, and brought it as the node has
it. -/
def Fetches (requested : Option PartialBlockIdentifier) (xs : List Exchange)
    (fetched : NodeBlock) : Prop :=
  ∃ reference value, BlockReference.Names requested reference ∧
    xs.head? = some (.call (Question.block reference).call (.ok value)) ∧
    NodeBlock.decode.run value = .ok fetched

/-- A block that is made of what was exchanged with the node. The first exchange brought the block
as the node has it; for each transaction of that there is one of the block, in the same order, made
of it, of its receipt and of its trace. -/
structure Faithful (client : Client) (requested : Option PartialBlockIdentifier)
    (xs : List Exchange) (fetched : NodeBlock) (block : Block) : Prop where
  first : Fetches requested xs fetched
  identifier : block.identifier = ⟨fetched.header.number, fetched.header.hash.hex⟩
  transactions : fetched.transactions.Forall₂ (fun t made ↦ ∃ receipt trace,
    RawReceipt.Answers fetched.transactions (xs.flatMap Exchange.answers) t receipt ∧
    RawTrace.Answers client (xs.flatMap Exchange.answers) t trace ∧
    Composed client (blockContext fetched.header) t receipt trace made) block.transactions

/-- A result of a request for a block. It is a block only if every exchange brought all that was
asked for, and one that is made of the exchanges unless its number is zero; as an error it is not
groundless. -/
structure Sound (client : Client) (requested : Option PartialBlockIdentifier)
    (xs : List Exchange) (result : Except ClientError Block) : Prop where
  full : ∀ block, result = .ok block → ∀ x ∈ xs, x.IsFull
  faithful : ∀ block, result = .ok block → block.identifier.index ≠ 0 →
    ∃ fetched, Faithful client requested xs fetched block
  avoids : Avoids ClientError.IsGroundless result

variable {client : Client} {requested : Option PartialBlockIdentifier} {xs ys : List Exchange}

theorem sound_error {e : ClientError} (he : ¬ e.IsGroundless) :
    Sound client requested xs (.error e) where
  full := fun _ hblock ↦ nomatch hblock
  faithful := fun _ hblock ↦ nomatch hblock
  avoids := avoids_error he

theorem RawReceipt.Answers.mono {txs : List SignedTransaction} {answers more : List (Call × Json)}
    {t : SignedTransaction} {receipt : RawReceipt}
    (hreceipt : RawReceipt.Answers txs answers t receipt) (hsub : answers ⊆ more) :
    RawReceipt.Answers txs more t receipt := by
  obtain ⟨asked, hasked, hanswer⟩ := hreceipt.answered
  exact ⟨⟨asked, hasked, hsub hanswer⟩, hreceipt.present, hreceipt.read, hreceipt.own⟩

theorem RawTrace.Answers.mono {answers more : List (Call × Json)} {t : SignedTransaction}
    {trace : RawTrace} (htrace : RawTrace.Answers client answers t trace) (hsub : answers ⊆ more) :
    RawTrace.Answers client more t trace :=
  ⟨hsub htrace.answered, htrace.present, htrace.read⟩

theorem not_isGroundless_of_receiptLane {block : Hash} {txs : List SignedTransaction}
    {e : ClientError} (hfails : (receiptLane block txs).Fails xs e) : ¬ e.IsGroundless := by
  rcases hfails with ⟨_, -, _, -, _, -, hreject⟩ | ⟨_, -, hclose⟩
  · cases hreject
  · exact avoids_receiptsOfLane _ _ _ e (errorOf?_eq_some hclose)

theorem not_isGroundless_of_traceLane {block : Hash} {txs : List SignedTransaction}
    {e : ClientError} (hfails : (traceLane client block txs).Fails xs e) : ¬ e.IsGroundless := by
  rcases hfails with ⟨_, -, _, -, _, -, hreject⟩ | ⟨_, -, hclose⟩
  · exact avoids_traceValues _ _ e (errorOf?_eq_some hreject)
  · exact avoids_tracesOf _ _ _ _ e (errorOf?_eq_some hclose)

/-- Receipts and traces that belong to the transactions make the transactions of a block. -/
theorem transactions_eq_ok {context : BlockContext} {answers : List (Call × Json)}
    {txs : List SignedTransaction} {receipts : List RawReceipt} {traces : List RawTrace}
    (hreceipts : txs.Forall₂ (RawReceipt.Answers txs answers) receipts)
    (htraces : txs.Forall₂ (RawTrace.Answers client answers) traces) {made : List Transaction}
    (hmade : transactions client.chain context txs receipts traces = .ok made) :
    txs.Forall₂ (fun t made ↦ ∃ receipt trace, RawReceipt.Answers txs answers t receipt ∧
      RawTrace.Answers client answers t trace ∧ Composed client context t receipt trace made)
        made := by
  have hpairs := forall₂_zip_right hreceipts htraces
  have hall : Forall₃ (fun t (s : RawReceipt × RawTrace) made ↦
      transaction client.chain context t s.1 s.2 = .ok made) txs (receipts.zip traces) made :=
    mapM_zip_eq_ok hpairs.length_eq hmade
  refine hall.forall₂_zip.imp fun t made ⟨s, hs, hmade⟩ ↦ ?_
  obtain ⟨hreceipt, htrace⟩ := List.forall₂_zip hpairs hs
  exact ⟨s.1, s.2, hreceipt, htrace, transaction_eq_ok hmade⟩

theorem avoids_transactions {context : BlockContext} {answers : List (Call × Json)}
    {txs : List SignedTransaction} {receipts : List RawReceipt} {traces : List RawTrace}
    (hreceipts : txs.Forall₂ (RawReceipt.Answers txs answers) receipts)
    (htraces : txs.Forall₂ (RawTrace.Answers client answers) traces) :
    Avoids ClientError.IsGroundless (transactions client.chain context txs receipts traces) := by
  have hpairs := forall₂_zip_right hreceipts htraces
  refine avoids_mapM fun (t, receipt, trace) hs ↦ ?_
  have hown : receipt.receipt.transactionHash = t.hash := (List.forall₂_zip hpairs hs).1.own
  refine avoids_bind ?_ fun _ _ ↦ avoids_ok _
  exact avoids_mapError (Flatten.avoids_flatten hown trace.arena)

theorem Fetches.append {fetched : NodeBlock} (hfirst : Fetches requested xs fetched)
    (ys : List Exchange) : Fetches requested (xs ++ ys) fetched := by
  obtain ⟨reference, value, hnames, hhead, hdecode⟩ := hfirst
  exact ⟨reference, value, hnames, by rw [List.head?_append, hhead]; rfl, hdecode⟩

variable {fetched : NodeBlock} {uncles : List Header} {result : Except ClientError Block}

/-- What is left to do when receipts and traces are known. -/
theorem sound_transactions {rounds : Nat} {receipts : List RawReceipt} {traces : List RawTrace}
    (hfull : ∀ x ∈ xs, x.IsFull) (hfirst : Fetches requested xs fetched)
    (hreceipts : fetched.transactions.Forall₂
      (RawReceipt.Answers fetched.transactions (xs.flatMap Exchange.answers)) receipts)
    (htraces : fetched.transactions.Forall₂
      (RawTrace.Answers client (xs.flatMap Exchange.answers)) traces)
    (hcomes : (Plan.andThen
      (transactions client.chain (blockContext fetched.header) fetched.transactions receipts traces)
      fun made ↦ .done (reread (assembled fetched.header uncles (parentOf fetched.header) made)) :
        Plan Block rounds).Comes ys result) :
    Sound client requested (xs ++ ys) result := by
  rcases Plan.comes_andThen hcomes with ⟨made, hmade, hcomes⟩ | ⟨e, he, rfl, rfl⟩
  · rw [reread_eq_ok] at hcomes
    cases hcomes
    rw [List.append_nil]
    refine ⟨fun _ _ ↦ hfull, fun block hblock _ ↦ ⟨fetched, ?_⟩, avoids_ok _⟩
    cases hblock
    exact ⟨hfirst, rfl, transactions_eq_ok hreceipts htraces hmade⟩
  · exact sound_error (avoids_transactions hreceipts htraces e he)

/-- What is left to do when the block and its uncles are known, after exchanges that brought all
that was asked for. -/
theorem sound_bodyPlan {rounds : Nat} (hfull : ∀ x ∈ xs, x.IsFull)
    (hfirst : Fetches requested xs fetched)
    (hcomes : (bodyPlan client fetched uncles : Plan Block (rounds + 1)).Comes ys result) :
    Sound client requested (xs ++ ys) result := by
  unfold bodyPlan at hcomes
  simp only at hcomes
  split at hcomes
  · rename_i hzero
    rw [reread_eq_ok] at hcomes
    cases hcomes
    rw [List.append_nil]
    refine ⟨fun _ _ ↦ hfull, fun block hblock hnumber ↦ absurd ?_ hnumber, avoids_ok _⟩
    cases hblock
    exact Word.ext (Word.isZero_iff.mp hzero)
  · cases hcomes with
    | left hfails => exact sound_error (not_isGroundless_of_receiptLane hfails)
    | right hfails => exact sound_error (not_isGroundless_of_traceLane hfails)
    | @both _ _ _ _ l r lanes ls rs after _ hperm hl hr hcomes =>
      rcases Plan.comes_andThen hcomes with ⟨receipts, hreceipts, hcomes⟩ | ⟨e, he, rfl, rfl⟩
      · rcases Plan.comes_andThen hcomes with ⟨traces, htraces, hcomes⟩ | ⟨e, he, rfl, rfl⟩
        · obtain ⟨hfullLeft, hreceipts⟩ := receiptsOfLane_eq_ok hl hreceipts
          obtain ⟨hfullRight, htraces⟩ := tracesOf_eq_ok hr htraces
          have hlanes : ls ++ rs ⊆ xs ++ lanes :=
            List.Subset.trans hperm.symm.subset (List.subset_append_right xs lanes)
          have hleft := Exchange.answers_subset (List.append_subset.mp hlanes).1
          have hright := Exchange.answers_subset (List.append_subset.mp hlanes).2
          have hall : ∀ x ∈ xs ++ lanes, x.IsFull := by
            refine List.forall_mem_append.mpr ⟨hfull, fun x hx ↦ ?_⟩
            exact (List.mem_append.mp (hperm.mem_iff.mp hx)).elim (hfullLeft x) (hfullRight x)
          rw [← List.append_assoc]
          exact sound_transactions hall (hfirst.append lanes)
            (hreceipts.imp fun _ _ hreceipt ↦ hreceipt.mono hleft)
            (htraces.imp fun _ _ htrace ↦ htrace.mono hright) (Plan.comes_notes hcomes)
        · exact sound_error (avoids_tracesOf _ _ _ _ e he)
      · exact sound_error (avoids_receiptsOfLane _ _ _ e he)

/-- What is left to do when the block is known. -/
theorem sound_unclePlan (hfull : ∀ x ∈ xs, x.IsFull) (hfirst : Fetches requested xs fetched)
    (hcomes : (unclePlan client fetched).Comes ys result) :
    Sound client requested (xs ++ ys) result := by
  unfold unclePlan at hcomes
  split at hcomes
  · exact sound_bodyPlan hfull hfirst hcomes
  · cases hcomes with
    | @batch _ _ _ reply ys _ hcomes =>
      rcases Plan.comes_andThen hcomes with ⟨uncles, huncles, hcomes⟩ | ⟨e, he, rfl, rfl⟩
      · rw [List.append_cons]
        refine sound_bodyPlan (List.forall_mem_append.mpr ⟨hfull, ?_⟩) (hfirst.append _) hcomes
        exact List.forall_mem_singleton.mpr (isFull_of_unclesOf huncles)
      · exact sound_error (avoids_unclesOf _ _ e he)

/-- Whatever the node says, a request for a block comes to a block that is made of what the node
said, or to an error for which there is reason. -/
theorem sound_plan (hcomes : (plan client requested).Comes xs result) :
    Sound client requested xs result := by
  rcases Plan.comes_andThen hcomes with ⟨reference, hread, hasks⟩ | ⟨e, he, rfl, rfl⟩
  · rw [lookup_eq] at hasks
    rcases Plan.comes_ask hasks with ⟨value, ys, rfl, hanswered⟩ | ⟨message, rfl, rfl⟩
    · split at hanswered
      · cases hanswered
        exact sound_error id
      · rename_i hpresent
        rcases Plan.comes_andThen hanswered with ⟨fetched, hfetched, hchecks⟩ | ⟨e, he, rfl, rfl⟩
        · rcases Plan.comes_andThen hchecks with ⟨_, -, hnotes⟩ | ⟨e, he, rfl, rfl⟩
          · cases hnotes with
            | note hrest =>
              rw [← List.singleton_append]
              have hfirst : Fetches requested
                  [.call (Question.block reference).call (.ok value)] fetched :=
                ⟨reference, value, BlockReference.names_of_read hread, rfl,
                  decodeAs_eq_ok hfetched⟩
              refine sound_unclePlan ?_ hfirst hrest
              exact List.forall_mem_singleton.mpr
                (Exchange.isFull_call (Bool.eq_false_iff.mpr hpresent))
          · exact sound_error (BlockReference.avoids_check _ _ e he)
        · exact sound_error ((avoids_decodeAs _ _ _) e he)
    · exact sound_error id
  · exact sound_error (BlockReference.avoids_read _ e he)

/-- A request that comes to a block has looked it up, and then does what is left to do when the
block is known. -/
theorem exists_unclePlan_of_comes {block : Block}
    (hcomes : (plan client requested).Comes xs (.ok block)) :
    ∃ reference value fetched ys, BlockReference.Names requested reference ∧
      NodeBlock.decode.run value = .ok fetched ∧
      xs = .call (Question.block reference).call (.ok value) :: ys ∧
      (unclePlan client fetched).Comes ys (.ok block) := by
  obtain ⟨reference, hread, hasks⟩ := Plan.comes_andThen_ok hcomes
  rw [lookup_eq] at hasks
  obtain ⟨value, ys, rfl, hanswered⟩ := Plan.comes_ask_ok hasks
  split at hanswered
  · cases hanswered
  · obtain ⟨fetched, hfetched, hchecks⟩ := Plan.comes_andThen_ok hanswered
    obtain ⟨_, -, hnotes⟩ := Plan.comes_andThen_ok hchecks
    cases hnotes with
    | note hrest =>
      exact ⟨reference, value, fetched, ys, BlockReference.names_of_read hread,
        decodeAs_eq_ok hfetched, rfl, hrest⟩

end BlockAssembly

namespace Session

open BlockAssembly

/-- Whatever a node says, in whatever round and whatever else is asked for at the same time, a
request for a block has a result, by exchanges that are among those of the round. If it is a block,
every one of these exchanges brought a value that is not null for each of its calls, and a block
whose number is not zero is made of them, transaction by transaction. If it is an error, it does not
say that a receipt belongs to another transaction. -/
theorem faithful_result_block {client : Client} {σ : Type} {node : Responder σ}
    {session : Session σ} (hreached : Reached client node session)
    (requested : Option Ledger.PartialBlockIdentifier) (limits : Limits) (inquiries : List Inquiry)
    {place : Nat} (hplace : inquiries[place]? = some (.block requested)) :
    ∃ result xs, (session.ask limits inquiries).1.results[place]? = some (some result) ∧
      xs.Sublist (session.transcript limits inquiries) ∧
      (inquiries = [.block requested] → xs = session.transcript limits inquiries) ∧
      (∀ response, result = .ok response → ∃ block, response = .block block ∧
        (∀ x ∈ xs, x.IsFull) ∧ (block.identifier.index ≠ 0 →
          ∃ fetched, Faithful client requested xs fetched block)) ∧
      ∀ transaction receipt, result ≠ .error (.flatten (.receiptMismatch transaction receipt)) := by
  obtain ⟨result, xs, hresult, hsub, halone, hcomes | ⟨why, rfl, -⟩⟩ :=
    exists_exchanges hreached limits inquiries hplace
  · refine ⟨result, xs, hresult, hsub, halone, ?_⟩
    obtain ⟨before, hbefore, rfl⟩ := Plan.comes_map hcomes
    have hsound := sound_plan hbefore
    cases before with
    | ok block =>
      refine ⟨?_, nofun⟩
      rintro _ ⟨⟩
      exact ⟨block, rfl, hsound.full block rfl, hsound.faithful block rfl⟩
    | error e =>
      refine ⟨nofun, ?_⟩
      rintro transaction receipt ⟨⟩
      exact hsound.avoids _ rfl trivial
  · exact ⟨_, xs, hresult, hsub, halone, nofun, nofun⟩

/-- A block of three transactions, whose traces are asked for one by one through a gate of no
capacity, is made of all that passed. -/
theorem faithful_result_block_sample :
    ∃ block,
      ((Sample.session 0 false fun _ ↦ 0).ask ⟨none, none⟩ [.block none]).1.results[0]? =
        some (some (.ok (.block block))) ∧
      block.identifier.index ≠ 0 ∧ block.transactions.length = 3 ∧
      Faithful (Sample.settings 0 false).client none
        ((Sample.session 0 false fun _ ↦ 0).transcript ⟨none, none⟩ [.block none])
        Sample.nodeBlock block := by
  have hplace : [Inquiry.block none][0]? = some (.block none) := rfl
  obtain ⟨block, hblock, hidentifier⟩ := Sample.exists_block 0 false fun _ ↦ 0
  have hnumber : block.identifier.index ≠ 0 := by
    rw [hidentifier]
    decide
  obtain ⟨_, xs, hresult, hsub, halone, hmade, -⟩ :=
    faithful_result_block (Sample.reached_session 0 false fun _ ↦ 0) none ⟨none, none⟩ _ hplace
  cases hblock.symm.trans hresult
  obtain ⟨_, ⟨⟩, -, hfaithful⟩ := hmade _ rfl
  obtain ⟨fetched, hfaithful⟩ := hfaithful hnumber
  obtain ⟨reference, value, hnames, hhead, hread⟩ := hfaithful.first
  cases hnames with
  | unnamed =>
    have hmem := hsub.subset (List.mem_of_head? hhead)
    rw [Sample.eq_nodeBlock hmem hread] at hfaithful
    exact ⟨block, hblock, hnumber, hfaithful.transactions.length_eq.symm, halone rfl ▸ hfaithful⟩

end Session

end RollupLedger
