import RollupLedger.Proofs.Block.Faithful
import RollupLedger.Proofs.Client.Admission
import RollupLedger.Proofs.Client.Occasion

/-!
# The requests that assemble a block

A block that a client returns tells what was sent for it (`Session.itemized_result_block`): one
look-up of the block, one batch for its uncles if it has any, and then, unless its number is zero,
one batch of receipts and the requests for the traces. Traces are asked for in calls of their own,
or in pieces of the gate's capacity of which only the last may be smaller. There is only one way to
cut a list into such pieces (`Pieces.unique`). Nothing else is sent, and every call is spelled out
(`Question.call`). The block lists its uncles in the order of the replies that it was made of
(`ListsUncles`).
-/

set_option autoImplicit false
set_option relaxedAutoImplicit false

namespace RollupLedger

/-! ### The requests of lanes -/

/-- What is sent for a job. -/
def Job.request (job : Job) : Request :=
  match job.batched, job.calls with
  | false, [c] => .call c
  | _, cs => .batch cs

theorem Job.Brings.request_eq {job : Job} {x : Exchange} {reply : BatchReply}
    (hbrings : job.Brings x reply) : x.request = job.request := by
  obtain ⟨units, batched, calls⟩ := job
  cases batched with
  | true =>
    cases hbrings
    rfl
  | false =>
    cases calls with
    | nil =>
      cases hbrings
      rfl
    | cons c rest =>
      cases rest with
      | nil =>
        obtain ⟨_, rfl, -⟩ := hbrings
        rfl
      | cons other others =>
        cases hbrings
        rfl

theorem map_request_of_brings {jobs : List Job} {xs : List Exchange} {replies : List BatchReply}
    (hbrings : Forall₃ Job.Brings jobs xs replies) :
    xs.map Exchange.request = jobs.map Job.request := by
  induction hbrings with
  | nil => rfl
  | cons hfirst _ ih => rw [List.map_cons, List.map_cons, hfirst.request_eq, ih]

/-- A lane that comes to its end has sent one request for each of its jobs. -/
theorem Lane.Passes.requests_perm {lane : Lane} {xs : List Exchange} {replies : List BatchReply}
    (hpasses : lane.Passes xs replies) :
    (xs.map Exchange.request).Perm (lane.jobs.map Job.request) := by
  obtain ⟨ys, hperm, hbrings⟩ := hpasses.brings
  rw [← map_request_of_brings hbrings]
  exact hperm.map Exchange.request

/-! ### Pieces -/

/-- The consecutive pieces of a list, all of one size but the last, which may be smaller. -/
structure Pieces {α : Type} (size : Nat) (items : List α) (pieces : List (List α)) : Prop where
  flatten : pieces.flatten = items
  nonempty : ∀ piece ∈ pieces, piece ≠ []
  bounded : ∀ piece ∈ pieces, piece.length ≤ size
  full : ∀ piece ∈ pieces.dropLast, piece.length = size

namespace Pieces

variable {α : Type} {size : Nat} {items piece : List α} {pieces others : List (List α)}

theorem eq_nil (hpieces : Pieces size items []) : items = [] := hpieces.flatten.symm

theorem ne_nil (hpieces : Pieces size items (piece :: pieces)) : items ≠ [] := by
  intro hnone
  have hflatten := hpieces.flatten.trans hnone
  rw [List.flatten_cons] at hflatten
  exact hpieces.nonempty piece List.mem_cons_self (List.append_eq_nil_iff.mp hflatten).1

/-- The first piece is as large as it can be. -/
theorem head_eq (hpieces : Pieces size items (piece :: pieces)) : piece = items.take size := by
  have hflatten := hpieces.flatten
  cases pieces with
  | nil =>
    rw [List.flatten_singleton] at hflatten
    rw [← hflatten, List.take_of_length_le (hpieces.bounded piece List.mem_cons_self)]
  | cons next rest =>
    have hfull : piece.length = size := hpieces.full piece List.mem_cons_self
    rw [← hflatten, List.flatten_cons, ← hfull, List.take_left']
    rfl

theorem tail (hpieces : Pieces size items (piece :: pieces)) :
    Pieces size (items.drop size) pieces where
  flatten := by
    have hitems : items.take size ++ pieces.flatten = items.take size ++ items.drop size := by
      rw [List.take_append_drop, ← hpieces.head_eq, ← List.flatten_cons, hpieces.flatten]
    exact List.append_cancel_left hitems
  nonempty := fun other hother ↦ hpieces.nonempty other (List.mem_cons_of_mem piece hother)
  bounded := fun other hother ↦ hpieces.bounded other (List.mem_cons_of_mem piece hother)
  full := by
    intro other hother
    refine hpieces.full other ?_
    cases pieces with
    | nil => cases hother
    | cons next rest => exact List.mem_cons_of_mem piece hother

/-- There is only one way to cut a list into pieces. -/
theorem unique (hpieces : Pieces size items pieces) (hothers : Pieces size items others) :
    pieces = others := by
  induction pieces generalizing items others with
  | nil =>
    cases others with
    | nil => rfl
    | cons other rest => exact absurd hpieces.eq_nil hothers.ne_nil
  | cons piece pieces ih =>
    cases others with
    | nil => exact absurd hothers.eq_nil hpieces.ne_nil
    | cons other rest =>
      rw [hpieces.head_eq, hothers.head_eq, ih hpieces.tail hothers.tail]

end Pieces

namespace BlockAssembly

open Ledger Wire

theorem ne_nil_of_mem_chunks {α : Type} (size : Nat) (items : List α) :
    ∀ piece ∈ chunks size items, piece ≠ [] := by
  induction items using chunks.induct size with
  | case1 =>
    rw [chunks]
    exact List.forall_mem_nil _
  | case2 item rest ih =>
    rw [chunks]
    exact List.forall_mem_cons.mpr ⟨List.cons_ne_nil item _, ih⟩

theorem full_chunks {α : Type} {size : Nat} (hsize : 0 < size) (items : List α) :
    ∀ piece ∈ (chunks size items).dropLast, piece.length = size := by
  induction items using chunks.induct size with
  | case1 =>
    rw [chunks]
    exact List.forall_mem_nil _
  | case2 item rest ih =>
    rw [chunks]
    cases hothers : chunks size (rest.drop (size - 1)) with
    | nil => exact List.forall_mem_nil _
    | cons next others =>
      rw [List.dropLast_cons_cons, ← hothers, List.forall_mem_cons]
      refine ⟨?_, ih⟩
      -- Where another piece follows, there were enough items for this one.
      have hmore : size - 1 < rest.length := by
        by_contra hfew
        rw [List.drop_eq_nil_of_le (Nat.le_of_not_lt hfew), chunks] at hothers
        cases hothers
      rw [List.length_cons, List.length_take]
      omega

theorem pieces_chunks {α : Type} {size : Nat} (hsize : 0 < size) (items : List α) :
    Pieces size items (chunks size items) where
  flatten := flatten_chunks size items
  nonempty := ne_nil_of_mem_chunks size items
  bounded := by
    intro piece hpiece
    have hbounded := length_of_mem_chunks size items piece hpiece
    rwa [Nat.max_eq_right hsize] at hbounded
  full := full_chunks hsize items

/-! ### What is sent for a block -/

/-- The batch for the uncles of a block, if it has any, with the replies to it. They are asked for
by their places, from the first on. -/
def uncleExchanges (header : Header) (replies : List CallReply) : List Exchange :=
  if header.uncles = [] then []
  else
    [.batch ((List.range header.uncles.length).map fun place ↦
      (Question.uncle header.hash place).call) (.ok replies)]

/-- The batch for the receipts of transactions, if there are any. -/
def receiptRequests (txs : List SignedTransaction) : List Request :=
  if txs = [] then [] else [.batch (txs.map fun t ↦ (Question.receipt t.hash).call)]

/-- The requests for the traces of transactions: for each transaction its own call, or batches of as
many as the gate admits at once. -/
def TraceRequests (client : Client) (capacity : Nat) (txs : List SignedTransaction)
    (requests : List Request) : Prop :=
  let calls := txs.map fun t ↦ (Question.trace t.hash client.traceTimeout).call
  if client.batchTraces then
    ∃ pieces, Pieces capacity calls pieces ∧ requests = pieces.map .batch
  else requests = calls.map .call

/-- The requests for receipts and traces, in whatever order they were sent. The block of number zero
needs none. -/
def BodyRequests (client : Client) (capacity : Nat) (fetched : NodeBlock)
    (requests : List Request) : Prop :=
  if fetched.header.number.toNat = 0 then requests = []
  else ∃ traces, TraceRequests client capacity fetched.transactions traces ∧
    requests.Perm (receiptRequests fetched.transactions ++ traces)

/-- The entry of an uncle: it has the uncle's place, and shows what the reply says of it. -/
structure ShowsUncle (place : Nat) (reply : CallReply) (entry : Json) : Prop where
  made : ∃ value uncle members, reply = .ok value ∧ Header.decode.run value = .ok uncle ∧
    entry = .obj members ∧ members.lookup "index" = some (.nat place) ∧
    members.lookup "hash" = some (encodeFixed uncle.hash) ∧
    members.lookup "number" = some (encodeWord uncle.number) ∧
    members.lookup "miner" = some (.str uncle.miner.checksummed)

/-- The metadata of a block list its uncles, each made of the reply at its place, or have no such
member if there are none. -/
structure ListsUncles (header : Header) (replies : List CallReply) (members : Json.Members) :
    Prop where
  absent : header.uncles = [] → members.lookup "uncles" = none
  present : header.uncles ≠ [] → ∃ entries, members.lookup "uncles" = some (.arr entries) ∧
    entries.length = header.uncles.length ∧ replies.length = header.uncles.length ∧
    ∀ place reply, replies[place]? = some reply →
      ∃ entry, entries[place]? = some entry ∧ ShowsUncle place reply entry

/-- The exchanges by which a block was assembled. The first looked up the block as the node has it;
`replies` are those to the batch for its uncles, and `lanes` brought receipts and traces. -/
structure Itemized (client : Client) (capacity : Nat) (requested : Option PartialBlockIdentifier)
    (fetched : NodeBlock) (replies : List CallReply) (lanes xs : List Exchange) (block : Block) :
    Prop where
  exchanges : ∃ reference value, BlockReference.Names requested reference ∧
    NodeBlock.decode.run value = .ok fetched ∧
    xs = .call (Question.block reference).call (.ok value) ::
      (uncleExchanges fetched.header replies ++ lanes)
  body : BodyRequests client capacity fetched (lanes.map Exchange.request)
  uncles : ∃ members, block.metadata = some members ∧ ListsUncles fetched.header replies members

/-! ### Receipts and traces -/

theorem map_request_receiptLane (block : Hash) (txs : List SignedTransaction) :
    (receiptLane block txs).jobs.map Job.request = receiptRequests txs := by
  rw [receiptLane, receiptCalls_eq]
  cases txs with
  | nil => rfl
  | cons t rest => rfl

theorem traceRequests_traceJobs {client : Client} (hcapacity : 0 < client.capacity)
    (txs : List SignedTransaction) :
    TraceRequests client client.capacity txs ((traceJobs client txs).map Job.request) := by
  unfold TraceRequests traceJobs
  rw [map_traceCall]
  simp only
  split
  · refine ⟨_, pieces_chunks hcapacity _, ?_⟩
    rw [List.map_map]
    rfl
  · simp only [List.map_map]
    rfl

section Assembly

variable {client : Client} {requested : Option PartialBlockIdentifier} {fetched : NodeBlock}
  {uncles : List Header} {xs : List Exchange} {block : Block}

/-- What is left to do when the uncles are known sends what the body of the block needs. -/
theorem bodyRequests_of_comes {rounds : Nat} (hcapacity : 0 < client.capacity)
    (hcomes : (bodyPlan client fetched uncles : Plan Block (rounds + 1)).Comes xs (.ok block)) :
    BodyRequests client client.capacity fetched (xs.map Exchange.request) ∧
      block.metadata = some (blockMetadata fetched.header uncles) := by
  unfold BodyRequests
  unfold bodyPlan at hcomes
  simp only at hcomes
  split at hcomes
  · rename_i hzero
    rw [reread_eq_ok] at hcomes
    cases hcomes
    rw [if_pos (Word.isZero_iff.mp hzero)]
    exact ⟨rfl, rfl⟩
  · rename_i hnumber
    rw [if_neg fun hzero ↦ hnumber (Word.isZero_iff.mpr hzero)]
    cases hcomes with
    | @both _ _ _ _ _ _ lanes ls rs after _ hperm hl hr hcomes =>
      obtain ⟨receipts, -, hcomes⟩ := Plan.comes_andThen_ok hcomes
      obtain ⟨traces, -, hcomes⟩ := Plan.comes_andThen_ok hcomes
      obtain ⟨made, -, hcomes⟩ := Plan.comes_andThen_ok (Plan.comes_notes hcomes)
      rw [reread_eq_ok] at hcomes
      cases hcomes
      refine ⟨⟨_, traceRequests_traceJobs hcapacity fetched.transactions, ?_⟩, rfl⟩
      have hleft := hl.requests_perm
      rw [map_request_receiptLane] at hleft
      rw [List.append_nil]
      have hboth := hperm.map Exchange.request
      rw [List.map_append] at hboth
      exact hboth.trans (hleft.append hr.requests_perm)

/-! ### Uncles -/

theorem uncles_of_unclesOf {header : Header} {reply : BatchReply}
    (huncles : unclesOf header reply = .ok uncles) :
    ∃ replies, reply = .ok replies ∧ Forall₃ (fun _ single uncle ↦ ∃ value, single = .ok value ∧
      Header.decode.run value = .ok uncle) header.uncles replies uncles := by
  obtain ⟨replies, hreplies, hread⟩ := bind_eq_ok huncles
  obtain ⟨rfl, hlength⟩ := batchReplies_eq_ok hreplies
  have hall : Forall₃ (fun hash single uncle ↦ uncleOf header hash single = .ok uncle)
      header.uncles replies uncles := mapM_zip_eq_ok hlength.symm hread
  refine ⟨replies, rfl, hall.imp fun hash single uncle huncle ↦ ?_⟩
  obtain ⟨value, hvalue, huncle⟩ := bind_eq_ok huncle
  refine ⟨value, replyValue_eq_ok hvalue, ?_⟩
  split at huncle
  · cases huncle
  · exact decodeAs_eq_ok huncle

theorem lookup_uncles_blockMetadata (header : Header) (uncles : List Header) :
    (blockMetadata header uncles).lookup "uncles" = (uncleMembers uncles).lookup "uncles" := by
  have hreverse : (uncleMembers uncles).reverse = uncleMembers uncles := by
    unfold uncleMembers
    split <;> rfl
  rw [blockMetadata, sortedMembers, Json.lookup_foldl_insertMember, List.reverse_append, hreverse,
    List.lookup_append, Option.or_assoc]
  simp only [List.reverse_append, List.lookup_append, Json.reverse_optional, Json.lookup_optional,
    List.reverse_cons, List.reverse_nil, List.nil_append, Json.lookup_cons_eq_ite, List.lookup_nil,
    String.reduceEq, if_false, Option.or_none]

/-- The entry that an uncle has at a place. -/
def uncleEntry (uncle : Header) (place : Nat) : Json :=
  .ofMembers [("index", .nat place), ("hash", encodeFixed uncle.hash),
    ("number", encodeWord uncle.number), ("miner", .str uncle.miner.checksummed)]

theorem showsUncle_uncleEntry {value : Json} {uncle : Header}
    (hread : Header.decode.run value = .ok uncle) (place : Nat) :
    ShowsUncle place (.ok value) (uncleEntry uncle place) := by
  refine ⟨value, uncle, _, rfl, hread, rfl, ?_⟩
  simp only [Json.lookup_foldl_insertMember, List.reverse_cons, List.reverse_nil, List.nil_append,
    List.cons_append, Json.lookup_cons_eq_ite, List.lookup_nil, String.reduceEq, if_true, if_false,
    Option.some_or, and_self]

theorem listsUncles_blockMetadata {header : Header} {replies : List CallReply}
    (hall : Forall₃ (fun (_ : Hash) single uncle ↦ ∃ value, single = .ok value ∧
      Header.decode.run value = .ok uncle) header.uncles replies uncles) :
    ListsUncles header replies (blockMetadata header uncles) where
  absent := by
    intro hnone
    have hlength := hall.length_left.trans hall.length_right
    rw [hnone] at hlength
    rw [lookup_uncles_blockMetadata, List.eq_nil_of_length_eq_zero hlength.symm]
    rfl
  present := by
    intro hsome
    have hlength := hall.length_left.trans hall.length_right
    have huncles : uncles.isEmpty = false := by
      cases uncles with
      | nil => exact absurd (List.eq_nil_of_length_eq_zero hlength) hsome
      | cons uncle rest => rfl
    refine ⟨uncles.zipIdx.map fun s ↦ uncleEntry s.1 s.2, ?_, ?_, hall.length_left.symm,
      fun place reply hreply ↦ ?_⟩
    · rw [lookup_uncles_blockMetadata, uncleMembers, huncles]
      rfl
    · rw [List.length_map, List.length_zipIdx, hlength]
    · obtain ⟨uncle, _, huncle, -, value, rfl, hread⟩ := hall.rotate.exists_of_getElem? hreply
      refine ⟨uncleEntry uncle place, ?_, showsUncle_uncleEntry hread place⟩
      rw [List.getElem?_map, List.getElem?_zipIdx, huncle, Nat.zero_add]
      rfl

/-! ### The plan -/

/-- What is left to do when the block is known sends the batch for its uncles and what its body
needs. -/
theorem itemized_of_unclePlan {reference : BlockReference} {value : Json}
    (hcapacity : 0 < client.capacity) (hnames : BlockReference.Names requested reference)
    (hfetched : NodeBlock.decode.run value = .ok fetched)
    (hcomes : (unclePlan client fetched).Comes xs (.ok block)) :
    ∃ replies lanes, Itemized client client.capacity requested fetched replies lanes
      (.call (Question.block reference).call (.ok value) :: xs) block := by
  unfold unclePlan at hcomes
  split at hcomes
  · rename_i hnone
    have huncles : fetched.header.uncles = [] := List.isEmpty_iff.mp hnone
    obtain ⟨hbody, hmetadata⟩ := bodyRequests_of_comes hcapacity hcomes
    refine ⟨[], xs, ⟨reference, value, hnames, hfetched, ?_⟩, hbody, _, hmetadata, ?_⟩
    · rw [uncleExchanges, if_pos huncles, List.nil_append]
    · exact listsUncles_blockMetadata (huncles ▸ .nil)
  · rename_i hsome
    cases hcomes with
    | @batch _ _ _ reply ys _ hcomes =>
      obtain ⟨uncles, huncles, hrest⟩ := Plan.comes_andThen_ok hcomes
      obtain ⟨replies, rfl, hall⟩ := uncles_of_unclesOf huncles
      obtain ⟨hbody, hmetadata⟩ := bodyRequests_of_comes hcapacity hrest
      refine ⟨replies, ys, ⟨reference, value, hnames, hfetched, ?_⟩, hbody, _, hmetadata,
        listsUncles_blockMetadata hall⟩
      rw [uncleExchanges, if_neg fun hnone ↦ hsome (List.isEmpty_iff.mpr hnone), uncleCalls_eq,
        List.singleton_append]

/-- The exchanges by which a request for a block comes to a block are those that the block needs. -/
theorem itemized_of_plan (hcapacity : 0 < client.capacity)
    (hcomes : (plan client requested).Comes xs (.ok block)) :
    ∃ fetched replies lanes,
      Itemized client client.capacity requested fetched replies lanes xs block := by
  obtain ⟨reference, value, fetched, ys, hnames, hfetched, rfl, hrest⟩ :=
    exists_unclePlan_of_comes hcomes
  exact ⟨fetched, itemized_of_unclePlan hcapacity hnames hfetched hrest⟩

end Assembly

end BlockAssembly

namespace Session

open BlockAssembly

variable {σ : Type} {node : Responder σ} {session : Session σ}

theorem capacity_gate {client : Client} (hreached : Reached client node session) :
    session.system.world.gate.capacity = Gate.clampCapacity client.capacity :=
  (rests_of_reached hreached).gate.1

/-- Whenever a request for a block brings a block, in whatever round and whatever else is asked for
at the same time, its exchanges are those that the block needs, where the gate is the one that all
requests of the session share. If it is alone, they are all that was sent in the round. -/
theorem itemized_result_block (settings : Settings)
    (hreached : Reached settings.client node session)
    (requested : Option Ledger.PartialBlockIdentifier) (limits : Limits) (inquiries : List Inquiry)
    {place : Nat} (hplace : inquiries[place]? = some (.block requested)) {response : Response}
    (hok : (session.ask limits inquiries).1.results[place]? = some (some (.ok response))) :
    ∃ block fetched replies lanes xs, response = .block block ∧
      Itemized settings.client session.system.world.gate.capacity requested fetched replies lanes xs
        block ∧
      xs.Sublist (session.transcript limits inquiries) ∧
      (inquiries = [.block requested] →
        sentRequests (session.ask limits inquiries).1.journal = xs.map Exchange.request) := by
  have hcapacity : session.system.world.gate.capacity = settings.client.capacity := by
    rw [capacity_gate hreached]
    exact Client.clampCapacity_clampCapacity _
  have hpos : 0 < settings.client.capacity := Nat.lt_of_lt_of_le Nat.one_pos (Nat.le_max_left _ _)
  obtain ⟨result, xs, hresult, hsub, halone, hcomes | ⟨why, rfl, -⟩⟩ :=
    exists_exchanges hreached limits inquiries hplace
  · cases hok.symm.trans hresult
    obtain ⟨before, hbefore, hvalue⟩ := Plan.comes_map hcomes
    cases before with
    | error e => cases hvalue
    | ok block =>
      cases hvalue
      obtain ⟨fetched, replies, lanes, hitemized⟩ := itemized_of_plan hpos hbefore
      refine ⟨block, fetched, replies, lanes, xs, rfl, hcapacity ▸ hitemized, hsub, fun hone ↦ ?_⟩
      rw [halone hone, map_request_transcript]
  · cases hok.symm.trans hresult

/-- Two uncles and three transactions, whose traces are asked for in batches through a gate of two
units. -/
theorem itemized_result_block_sample :
    ∃ block entries lanes,
      ((Sample.session 2 true fun _ ↦ 0).ask ⟨none, none⟩ [.block none]).1.results[0]? =
        some (some (.ok (.block block))) ∧
      sentRequests ((Sample.session 2 true fun _ ↦ 0).ask ⟨none, none⟩ [.block none]).1.journal =
        .call (Question.block .latest).call ::
        .batch [(Question.uncle (.zero 32) 0).call, (Question.uncle (.zero 32) 1).call] :: lanes ∧
      lanes.Perm
        [.batch [(Question.receipt (Sample.hashOf 1)).call,
          (Question.receipt (Sample.hashOf 2)).call, (Question.receipt (Sample.hashOf 3)).call],
        .batch [(Question.trace (Sample.hashOf 1) "120s").call,
          (Question.trace (Sample.hashOf 2) "120s").call],
        .batch [(Question.trace (Sample.hashOf 3) "120s").call]] ∧
      block.metadata.bind (·.lookup "uncles") = some (.arr entries) ∧ entries.length = 2 := by
  obtain ⟨block, hresult, -⟩ := Sample.exists_block 2 true fun _ ↦ 0
  have hplace : [Inquiry.block none][0]? = some (.block none) := rfl
  obtain ⟨_, fetched, replies, lanes, xs, ⟨⟩, hitemized, hsub, hsent⟩ :=
    itemized_result_block (Sample.settings 2 true) (Sample.reached_session 2 true fun _ ↦ 0) none
      ⟨none, none⟩ _ hplace hresult
  obtain ⟨reference, value, hnames, hread, hxs⟩ := hitemized.exchanges
  cases hnames with
  | unnamed =>
    have hmem := hsub.subset (hxs ▸ List.mem_cons_self)
    obtain rfl := Sample.eq_nodeBlock hmem hread
    obtain ⟨members, hmetadata, huncles⟩ := hitemized.uncles
    obtain ⟨entries, hentries, hcount, -, -⟩ := huncles.present (List.cons_ne_nil _ _)
    obtain ⟨traces, ⟨pieces, hpieces, rfl⟩, hlanes⟩ := hitemized.body
    have hcut (first second third : Call) :
        Pieces 2 [first, second, third] [[first, second], [third]] :=
      ⟨rfl, by simp, by simp, by simp⟩
    obtain rfl := hpieces.unique (hcut _ _ _)
    refine ⟨block, entries, lanes.map Exchange.request, hresult, ?_, hlanes, ?_, hcount⟩
    · rw [hsent rfl, hxs]
      rfl
    · rw [hmetadata]
      exact hentries

end Session

end RollupLedger
