import RollupLedger.Proofs.Block.Complete
import RollupLedger.Proofs.Flatten.Walk
import RollupLedger.Proofs.Wire.RoundTrip

/-!
# Which receipts the transactions of a block are given

The node may reply to a batch of receipts in any order, with receipts of other transactions, with
several of one or with none, as long as every reply that is not null is a receipt (`Legible`).
Transactions with hashes of their own are each given the last receipt that names them, whatever was
given to others, and the batch fails exactly if some transaction is named by none, for the first of
these (`matched_receipts`). Where no two receipts name one transaction, the order of the replies
does not matter.
-/

set_option autoImplicit false
set_option relaxedAutoImplicit false

namespace RollupLedger.BlockAssembly

open Wire

/-! ### What replies carry -/

/-- A reply is this receipt, as it was received. -/
def Carries (reply : CallReply) (receipt : RawReceipt) : Prop :=
  reply = .ok receipt.raw ∧ Receipt.decode.run receipt.raw = .ok receipt.receipt

/-- Some reply is a receipt of the transaction of this hash. -/
def Names (replies : List CallReply) (hash : Hash) : Prop :=
  ∃ reply ∈ replies, ∃ receipt, Carries reply receipt ∧ receipt.receipt.transactionHash = hash

/-- A receipt of the transaction of this hash, after which the replies have none. -/
def IsLast (replies : List CallReply) (hash : Hash) (receipt : RawReceipt) : Prop :=
  ∃ before reply after, replies = before ++ reply :: after ∧ Carries reply receipt ∧
    receipt.receipt.transactionHash = hash ∧ ¬ Names after hash

/-- One reply for each transaction, and each null or a receipt of whatever transaction. -/
structure Legible (txs : List SignedTransaction) (replies : List CallReply) : Prop where
  length : replies.length = txs.length
  read : ∀ reply ∈ replies, ∃ value, reply = .ok value ∧
    (value.isNull = true ∨ ∃ receipt, Receipt.decode.run value = .ok receipt)

/-- No two replies are receipts of one transaction. -/
def Singular (replies : List CallReply) : Prop :=
  replies.Pairwise fun reply other ↦ ∀ receipt another, Carries reply receipt →
    Carries other another → receipt.receipt.transactionHash ≠ another.receipt.transactionHash

/-- The receipt that a reply carries, if it does. -/
def carried? : CallReply → Option RawReceipt
  | .ok value => (Receipt.decode.run value).toOption.map (⟨·, value⟩)
  | .error _ => none

section Matching

variable {reply : CallReply} {receipt : RawReceipt} {replies others : List CallReply} {hash : Hash}

theorem carried?_eq_some_iff : carried? reply = some receipt ↔ Carries reply receipt := by
  cases reply with
  | error message => exact ⟨nofun, nofun⟩
  | ok value =>
    obtain ⟨read, raw⟩ := receipt
    simp only [carried?, Carries, Except.ok.injEq]
    cases hread : Receipt.decode.run value with
    | error failure =>
      refine ⟨nofun, ?_⟩
      rintro ⟨rfl, hok⟩
      cases hread.symm.trans hok
    | ok other =>
      simp only [Except.toOption, Option.map_some, Option.some.injEq, RawReceipt.mk.injEq]
      constructor
      · rintro ⟨rfl, rfl⟩
        exact ⟨rfl, hread⟩
      · rintro ⟨rfl, hok⟩
        cases hread.symm.trans hok
        exact ⟨rfl, rfl⟩

theorem Carries.unique {other : RawReceipt} (hcarries : Carries reply receipt)
    (hother : Carries reply other) : receipt = other :=
  Option.some.inj ((carried?_eq_some_iff.mpr hcarries).symm.trans
    (carried?_eq_some_iff.mpr hother))

theorem any_carried?_iff :
    (carried? reply).any (·.receipt.transactionHash == hash) = true ↔
      ∃ receipt, Carries reply receipt ∧ receipt.receipt.transactionHash = hash := by
  simp only [Option.any_eq_true, carried?_eq_some_iff, beq_iff_eq]

/-! ### The last receipt -/

/-- What is taken for a transaction is the last of its receipts. -/
theorem takeReceipt_eq_some_iff :
    (takeReceipt hash (replies.filterMap carried?)).1 = some receipt ↔
      IsLast replies hash receipt := by
  rw [takeReceipt, ← List.filterMap_reverse, List.find?_filterMap, Option.bind_eq_some_iff]
  simp only [List.find?_eq_some_iff_append, any_carried?_iff, carried?_eq_some_iff]
  constructor
  · rintro ⟨reply, ⟨⟨same, hsame, hhash⟩, after, before, hsplit, hlater⟩, hcarries⟩
    obtain rfl : same = receipt := hsame.unique hcarries
    refine ⟨before.reverse, reply, after.reverse, ?_, hcarries, hhash, ?_⟩
    · rw [← List.reverse_reverse replies, hsplit, List.reverse_append, List.reverse_cons,
        List.append_assoc, List.singleton_append]
    · rintro ⟨later, hmem, hnames⟩
      have hnone := hlater later (List.mem_reverse.mp hmem)
      rw [any_carried?_iff.mpr hnames] at hnone
      cases hnone
  · rintro ⟨before, reply, after, rfl, hcarries, hhash, hlater⟩
    refine ⟨reply, ⟨⟨receipt, hcarries, hhash⟩, after.reverse, before.reverse, ?_, ?_⟩, hcarries⟩
    · rw [List.reverse_append, List.reverse_cons, List.append_assoc, List.singleton_append]
    · intro later hmem
      rw [Bool.not_eq_true', Bool.eq_false_iff, ne_eq, any_carried?_iff]
      exact fun hnames ↦ hlater ⟨later, List.mem_reverse.mp hmem, hnames⟩

theorem exists_takeReceipt_iff :
    (∃ receipt, (takeReceipt hash (replies.filterMap carried?)).1 = some receipt) ↔
      Names replies hash := by
  rw [takeReceipt, ← List.filterMap_reverse, List.find?_filterMap]
  constructor
  · rintro ⟨receipt, hfound⟩
    obtain ⟨reply, hreply, -⟩ := Option.bind_eq_some_iff.mp hfound
    have hnames := List.find?_some hreply
    exact ⟨reply, List.mem_reverse.mp (List.mem_of_find?_eq_some hreply),
      any_carried?_iff.mp hnames⟩
  · rintro ⟨reply, hmem, hnames⟩
    have hsome : (replies.reverse.find? fun r ↦
        (carried? r).any (·.receipt.transactionHash == hash)).isSome :=
      List.find?_isSome.mpr ⟨reply, List.mem_reverse.mpr hmem, any_carried?_iff.mpr hnames⟩
    obtain ⟨found, hfound⟩ := Option.isSome_iff_exists.mp hsome
    have hany := List.find?_some hfound
    obtain ⟨receipt, hcarries, -⟩ := any_carried?_iff.mp hany
    exact ⟨receipt, Option.bind_eq_some_iff.mpr ⟨found, hfound, carried?_eq_some_iff.mpr hcarries⟩⟩

/-- A receipt that is the only one of its transaction is the last one wherever it stands. -/
theorem isLast_iff_of_singular (hsingular : Singular replies) :
    IsLast replies hash receipt ↔
      (∃ reply ∈ replies, Carries reply receipt) ∧ receipt.receipt.transactionHash = hash := by
  constructor
  · rintro ⟨before, reply, after, rfl, hcarries, hhash, -⟩
    exact ⟨⟨reply, List.mem_append_right before List.mem_cons_self, hcarries⟩, hhash⟩
  · rintro ⟨⟨reply, hmem, hcarries⟩, rfl⟩
    obtain ⟨before, after, rfl⟩ := List.append_of_mem hmem
    refine ⟨before, reply, after, rfl, hcarries, rfl, ?_⟩
    rintro ⟨later, hlater, another, hanother, hsame⟩
    have hdiffer := List.rel_of_pairwise_cons (List.pairwise_append.mp hsingular).2.1 hlater
    exact hdiffer receipt another hcarries hanother hsame.symm

theorem Singular.perm (hsingular : Singular replies) (hperm : replies.Perm others) :
    Singular others :=
  (hperm.pairwise_iff fun hdiffer receipt another hreceipt hanother ↦
    (hdiffer another receipt hanother hreceipt).symm).mp hsingular

theorem takeReceipt_perm (hsingular : Singular replies) (hperm : replies.Perm others)
    (hash : Hash) : (takeReceipt hash (replies.filterMap carried?)).1 =
      (takeReceipt hash (others.filterMap carried?)).1 := by
  refine Option.ext fun receipt ↦ ?_
  rw [takeReceipt_eq_some_iff, takeReceipt_eq_some_iff, isLast_iff_of_singular hsingular,
    isLast_iff_of_singular (hsingular.perm hperm)]
  simp only [hperm.mem_iff]

/-! ### Receipts of different transactions -/

/-- What is taken for one transaction leaves the receipts of all others. -/
theorem takeReceipt_of_others {other : Hash} (hdiffers : other ≠ hash)
    (received : List RawReceipt) :
    (takeReceipt other (takeReceipt hash received).2).1 = (takeReceipt other received).1 := by
  simp only [takeReceipt]
  rw [← List.filter_reverse, List.find?_filter]
  refine congrArg (List.find? · received.reverse) (funext fun r ↦ ?_)
  by_cases hown : r.receipt.transactionHash = other
  · simp [hown, hdiffers]
  · simp [hown]

/-- The receipt that a transaction is given, if it comes first. -/
def ownReceipt (block : Hash) (received : List RawReceipt) (t : SignedTransaction) :
    Except ClientError RawReceipt :=
  match (takeReceipt t.hash received).1 with
  | some receipt => .ok receipt
  | none => .error (.incomplete block (.receipt t.hash))

variable {block : Hash} {txs : List SignedTransaction}

/-- Transactions of different hashes are each given what they would be given first. -/
theorem matchReceipts_eq_mapM (hdistinct : (txs.map fun t ↦ t.hash).Nodup)
    (received left : List RawReceipt)
    (hleft : ∀ t ∈ txs, (takeReceipt t.hash left).1 = (takeReceipt t.hash received).1) :
    matchReceipts block txs left = txs.mapM (ownReceipt block received) := by
  induction txs generalizing left with
  | nil => rfl
  | cons t rest ih =>
    rw [List.map_cons, List.nodup_cons] at hdistinct
    rw [List.forall_mem_cons] at hleft
    have hrest : matchReceipts block rest (takeReceipt t.hash left).2 =
        rest.mapM (ownReceipt block received) := by
      refine ih hdistinct.2 _ fun s hs ↦ ?_
      have hother : s.hash ≠ t.hash := fun hsame ↦
        hdistinct.1 (hsame ▸ List.mem_map_of_mem hs)
      rw [takeReceipt_of_others hother, hleft.2 s hs]
    rw [List.mapM_cons, ownReceipt, ← hleft.1, ← hrest, matchReceipts]
    cases takeReceipt t.hash left with
    | mk found others =>
      cases found with
      | none => rfl
      | some receipt =>
        simp only
        cases matchReceipts block rest others <;> rfl

/-! ### The batch -/

theorem Legible.perm (hlegible : Legible txs replies) (hperm : replies.Perm others) :
    Legible txs others :=
  ⟨hperm.length_eq ▸ hlegible.length,
    fun reply hreply ↦ hlegible.read reply (hperm.mem_iff.mpr hreply)⟩

theorem receiptOf_of_legible (hlegible : Legible txs replies) (hreply : reply ∈ replies)
    (t : SignedTransaction) : receiptOf t reply = .ok (carried? reply) := by
  obtain ⟨value, rfl, hnull | ⟨receipt, hread⟩⟩ := hlegible.read reply hreply
  · have hnone : carried? (.ok value) = none := by
      cases hread : Receipt.decode.run value with
      | error failure => simp only [carried?, hread, Except.toOption, Option.map_none]
      | ok receipt => cases hnull.symm.trans (Json.isNull_of_record hread)
    have hvalue : replyValue receiptMethod (.ok value) = .ok value := rfl
    rw [hnone]
    simp only [receiptOf, hvalue, bind, Except.bind, hnull, if_true]
    rfl
  · rw [receiptOf_of_run hread, carried?, hread]
    rfl

/-- What a batch of receipts comes to that brings this reply. Without transactions none is sent. -/
def receiptsFrom (block : Hash) (txs : List SignedTransaction) (reply : BatchReply) :
    Except ClientError (List RawReceipt) :=
  receiptsOfLane block txs ((receiptLane block txs).jobs.map fun _ ↦ reply)

theorem receiptsFrom_eq_receiptsOf (block : Hash) (hlength : replies.length = txs.length) :
    receiptsFrom block txs (.ok replies) = receiptsOf block txs replies := by
  cases txs with
  | nil =>
    obtain rfl := List.length_eq_zero_iff.mp hlength
    rfl
  | cons t rest =>
    have hbatch : batchReplies receiptMethod (t :: rest).length (.ok replies) = .ok replies := by
      rw [batchReplies, if_pos hlength]
    have hjobs : (receiptLane block (t :: rest)).jobs =
        [⟨none, true, receiptCalls (t :: rest)⟩] := rfl
    rw [receiptsFrom, hjobs, List.map_singleton, receiptsOfLane, hbatch]
    rfl

theorem receiptsFrom_eq_mapM (block : Hash) (hdistinct : (txs.map fun t ↦ t.hash).Nodup)
    (hlegible : Legible txs replies) :
    receiptsFrom block txs (.ok replies) =
      txs.mapM (ownReceipt block (replies.filterMap carried?)) := by
  have hsnd : (txs.zip replies).map Prod.snd = replies :=
    List.map_snd_zip (Nat.le_of_eq hlegible.length)
  have hread : (txs.zip replies).mapM (fun s ↦ receiptOf s.1 s.2) =
      .ok (replies.map carried?) := by
    refine mapM_of_forall₂ ?_
    conv => rhs; rw [← hsnd]
    rw [List.map_map, List.forall₂_map_right_iff, List.forall₂_same]
    exact fun s hs ↦ receiptOf_of_legible hlegible (List.of_mem_zip hs).2 s.1
  have hfound : (replies.map carried?).filterMap id = replies.filterMap carried? :=
    List.filterMap_map
  rw [receiptsFrom_eq_receiptsOf block hlegible.length]
  simp only [receiptsOf, hread, bind, Except.bind, hfound]
  exact matchReceipts_eq_mapM hdistinct _ _ fun _ _ ↦ rfl

theorem ownReceipt_eq_ok_iff {t : SignedTransaction} :
    ownReceipt block (replies.filterMap carried?) t = .ok receipt ↔
      IsLast replies t.hash receipt := by
  rw [← takeReceipt_eq_some_iff, ownReceipt]
  cases (takeReceipt t.hash (replies.filterMap carried?)).1 with
  | none => exact ⟨nofun, nofun⟩
  | some found => rw [Except.ok.injEq, Option.some.injEq]

theorem exists_ownReceipt_iff {t : SignedTransaction} :
    (∃ receipt, ownReceipt block (replies.filterMap carried?) t = .ok receipt) ↔
      Names replies t.hash := by
  simp only [ownReceipt_eq_ok_iff, ← takeReceipt_eq_some_iff, exists_takeReceipt_iff]

theorem ownReceipt_eq_error_iff {t : SignedTransaction} {e : ClientError} :
    ownReceipt block (replies.filterMap carried?) t = .error e ↔
      ¬ Names replies t.hash ∧ e = .incomplete block (.receipt t.hash) := by
  rw [← exists_takeReceipt_iff, ownReceipt]
  cases (takeReceipt t.hash (replies.filterMap carried?)).1 with
  | none =>
    rw [Except.error.injEq, and_iff_right (by rintro ⟨_, ⟨⟩⟩)]
    exact eq_comm
  | some found => exact ⟨nofun, fun hnone ↦ absurd ⟨found, rfl⟩ hnone.1⟩

/-- Transactions with hashes of their own, and a batch whose replies are null or receipts. It
succeeds exactly if the replies name every transaction, and then each transaction has the last
receipt that names it, as it was received. Otherwise it fails for the first transaction that is not
named. If no two receipts name one transaction, the replies may come in any order. -/
theorem matched_receipts (block : Hash) (hdistinct : (txs.map fun t ↦ t.hash).Nodup)
    (hlegible : Legible txs replies) :
    ((∃ receipts, receiptsFrom block txs (.ok replies) = .ok receipts) ↔
        ∀ t ∈ txs, Names replies t.hash) ∧
      (∀ receipts, receiptsFrom block txs (.ok replies) = .ok receipts →
        txs.Forall₂ (fun t receipt ↦ IsLast replies t.hash receipt) receipts) ∧
      (∀ e, receiptsFrom block txs (.ok replies) = .error e ↔
        ∃ before t after, txs = before ++ t :: after ∧ (∀ s ∈ before, Names replies s.hash) ∧
          ¬ Names replies t.hash ∧ e = .incomplete block (.receipt t.hash)) ∧
      (Singular replies → ∀ others, replies.Perm others →
        receiptsFrom block txs (.ok others) = receiptsFrom block txs (.ok replies)) := by
  rw [receiptsFrom_eq_mapM block hdistinct hlegible]
  refine ⟨⟨?_, fun hnamed ↦ ?_⟩, fun receipts hreceipts ↦ ?_, fun e ↦ ?_, ?_⟩
  · rintro ⟨receipts, hreceipts⟩ t ht
    obtain ⟨place, hplace, rfl⟩ := List.mem_iff_getElem.mp ht
    have hall := mapM_eq_ok hreceipts
    exact exists_ownReceipt_iff.mp ⟨_, List.Forall₂.get hall hplace (hall.length_eq ▸ hplace)⟩
  · obtain ⟨receipts, hreceipts⟩ :=
      exists_forall₂ fun t ht ↦ exists_ownReceipt_iff.mpr (hnamed t ht)
    exact ⟨receipts, mapM_of_forall₂ hreceipts⟩
  · exact (mapM_eq_ok hreceipts).imp fun _ _ hown ↦ ownReceipt_eq_ok_iff.mp hown
  · simp only [mapM_eq_error_iff, exists_ownReceipt_iff, ownReceipt_eq_error_iff]
  · intro hsingular others hperm
    rw [receiptsFrom_eq_mapM block hdistinct (hlegible.perm hperm)]
    refine congrArg (List.mapM · txs) (funext fun t ↦ ?_)
    rw [ownReceipt, ownReceipt, takeReceipt_perm hsingular hperm]

end Matching

/-! ### Two transactions -/

namespace Sample

open Flatten.Sample

def secondHash : Hash := ⟨List.replicate 31 0 ++ [1], rfl⟩

/-- A transaction beside the sample transfer, with another hash. -/
def second : SignedTransaction := { transfer with hash := secondHash }

def secondReceipt : Receipt := { receipt with transactionHash := secondHash }

/-- The receipts of both, in the order opposite to that of the transactions. -/
def swapped : List CallReply := [.ok secondReceipt.encode, .ok receipt.encode]

/-- A receipt of the first for each of them. -/
def doubled : List CallReply := [.ok receipt.encode, .ok receipt.encode]

theorem nodup_hashes : ([transfer, second].map fun t ↦ t.hash).Nodup := by
  decide

theorem carries_encode {r : Receipt} (hbloom : r.logsBloom = none) :
    Carries (.ok r.encode) ⟨r, r.encode⟩ := by
  refine ⟨rfl, ?_⟩
  rw [Json.Decoder.run, Receipt.decode_encode (by simp [hbloom]), Json.Decoding.result_pure]

theorem legible_of_carries {txs : List SignedTransaction} {replies : List CallReply}
    (hlength : replies.length = txs.length)
    (hcarries : ∀ reply ∈ replies, ∃ receipt, Carries reply receipt) : Legible txs replies := by
  refine ⟨hlength, fun reply hreply ↦ ?_⟩
  obtain ⟨r, hvalue, hread⟩ := hcarries reply hreply
  exact ⟨r.raw, hvalue, Or.inr ⟨r.receipt, hread⟩⟩

theorem legible_swapped : Legible [transfer, second] swapped := by
  refine legible_of_carries rfl (List.forall_mem_cons.mpr ⟨⟨_, carries_encode rfl⟩, ?_⟩)
  exact List.forall_mem_singleton.mpr ⟨_, carries_encode rfl⟩

theorem legible_doubled : Legible [transfer, second] doubled := by
  refine legible_of_carries rfl (List.forall_mem_cons.mpr ⟨⟨_, carries_encode rfl⟩, ?_⟩)
  exact List.forall_mem_singleton.mpr ⟨_, carries_encode rfl⟩

theorem names_swapped : ∀ t ∈ [transfer, second], Names swapped t.hash := by
  refine List.forall_mem_cons.mpr ⟨?_, List.forall_mem_singleton.mpr ?_⟩
  · exact ⟨_, List.mem_cons_of_mem _ List.mem_cons_self, _, carries_encode rfl, rfl⟩
  · exact ⟨_, List.mem_cons_self, _, carries_encode rfl, rfl⟩

theorem not_names_doubled : ¬ Names doubled second.hash := by
  rintro ⟨reply, hreply, r, hcarries, hhash⟩
  obtain rfl : reply = .ok receipt.encode := by
    simpa only [doubled, List.mem_cons, List.not_mem_nil, or_false, or_self] using hreply
  cases (carries_encode rfl).unique hcarries
  revert hhash
  decide

end Sample

/-- Swapped receipts reach the transactions that they name. Where the second transaction is named by
none, the batch fails for it. -/
theorem matched_receipts_swapped :
    (∃ receipts, receiptsFrom (.zero 32) [Flatten.Sample.transfer, Sample.second]
        (.ok Sample.swapped) = .ok receipts ∧
      [Flatten.Sample.transfer, Sample.second].Forall₂
        (fun t receipt ↦ IsLast Sample.swapped t.hash receipt) receipts) ∧
      receiptsFrom (.zero 32) [Flatten.Sample.transfer, Sample.second] (.ok Sample.doubled) =
        .error (.incomplete (.zero 32) (.receipt Sample.secondHash)) := by
  obtain ⟨hnamed, hlast, -⟩ :=
    matched_receipts (.zero 32) Sample.nodup_hashes Sample.legible_swapped
  obtain ⟨-, -, hfails, -⟩ :=
    matched_receipts (.zero 32) Sample.nodup_hashes Sample.legible_doubled
  obtain ⟨receipts, hreceipts⟩ := hnamed.mpr Sample.names_swapped
  refine ⟨⟨receipts, hreceipts, hlast receipts hreceipts⟩, (hfails _).mpr ?_⟩
  refine ⟨[Flatten.Sample.transfer], Sample.second, [], rfl, List.forall_mem_singleton.mpr ?_,
    Sample.not_names_doubled, rfl⟩
  exact ⟨_, List.mem_cons_self, _, Sample.carries_encode rfl, rfl⟩

end RollupLedger.BlockAssembly
