import RollupLedger.Proofs.Flatten.Charges
import RollupLedger.Proofs.Ledger.Total

/-!
# Flattened transactions conserve value

The amounts of the operations that have to balance add up to minus what successful frames without a
recipient send away (`sum_balancedAmounts`). Fees balance among themselves, so only frames can tip
the scale, and where no value is sent without a recipient the operations pass the check, whatever
the size of the amounts and of their totals.
-/

set_option autoImplicit false
set_option relaxedAutoImplicit false

namespace RollupLedger.Flatten

open Ledger Trace Wire

/-- The operations that have to balance. -/
def balancing : Selection := fun type status _ ↦ status == .success && !type.isAsymmetric

/-- The total value that successful frames send to no one. -/
def unreceived (visits : List Visit) : Nat := movedBy (fun visit ↦ visit.body.callee.isNone) visits

theorem movedBy_callee (visits : List Visit) :
    movedBy (fun visit ↦ visit.body.callee.any fun _ ↦ true) visits + unreceived visits =
      movedBy (fun _ ↦ true) visits := by
  unfold unreceived
  induction visits with
  | nil => rfl
  | cons visit rest ih =>
    rw [movedBy_cons, movedBy_cons, movedBy_cons, ← ih]
    cases visit.body.callee <;> simp <;> omega

theorem unreceived_eq_zero {visits : List Visit}
    (hreceived : ∀ visit ∈ visits, visit.transfers → visit.value.toNat ≠ 0 →
      visit.body.callee ≠ none) : unreceived visits = 0 := by
  unfold unreceived
  induction visits with
  | nil => rfl
  | cons visit rest ih =>
    rw [movedBy_cons, ih fun other hother ↦ hreceived other (List.mem_cons_of_mem visit hother)]
    have hhead := hreceived visit List.mem_cons_self
    by_cases hzero : visit.value.toNat = 0
    · simp [hzero]
    · cases htransfers : visit.transfers with
      | false => simp
      | true =>
        have hcallee := hhead htransfers hzero
        cases hvalue : visit.body.callee with
        | none => exact absurd hvalue hcallee
        | some callee => simp

/-- Minting is not weighed, and fees balance. -/
theorem flow_balancing_fees {t : SignedTransaction} {receipt : Receipt} {block : BlockContext}
    {chain : Chain} {fees : List Posting} (hfees : feePostings t receipt block chain = .ok fees) :
    (fees.map (Posting.flow balancing)).sum = 0 := by
  have hfee (holder : Address) (value : Word 256) :
      portion balancing .fee ⟨holder, value⟩ = value.toNat := rfl
  have hl1Fee (holder : Address) (value : Word 256) :
      portion balancing .l1Fee ⟨holder, value⟩ = value.toNat := rfl
  have hburn (holder : Address) (value : Word 256) :
      portion balancing .burn ⟨holder, value⟩ = 0 := rfl
  rcases feePostings_eq_ok hfees with ⟨-, rfl⟩ | ⟨-, fee, -, rfl⟩
  · rfl
  · have hparts := ExecutionFee.priority_add_base t receipt block
    rw [List.map_append, List.sum_append, flow_executionPostings, flow_dataFeePostings]
    have hdata : (fee.map fun fee ↦ portion balancing .l1Fee ⟨chain.l1FeeVault, fee⟩ -
        portion balancing .l1Fee ⟨t.sender, fee⟩).getD 0 = 0 := by
      cases fee <;> simp [hl1Fee]
    rw [hdata]
    cases chain.baseFeeVault with
    | some vault =>
      simp only [hfee]
      omega
    | none =>
      simp only [hfee, hburn]
      omega

/-- The postings of a flattened transaction add up to minus what no one receives. -/
theorem flow_balancing (t : SignedTransaction) (receipt : Receipt) (block : BlockContext)
    (chain : Chain) {frame : CallFrame} {tree : CallTree}
    (htree : CallTree.ofFrame frame = .ok tree) {fees : List Posting}
    (hfees : feePostings t receipt block chain = .ok fees) :
    ((mintPostings t ++ callPostings (.ofTree tree) receipt.succeeded ++ fees).map
        (Posting.flow balancing)).sum =
      -(unreceived (walk (receiptError receipt) frame) : Int) := by
  have hmint : ((mintPostings t).map (Posting.flow balancing)).sum = 0 := by
    rw [flow_mintPostings]
    cases t.mint <;> rfl
  have hcalls := @flow_visits balancing (fun _ ↦ true) (fun _ _ ↦ rfl)
    (fun type holder htype ↦ by rcases htype with rfl | rfl | rfl | rfl <;> rfl)
    (walk (receiptError receipt) frame)
  have hsplit := movedBy_callee (walk (receiptError receipt) frame)
  rw [List.map_append, List.map_append, List.sum_append, List.sum_append, hmint,
    callPostings_eq htree, hcalls, flow_balancing_fees hfees]
  omega

/-- The amounts that have to balance are read as numbers whose exact sum is minus what successful
frames send to no one. Where all value that is sent has a recipient, the operations are therefore
found to conserve value. -/
theorem sum_balancedAmounts {frame : CallFrame} {arena : Arena}
    (harena : Arena.ofFrame frame = .ok arena) {t : SignedTransaction} {receipt : Receipt}
    {block : BlockContext} {chain : Chain} {operations : List Operation}
    (hflat : flatten t receipt arena block chain = .ok operations) :
    (∃ entries, readAmounts? (balancedAmounts operations) = some entries ∧
      (entries.map fun e ↦ e.2.toInt).sum =
        -(unreceived (walk (receiptError receipt) frame) : Int)) ∧
    ((∀ visit ∈ walk (receiptError receipt) frame, visit.transfers → visit.value.toNat ≠ 0 →
      visit.body.callee ≠ none) → isConserved operations = true) := by
  obtain ⟨tree, htree, rfl⟩ := Arena.exists_tree_of_ofFrame harena
  obtain ⟨fees, hfees, rfl⟩ := flatten_eq_ok hflat
  obtain ⟨entries, hread, hsum, hcurrency⟩ :=
    exists_readAmounts?_selected balancing chain.currency
      (mintPostings t ++ callPostings (.ofTree tree) receipt.succeeded ++ fees) 0
  rw [flow_balancing t receipt block chain htree hfees] at hsum
  refine ⟨⟨entries, hread, hsum⟩, fun hreceived ↦ ?_⟩
  rw [unreceived_eq_zero hreceived] at hsum
  refine isConserved_of_net_eq_zero entries hread fun e he ↦ ?_
  have hall : (entries.filter fun other ↦ other.1 == e.1) = entries := by
    refine List.filter_eq_self.mpr fun other hother ↦ ?_
    rw [hcurrency e he, hcurrency other hother, beq_self_eq_true]
  rw [net, hall, hsum]
  rfl

/-! ### With and without a creation -/

namespace Sample

/-- The sample without the creation, whose value is sent to no one. -/
def received : CallFrame := .mk outer [.mk delegated [.mk inner []]]

theorem known_received : Known received := by
  simp only [received, Known, AllKnown, outer, delegated, inner, body]
  decide

theorem arena_received : ∃ arena, Arena.ofFrame received = .ok arena := by
  obtain ⟨tree, htree⟩ := exists_tree_of_known received known_received
  exact ⟨.ofTree tree, by rw [Arena.ofFrame_eq, htree]; rfl⟩

end Sample

/-- The amounts of the sample fall short by the value of its creation, and without it they
balance. -/
theorem sum_balancedAmounts_creation :
    (∃ arena operations entries, Arena.ofFrame Sample.trace = .ok arena ∧
      flatten Sample.transfer Sample.receipt arena Sample.block .standard = .ok operations ∧
      readAmounts? (balancedAmounts operations) = some entries ∧
      (entries.map fun e ↦ e.2.toInt).sum = -4) ∧
    ∃ arena operations, Arena.ofFrame Sample.received = .ok arena ∧
      flatten Sample.transfer Sample.receipt arena Sample.block .standard = .ok operations ∧
      isConserved operations = true := by
  constructor
  · obtain ⟨arena, harena⟩ := Sample.arena_trace
    obtain ⟨operations, hflat⟩ := Sample.flatten_transfer arena
    obtain ⟨⟨entries, hread, hsum⟩, -⟩ := sum_balancedAmounts harena hflat
    exact ⟨arena, operations, entries, harena, hflat, hread, hsum⟩
  · obtain ⟨arena, harena⟩ := Sample.arena_received
    obtain ⟨operations, hflat⟩ := Sample.flatten_transfer arena
    obtain ⟨-, hconserved⟩ := sum_balancedAmounts harena hflat
    refine ⟨arena, operations, harena, hflat, hconserved ?_⟩
    decide

end RollupLedger.Flatten
