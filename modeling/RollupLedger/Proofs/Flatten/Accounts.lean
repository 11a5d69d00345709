import RollupLedger.Proofs.Bytes.Address
import RollupLedger.Proofs.Flatten.Charges

/-!
# What flattening says about one account

The amounts of the successful operations on an account, minting and burning included, add up to what
the account is given less what it pays (`sum_accountAmounts`). The parts of the sum stand by
themselves, so an account that is sender, miner, vault and party to frames at once gets the sum of
all of them.
-/

set_option autoImplicit false
set_option relaxedAutoImplicit false

namespace RollupLedger.Flatten

open Ledger Trace Wire

/-! ### The charges as numbers -/

section Charges

variable (t : SignedTransaction) (receipt : Receipt) (block : BlockContext) (chain : Chain)

/-- What the sender is given out of nothing. -/
def minted : Nat := (t.mint.map Word.toNat).getD 0

/-- What the gas costs at the price that was paid, as far as a word can hold it. A deposit pays
nothing. -/
def executionCharge : Nat :=
  if t.isDeposit then 0
  else
    min (receipt.gasUsed.toNat * (ExecutionFee.effectiveGasPrice t receipt).toNat) (2 ^ 256 - 1)

/-- The part of the execution charge that the gas costs at the block's base fee. -/
def baseCharge : Nat :=
  match block.baseFee with
  | some baseFee => min (baseFee.toNat * receipt.gasUsed.toNat) (executionCharge t receipt)
  | none => 0

/-- The rest of the execution charge. -/
def priorityCharge : Nat := executionCharge t receipt - baseCharge t receipt block

/-- The charge for publishing the data, if there is one. -/
def dataCharge : Nat :=
  match DataFee.assess t receipt block chain with
  | .ok (some fee) => fee.toNat
  | _ => 0

end Charges

section NoDeposit

variable {t : SignedTransaction} (receipt : Receipt) (block : BlockContext)
  (hpays : t.isDeposit = false)
include hpays

theorem toNat_total : (ExecutionFee.total t receipt).toNat = executionCharge t receipt := by
  rw [ExecutionFee.total, Word.toNat_satMul, executionCharge, hpays]
  rfl

theorem toNat_base : (ExecutionFee.base t receipt block).toNat = baseCharge t receipt block := by
  have htotal := toNat_total receipt hpays
  have hfits := (ExecutionFee.total t receipt).toNat_lt
  unfold ExecutionFee.base baseCharge
  cases block.baseFee with
  | none => rfl
  | some baseFee =>
    simp only [Word.toNat_least, Word.toNat_satMul, Word.toNat_widen, htotal] at hfits ⊢
    omega

theorem toNat_priority :
    (ExecutionFee.priority t receipt block).toNat = priorityCharge t receipt block := by
  rw [ExecutionFee.priority, Word.toNat_floorSub, toNat_total receipt hpays,
    toNat_base receipt block hpays]
  rfl

end NoDeposit

theorem baseCharge_le (t : SignedTransaction) (receipt : Receipt) (block : BlockContext) :
    baseCharge t receipt block ≤ executionCharge t receipt := by
  unfold baseCharge
  cases block.baseFee with
  | none => exact Nat.zero_le _
  | some baseFee => exact Nat.min_le_right _ _

/-! ### The operations on an account -/

/-- The successful operations on an account. -/
def touching (holder : Address) : Selection := fun _ status touched ↦
  status == .success && decide (touched = some (account holder))

/-- The amounts of the successful operations on an account. -/
def accountAmounts (holder : Address) (operations : List Operation) : List Amount :=
  (selected (touching holder) operations).filterMap Operation.amount

theorem account_inj {a b : Address} : account a = account b ↔ a = b := by
  constructor
  · intro haccount
    exact Address.checksummed_injective (congrArg AccountIdentifier.address haccount)
  · rintro rfl
    rfl

theorem touching_success (holder party : Address) (type : OperationType) :
    touching holder type .success (some (account party)) = decide (party = holder) := by
  simp [touching, account_inj]

theorem portion_touching (holder party : Address) (type : OperationType) (value : Word 256) :
    portion (touching holder) type ⟨party, value⟩ =
      if holder = party then (value.toNat : Int) else 0 := by
  rw [portion, touching_success]
  by_cases hparty : party = holder
  · simp [hparty]
  · simp [hparty, Ne.symm hparty]

theorem flow_touching_mint (t : SignedTransaction) (holder : Address) :
    ((mintPostings t).map (Posting.flow (touching holder))).sum =
      if holder = t.sender then (minted t : Int) else 0 := by
  rw [flow_mintPostings]
  unfold minted
  cases t.mint with
  | none => simp
  | some mint => simp [portion_touching]

theorem flow_touching_fees {t : SignedTransaction} {receipt : Receipt} {block : BlockContext}
    {chain : Chain} {fees : List Posting} (hfees : feePostings t receipt block chain = .ok fees)
    (holder : Address) :
    (fees.map (Posting.flow (touching holder))).sum =
      (if holder = block.miner then (priorityCharge t receipt block : Int) else 0) +
      (if chain.baseFeeVault = some holder then (baseCharge t receipt block : Int) else 0) +
      (if holder = chain.l1FeeVault then (dataCharge t receipt block chain : Int) else 0) -
      (if holder = t.sender then
        (executionCharge t receipt : Int) + dataCharge t receipt block chain else 0) := by
  rcases feePostings_eq_ok hfees with ⟨hdeposit, rfl⟩ | ⟨hpays, fee, hassess, rfl⟩
  · have hexecution : executionCharge t receipt = 0 := by simp [executionCharge, hdeposit]
    have hbase : baseCharge t receipt block = 0 := by
      have := baseCharge_le t receipt block
      omega
    have hdata : dataCharge t receipt block chain = 0 := by
      simp [dataCharge, DataFee.assess, hdeposit]
    simp [hexecution, hbase, hdata, priorityCharge]
  · have hdata : ((dataFeePostings t chain fee).map (Posting.flow (touching holder))).sum =
        (if holder = chain.l1FeeVault then (dataCharge t receipt block chain : Int) else 0) -
        (if holder = t.sender then (dataCharge t receipt block chain : Int) else 0) := by
      rw [flow_dataFeePostings]
      cases fee with
      | none => simp [dataCharge, hassess]
      | some fee => simp [dataCharge, hassess, portion_touching]
    have hparts : priorityCharge t receipt block + baseCharge t receipt block =
        executionCharge t receipt := Nat.sub_add_cancel (baseCharge_le t receipt block)
    rw [List.map_append, List.sum_append, flow_executionPostings, hdata]
    simp only [portion_touching, toNat_total receipt hpays, toNat_base receipt block hpays,
      toNat_priority receipt block hpays]
    cases chain.baseFeeVault with
    | some vault =>
      simp only [Option.some.injEq, eq_comm (a := vault) (b := holder)]
      split_ifs <;> omega
    | none =>
      simp only [reduceCtorEq, if_false]
      split_ifs <;> omega

/-- The amounts on an account are read as numbers whose exact sum is what it is given less what it
pays: the minting and the charges if it is the sender, its parts of the charges if it receives any,
and the values of the successful frames that have it for a recipient or a caller. -/
theorem sum_accountAmounts {frame : CallFrame} {arena : Arena}
    (harena : Arena.ofFrame frame = .ok arena) {t : SignedTransaction} {receipt : Receipt}
    {block : BlockContext} {chain : Chain} {operations : List Operation}
    (hflat : flatten t receipt arena block chain = .ok operations) (holder : Address) :
    ∃ entries, readAmounts? (accountAmounts holder operations) = some entries ∧
      (entries.map fun e ↦ e.2.toInt).sum =
        (if holder = t.sender then
          (minted t : Int) - executionCharge t receipt - dataCharge t receipt block chain else 0) +
        (if holder = block.miner then (priorityCharge t receipt block : Int) else 0) +
        (if chain.baseFeeVault = some holder then (baseCharge t receipt block : Int) else 0) +
        (if holder = chain.l1FeeVault then (dataCharge t receipt block chain : Int) else 0) +
        movedBy (fun visit ↦ decide (visit.body.callee = some holder))
          (walk (receiptError receipt) frame) -
        movedBy (fun visit ↦ decide (visit.body.caller = holder))
          (walk (receiptError receipt) frame) := by
  obtain ⟨tree, htree, rfl⟩ := Arena.exists_tree_of_ofFrame harena
  obtain ⟨fees, hfees, rfl⟩ := flatten_eq_ok hflat
  obtain ⟨entries, hread, hsum, -⟩ := exists_readAmounts?_selected (touching holder) chain.currency
    (mintPostings t ++ callPostings (.ofTree tree) receipt.succeeded ++ fees) 0
  refine ⟨entries, hread, ?_⟩
  have hcalls := @flow_visits (touching holder) (fun party ↦ decide (party = holder))
    (fun _ _ ↦ rfl) (fun type party _ ↦ touching_success holder party type)
    (walk (receiptError receipt) frame)
  have hcallee : (fun visit : Visit ↦ visit.body.callee.any fun party ↦ decide (party = holder)) =
      fun visit ↦ decide (visit.body.callee = some holder) := by
    funext visit
    cases visit.body.callee <;> simp
  rw [hsum, List.map_append, List.map_append, List.sum_append, List.sum_append,
    flow_touching_mint, callPostings_eq htree, hcalls, hcallee, flow_touching_fees hfees]
  split_ifs <;> omega

/-- The sender of the sample is given 7 and pays 20 for the execution, 6 for the data and 5 to whom
it calls; what the call that failed would have brought it back does not count. -/
theorem sum_accountAmounts_sender :
    ∃ arena operations entries, Arena.ofFrame Sample.trace = .ok arena ∧
      flatten Sample.transfer Sample.receipt arena Sample.block .standard = .ok operations ∧
      readAmounts? (accountAmounts (Sample.holder 1) operations) = some entries ∧
      (entries.map fun e ↦ e.2.toInt).sum = -24 := by
  obtain ⟨arena, harena⟩ := Sample.arena_trace
  obtain ⟨operations, hflat⟩ := Sample.flatten_transfer arena
  obtain ⟨entries, hread, hsum⟩ := sum_accountAmounts harena hflat (Sample.holder 1)
  exact ⟨arena, operations, entries, harena, hflat, hread, hsum⟩

end RollupLedger.Flatten
