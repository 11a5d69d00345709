import RollupLedger.Proofs.Flatten.Flow
import RollupLedger.Proofs.Word

/-!
# What mintings and fees add to the weight

For any selection of operations: the minting adds what the sender is given (`flow_mintPostings`),
the execution fee what its receivers are given less what the sender pays (`flow_executionPostings`),
and the fee for the data likewise (`flow_dataFeePostings`). The two parts of the execution fee make
up the whole (`priority_add_base`), which is why a fee of nothing credits nothing.
-/

set_option autoImplicit false
set_option relaxedAutoImplicit false

namespace RollupLedger

namespace ExecutionFee

open Wire

variable (t : SignedTransaction) (receipt : Receipt) (block : BlockContext)

theorem base_le_total : (base t receipt block).toNat ≤ (total t receipt).toNat := by
  unfold base
  cases block.baseFee with
  | none => exact Nat.zero_le _
  | some baseFee =>
    simp only [Word.toNat_least]
    exact Nat.min_le_right _ _

theorem priority_add_base :
    (priority t receipt block).toNat + (base t receipt block).toNat =
      (total t receipt).toNat := by
  rw [priority, Word.toNat_floorSub]
  have := base_le_total t receipt block
  omega

end ExecutionFee

namespace Flatten

open Ledger Wire ExecutionFee

variable (select : Selection) (t : SignedTransaction) (receipt : Receipt) (block : BlockContext)
  (chain : Chain)

theorem flow_mintPostings :
    ((mintPostings t).map (Posting.flow select)).sum =
      (t.mint.map fun mint ↦ portion select .mint ⟨t.sender, mint⟩).getD 0 := by
  unfold mintPostings
  cases t.mint with
  | none => rfl
  | some mint =>
    by_cases hzero : mint.toNat = 0
    · simp [Word.nonzero?, Word.isZero_iff.mpr hzero, portion, hzero]
    · simp [Word.nonzero?, Word.isZero_eq_false_iff.mpr hzero, Posting.flow, Posting.share,
        Posting.status, portion]

/-- The miner is given the priority fee. With a vault the sender pays the whole and the vault is
given the base fee; without one the sender pays the two parts apart. -/
theorem flow_executionPostings :
    ((executionPostings t receipt block chain).map (Posting.flow select)).sum =
      portion select .fee ⟨block.miner, priority t receipt block⟩ +
        match chain.baseFeeVault with
        | some vault =>
          portion select .fee ⟨vault, base t receipt block⟩ -
            portion select .fee ⟨t.sender, total t receipt⟩
        | none =>
          -portion select .fee ⟨t.sender, priority t receipt block⟩ -
            portion select .burn ⟨t.sender, base t receipt block⟩ := by
  have hparts := priority_add_base t receipt block
  unfold executionPostings
  cases chain.baseFeeVault with
  | some vault =>
    have hcovered : (total t receipt).toNat = 0 → ∀ side ∈
        [(⟨block.miner, priority t receipt block⟩ : Side), ⟨vault, base t receipt block⟩],
        side.value.toNat = 0 := by
      intro hzero side hside
      simp only [List.mem_cons, List.not_mem_nil, or_false] at hside
      rcases hside with rfl | rfl <;> simp only <;> omega
    simp only [flow_feePosting select .fee t.sender _ _ hcovered, List.map_cons, List.map_nil,
      List.sum_cons, List.sum_nil]
    ring
  | none =>
    have hcovered : (priority t receipt block).toNat = 0 → ∀ side ∈
        [(⟨block.miner, priority t receipt block⟩ : Side)], side.value.toNat = 0 := by
      intro hzero side hside
      rw [List.mem_singleton] at hside
      rw [hside, hzero]
    simp only [List.map_append, List.sum_append,
      flow_feePosting select .fee t.sender _ _ hcovered,
      flow_feePosting select .burn t.sender _ [] (by simp), List.map_cons, List.map_nil,
      List.sum_cons, List.sum_nil]
    ring

theorem flow_dataFeePostings (fee : Option (Word 256)) :
    ((dataFeePostings t chain fee).map (Posting.flow select)).sum =
      (fee.map fun fee ↦ portion select .l1Fee ⟨chain.l1FeeVault, fee⟩ -
        portion select .l1Fee ⟨t.sender, fee⟩).getD 0 := by
  cases fee with
  | none => rfl
  | some fee =>
    have hcovered : fee.toNat = 0 → ∀ side ∈ [(⟨chain.l1FeeVault, fee⟩ : Side)],
        side.value.toNat = 0 := by
      intro hzero side hside
      rw [List.mem_singleton] at hside
      rw [hside, hzero]
    simp [dataFeePostings, flow_feePosting select .l1Fee t.sender fee _ hcovered]

end Flatten

end RollupLedger
